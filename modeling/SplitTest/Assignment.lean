import SplitTest.Compilation

/-! Assignments: what requests get from an experiment. Whether it is on comes first, then the key of
the request, the overrides, the targeting, and last the bucket. -/
namespace SplitTest

inductive RequestError where
  | missingKey (experiment key : String)
  | keyType (typeName : String)
  | evaluation (error : EvaluationError)
  | share (error : ShareError)
deriving DecidableEq, Repr

def RequestError.message : RequestError → String
  | missingKey experiment key => "must specify '" ++ key ++
      "' in call to variant for experiment '" ++ experiment ++ "'"
  | keyType typeName => "expected bucket val to be a string, actual: " ++ typeName
  | evaluation e => e.message
  | share e => e.message

/-- Whether an error is one that callers are told of, and not one of arithmetic on the way. -/
def RequestError.isFault : RequestError → Bool
  | missingKey _ _ => true
  | keyType _ => true
  | evaluation _ => false
  | share _ => false

inductive Assignment where
  /-- No variant: the experiment is off, or its targeting misses the request. -/
  | excluded
  | overridden (variant : String)
  /-- The variant of a bucket, empty where no variant has the bucket. -/
  | bucketed (variant : String)
deriving DecidableEq, Repr

/-- The name of the variant, empty if there is none. -/
def Assignment.variant : Assignment → String
  | excluded => ""
  | overridden v => v
  | bucketed v => v

namespace Experiment

/-- Whether an experiment is on at a moment; the moment it stops at is outside. -/
def isEnabled (x : Experiment) (now : Double) : Bool :=
  x.enabled && x.startTs.le now && now.lt x.stopTs

/-- The first override whose predicate holds. -/
def firstMatch (args : Arguments) : List Override → Except EvaluationError (Option String)
  | [] => .ok none
  | (variant, predicate) :: rest => do
    if ← predicate.evaluate args then return some variant else firstMatch args rest

def overrideFor (x : Experiment) (args : Arguments) : Except EvaluationError (Option String) :=
  firstMatch args x.overrides.flatten

def bucket (x : Experiment) (key : String) : Int :=
  bucketOf x.bucketSeed key

/-- What a request with arguments in lower case gets once its key is known to be there. -/
def assignFor (x : Experiment) (args : Arguments) (key : Value) :
    Except RequestError Assignment := do
  match ← (x.overrideFor args).mapError .evaluation with
  | some variant => return .overridden variant
  | none =>
    if ← (x.targeting.evaluate args).mapError .evaluation then
      match key with
      | .text key => return .bucketed (← (x.variantSet.choose (x.bucket key)).mapError .share)
      | _ => .error (.keyType key.typeName)
    else return .excluded

def assign (x : Experiment) (now : Double) (args : Arguments) : Except RequestError Assignment :=
  if x.isEnabled now then
    let lowered := args.lowered
    match lowered.get x.bucketKey with
    | .null | .text "" => .error (.missingKey x.name x.bucketKey)
    | key => x.assignFor lowered key
  else .ok .excluded

/-- The variant of a request at a moment, empty if there is none. -/
def variant (x : Experiment) (now : Double) (args : Arguments) : Except RequestError String :=
  (x.assign now args).map (·.variant)

/-- Name, key and value of a request, joined by colons; empty if the key is missing. A value that is
no text is given back by the name of its type. -/
def requestLabel (x : Experiment) (args : Arguments) : Except String String :=
  match Assoc.find? x.bucketKey args with
  | none => .ok ""
  | some (.text value) => .ok (x.name ++ ":" ++ x.bucketKey ++ ":" ++ value)
  | some v => .error v.typeName

end Experiment
end SplitTest
