import SplitTest.Predicate.MatchKey
import SplitTest.Text.Lowercase

/-! Predicates on the arguments of a request. Evaluation goes from left to right and stops at the
first child that settles the answer. -/
namespace SplitTest

/-- Numeric comparisons of a field with a threshold. -/
inductive Comparison where
  | gt | ge | lt | le | ne
deriving DecidableEq, Repr

namespace Comparison

def all : List Comparison := [gt, ge, lt, le, ne]

def name : Comparison → String
  | gt => "gt"
  | ge => "ge"
  | lt => "lt"
  | le => "le"
  | ne => "ne"

/-- Whether a comparison holds of two doubles; of what is not a number only `ne` does. -/
def holds (c : Comparison) (x y : Double) : Bool :=
  match c with
  | gt => y.lt x
  | ge => y.le x
  | lt => x.lt y
  | le => x.le y
  | ne => !x.eq y

end Comparison

/-- A predicate. Field names are in lower case. -/
inductive Predicate where
  | all (children : List Predicate)
  | any (children : List Predicate)
  | not (child : Predicate)
  | equal (field : String) (accepted : List MatchKey)
  | compare (op : Comparison) (field : String) (threshold : Value)
  | constant (answer : Bool)
deriving Inhabited, Repr

inductive EvaluationError where
  | integerTooLarge
  | longNumeral
deriving DecidableEq, Repr

def EvaluationError.message : EvaluationError → String
  | integerTooLarge => "int too large to convert to float"
  | longNumeral => longNumeralMessage ""

/-- The double a number is compared by. -/
def Number.comparand (x : Number) : Except EvaluationError Double :=
  match x.toDouble? with
  | some d => .ok d
  | none => .error .integerTooLarge

/-- Whether a value is one of the accepted ones; a list or an object is none. -/
def accepts (accepted : List MatchKey) (candidate : Value) : Except EvaluationError Bool :=
  match MatchKey.ofValue candidate with
  | .ok key => .ok (accepted.any (·.same key))
  | .error .notScalar => .ok false
  | .error .longNumeral => .error .longNumeral

/-- Whether a value stands in a comparison to a threshold; only numbers do. -/
def Comparison.test (op : Comparison) (candidate threshold : Value) :
    Except EvaluationError Bool :=
  match candidate.number?, threshold.number? with
  | some x, some y => do
    let left ← x.comparand
    let right ← y.comparand
    return op.holds left right
  | _, _ => .ok false

namespace Predicate

mutual

/-- The answer for arguments whose names are in lower case. -/
def evaluate (args : Arguments) : Predicate → Except EvaluationError Bool
  | .all children => evaluateAll args children
  | .any children => evaluateAny args children
  | .not child => (!·) <$> evaluate args child
  | .equal field accepted => accepts accepted (args.get field)
  | .compare op field threshold => op.test (args.get field) threshold
  | .constant answer => .ok answer

def evaluateAll (args : Arguments) : List Predicate → Except EvaluationError Bool
  | [] => .ok true
  | p :: rest => do
    if ← evaluate args p then evaluateAll args rest else return false

def evaluateAny (args : Arguments) : List Predicate → Except EvaluationError Bool
  | [] => .ok false
  | p :: rest => do
    if ← evaluate args p then return true else evaluateAny args rest

end

end Predicate

/-- Arguments with their names in lower case: names that become equal keep the first position and
the last value. -/
def Arguments.lowered (args : Arguments) : Arguments :=
  Assoc.ofList (args.map fun (name, v) => (lowercase name, v))

/-- The answer for arguments as a caller gives them. -/
def Predicate.matchesRequest (p : Predicate) (args : Arguments) : Except EvaluationError Bool :=
  p.evaluate args.lowered

end SplitTest
