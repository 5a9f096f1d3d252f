import SplitTest.Bucket
import SplitTest.Configuration.Basic
import SplitTest.Predicate.Document

/-! Compilation: the experiments that configurations describe, ready to answer requests. -/
namespace SplitTest

/-- A variant with the predicate that forces it. -/
abbrev Override := String × Predicate

structure Experiment where
  id : Int
  name : String
  /-- The argument that places a request, in lower case. -/
  bucketKey : String
  bucketSeed : String
  enabled : Bool
  startTs : Double
  stopTs : Double
  variantSet : VariantSet
  targeting : Predicate
  /-- Overrides by entry, in the order in which they are tried. -/
  overrides : List (List Override)
deriving Repr

inductive CompileError where
  | longNumeral
  | variants (error : VariantSetError)
  | targeting (error : PredicateError)
deriving DecidableEq, Repr

def CompileError.message : CompileError → String
  | longNumeral => longNumeralMessage ""
  | variants (.unknownType type) => "experiment type '" ++ type ++ "' unknown"
  | variants (.invalid e) => e.message
  | variants (.share e) => e.message
  | targeting e => e.message

/-- Whether an error is a fault found in the configuration, and not one of arithmetic on the way. -/
def CompileError.isFault : CompileError → Bool
  | longNumeral => false
  | variants (.share _) => false
  | variants _ => true
  | targeting .longNumeral => false
  | targeting _ => true

/-- The argument that places a request where a configuration names none. -/
def defaultBucketKey : String := "user_id"

/-- The seed of an experiment that has none of its own: id, name and version of the shuffle. -/
def defaultSeed (c : Configuration) : Except CompileError String :=
  if hasLongNumeral c.id || hasLongNumeral c.definition.shuffleVersion then .error .longNumeral
  else .ok (intText c.id ++ "." ++ c.name ++ "." ++ intText c.definition.shuffleVersion)

namespace Experiment

def seedOf (c : Configuration) : Except CompileError String :=
  if c.definition.bucketSeed = "" then defaultSeed c else .ok c.definition.bucketSeed

def bucketKeyOf (c : Configuration) : String :=
  lowercase (if c.definition.bucketKey = "" then defaultBucketKey else c.definition.bucketKey)

/-- The predicate of a targeting document; none, or an empty one, targets everyone. -/
def targetingOf : Value → Except PredicateError Predicate
  | .null => .ok (.constant true)
  | .object [] => .ok (.constant true)
  | v => Predicate.compile v

def overrideOf (entry : String × Value) : Except PredicateError Override := do
  return (entry.1, ← Predicate.compile entry.2)

def overridesOf (entries : List (List (String × Value))) :
    Except PredicateError (List (List Override)) :=
  entries.mapM fun entry => entry.mapM overrideOf

/-- The experiment of a configuration: its seed, its variants, its targeting, then its overrides. -/
def compile (c : Configuration) : Except CompileError Experiment := do
  let seed ← seedOf c
  let variantSet ← (VariantSet.ofType c.type c.definition.variants bucketCount).mapError .variants
  let targeting ← (targetingOf c.definition.targeting).mapError .targeting
  let overrides ← (overridesOf c.definition.overrides).mapError .targeting
  return {
    id := c.id
    name := c.name
    bucketKey := bucketKeyOf c
    bucketSeed := seed
    enabled := c.isEnabled
    startTs := c.startTs
    stopTs := c.stopTs
    variantSet
    targeting
    overrides }

/-- How an experiment appears in messages. -/
def summary (x : Experiment) : String :=
  "<SimpleExperiment " ++ x.name ++ " seed=" ++ quoted x.bucketSeed ++ " enabled=" ++
    (if x.enabled then "True" else "False") ++ ">"

end Experiment
end SplitTest
