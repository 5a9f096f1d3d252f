import SplitTest.Number.Floating

/-! Variant sets: how the variants of an experiment share out its buckets. -/
namespace SplitTest

/-- A named slice of the buckets: a share of all of them, or a range given by its two ends. -/
structure Variant where
  name : String
  size : Double
  rangeStart : Double
  rangeEnd : Double
deriving DecidableEq, Repr

/-- How variants are laid out over the buckets. -/
inductive Arrangement where
  | single
  | multi
  | rollout
  | range
deriving DecidableEq, Repr

namespace Arrangement

def name : Arrangement → String
  | single => "single_variant"
  | multi => "multi_variant"
  | rollout => "feature_rollout"
  | range => "range_variant"

/-- The arrangement that an experiment type asks for. -/
def ofName? (type : String) : Option Arrangement :=
  [single, multi, rollout, range].find? (·.name == type)

end Arrangement

inductive ShareError where
  | bucketsTooLarge
  | infinite
  | nan
deriving DecidableEq, Repr

def ShareError.message : ShareError → String
  | bucketsTooLarge => "int too large to convert to float"
  | infinite => "cannot convert float infinity to integer"
  | nan => "cannot convert float NaN to integer"

inductive VariantError where
  | noVariants
  | notOnePair
  | sharesNotUnit
  | fewerThanThree
  | sharesTooLarge
  | notOneVariant
  | shareNotUnit
deriving DecidableEq, Repr

def VariantError.message : VariantError → String
  | noVariants => "no variants provided"
  | notOnePair => "Single Variant experiments expects only one variant and one control"
  | sharesNotUnit => "sum of all variants must be between 0 and 1"
  | fewerThanThree => "Multi Variant experiments expects three or more variants"
  | sharesTooLarge => "sum of all variants is greater than 100%"
  | notOneVariant => "Rollout Variant experiments only supports one variant"
  | shareNotUnit => "variant size must be between 0 and 1"

inductive VariantSetError where
  | unknownType (type : String)
  | invalid (reason : VariantError)
  | share (reason : ShareError)
deriving DecidableEq, Repr

/-- A fraction of a number of buckets, as a rounded product. -/
def share (fraction : Double) (buckets : Int) : Except ShareError Double :=
  match Double.ofInt? buckets with
  | none => .error .bucketsTooLarge
  | some n => .ok (fraction.mul n)

/-- The whole buckets in a fraction of them; what is left over is dropped. -/
def wholeShare (fraction : Double) (buckets : Int) : Except ShareError Int := do
  match (← share fraction buckets).integerPart with
  | .ok n => .ok n
  | .error .nan => .error .nan
  | .error .infinite => .error .infinite

/-- The rounded sum of the shares of variants, from the first to the last. -/
def totalShare (buckets : Int) (start : Double) : List Variant → Except ShareError Double
  | [] => .ok start
  | v :: rest => do
    let part ← share v.size buckets
    totalShare buckets (start.add part) rest

/-- The sum of the whole buckets in the widths of ranges. -/
def totalWidth (buckets : Int) : List Variant → Except ShareError Int
  | [] => .ok 0
  | v :: rest => do
    let width ← wholeShare (v.rangeEnd.sub v.rangeStart) buckets
    return width + (← totalWidth buckets rest)

/-- Variants that passed the checks of their arrangement, with the number of buckets. -/
structure VariantSet where
  arrangement : Arrangement
  variants : List Variant
  buckets : Int
deriving DecidableEq, Repr

namespace VariantSet

/-- Whether a share lies between none and all; a share that is not a number is let through. -/
def unitShare (x : Double) : Bool :=
  !(x.lt (.ofInt 0) || (Floating.ofInt 1 : Double).lt x)

/-- The checks of an arrangement: how many variants there are, and what they add up to. -/
def check (buckets : Int) : Arrangement → List Variant → Except VariantSetError Unit
  | _, [] => .error (.invalid .noVariants)
  | .single, [first, second] =>
    if unitShare (first.size.add second.size) then .ok () else .error (.invalid .sharesNotUnit)
  | .single, _ => .error (.invalid .notOnePair)
  | .multi, variants =>
    if variants.length < 3 then .error (.invalid .fewerThanThree)
    else match totalShare buckets (.ofInt 0) variants with
      | .error e => .error (.share e)
      | .ok total => if total.gtInt buckets then .error (.invalid .sharesTooLarge) else .ok ()
  | .rollout, [variant] =>
    if unitShare variant.size then .ok () else .error (.invalid .shareNotUnit)
  | .rollout, _ => .error (.invalid .notOneVariant)
  | .range, variants =>
    match totalWidth buckets variants with
    | .error e => .error (.share e)
    | .ok total => if buckets < total then .error (.invalid .sharesTooLarge) else .ok ()

/-- The variant set of an experiment type, if there is such a type and the variants fit it. -/
def ofType (type : String) (variants : List Variant) (buckets : Int) :
    Except VariantSetError VariantSet :=
  match Arrangement.ofName? type with
  | none => .error (.unknownType type)
  | some arrangement => do
    check buckets arrangement variants
    return ⟨arrangement, variants, buckets⟩

/-- The position whose slice holds a bucket, when slices follow one another from `offset` on. -/
def stackedPosition (buckets bucket offset : Int) :
    List Variant → Except ShareError (Option Nat)
  | [] => .ok none
  | v :: rest => do
    let next := offset + (← wholeShare v.size buckets)
    if bucket < next then return some 0
    return (← stackedPosition buckets bucket next rest).map (· + 1)

/-- The first position whose own range holds a bucket. -/
def rangePosition (buckets bucket : Int) : List Variant → Except ShareError (Option Nat)
  | [] => .ok none
  | v :: rest => do
    let lower ← wholeShare v.rangeStart buckets
    let upper ← wholeShare v.rangeEnd buckets
    if lower ≤ bucket ∧ bucket < upper then return some 0
    return (← rangePosition buckets bucket rest).map (· + 1)

/-- The position of two variants that grow toward each other: the first from bucket zero up, the
second from the last bucket down. -/
def pairPosition (buckets bucket : Int) (first second : Variant) :
    Except ShareError (Option Nat) := do
  if bucket < (← wholeShare first.size buckets) then return some 0
  if buckets - (← wholeShare second.size buckets) ≤ bucket then return some 1
  return none

def position? (set : VariantSet) (bucket : Int) : Except ShareError (Option Nat) :=
  match set.arrangement, set.variants with
  | .single, [first, second] => pairPosition set.buckets bucket first second
  | .rollout, [variant] => stackedPosition set.buckets bucket 0 [variant]
  | .multi, variants => stackedPosition set.buckets bucket 0 variants
  | .range, variants => rangePosition set.buckets bucket variants
  | _, _ => .ok none

/-- The name of the variant that a bucket falls to, empty if it falls to none. -/
def choose (set : VariantSet) (bucket : Int) : Except ShareError String := do
  match ← set.position? bucket with
  | none => return ""
  | some i => return (set.variants[i]?.map (·.name)).getD ""

end VariantSet
end SplitTest
