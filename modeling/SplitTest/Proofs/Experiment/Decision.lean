import Mathlib.Tactic.Common
import SplitTest.Assignment
import SplitTest.Proofs.Outcome

/-! The order of decisions on a request: most are settled without its bucket, and what is left is
placed by its key. -/
namespace SplitTest

/-- Whether a value does not do as the key of a request. -/
def Value.isMissing : Value → Bool
  | .null => true
  | .text "" => true
  | _ => false

theorem Value.isMissing_iff {v : Value} : v.isMissing = true ↔ v = .null ∨ v = .text "" := by
  unfold Value.isMissing
  split
  · exact iff_of_true rfl (Or.inl rfl)
  · exact iff_of_true rfl (Or.inr rfl)
  · next hnull hempty => exact iff_of_false (by simp) (not_or.mpr ⟨hnull, hempty⟩)

/-- How far a request comes without its bucket: to an outcome, or to a key that is left to place. -/
inductive Progress where
  | settled (outcome : Except RequestError Assignment)
  | toPlace (key : Value)

def Progress.finish (place : Value → Except RequestError Assignment) :
    Progress → Except RequestError Assignment
  | settled outcome => outcome
  | toPlace key => place key

namespace Experiment

/-- How far overrides and targeting bring a request. -/
def progressFor (x : Experiment) (args : Arguments) (key : Value) : Progress :=
  match x.overrideFor args with
  | .error e => .settled (.error (.evaluation e))
  | .ok (some variant) => .settled (.ok (.overridden variant))
  | .ok none =>
    match x.targeting.evaluate args with
    | .error e => .settled (.error (.evaluation e))
    | .ok false => .settled (.ok .excluded)
    | .ok true => .toPlace key

/-- How far a request comes at a moment. -/
def progress (x : Experiment) (now : Double) (args : Arguments) : Progress :=
  if x.isEnabled now then
    if (args.lowered.get x.bucketKey).isMissing then
      .settled (.error (.missingKey x.name x.bucketKey))
    else x.progressFor args.lowered (args.lowered.get x.bucketKey)
  else .settled (.ok .excluded)

/-- What a request gets by its key alone. -/
def place (x : Experiment) : Value → Except RequestError Assignment
  | .text key => ((x.variantSet.choose (x.bucket key)).mapError .share).map .bucketed
  | key => .error (.keyType key.typeName)

theorem place_eq (x : Experiment) (key : Value) :
    x.place key = match key with
      | .text key => do return .bucketed (← (x.variantSet.choose (x.bucket key)).mapError .share)
      | _ => .error (.keyType key.typeName) := by
  unfold place
  split
  · next key => cases x.variantSet.choose (x.bucket key) <;> rfl
  · rfl

theorem assignFor_eq_finish (x : Experiment) (args : Arguments) (key : Value) :
    x.assignFor args key = (x.progressFor args key).finish x.place := by
  unfold assignFor progressFor
  cases x.overrideFor args with
  | error e => rfl
  | ok found => cases found with
    | some variant => rfl
    | none => cases x.targeting.evaluate args with
      | error e => rfl
      | ok hit => cases hit with
        | false => rfl
        | true => exact (place_eq x key).symm

/-- An assignment is settled, or else placed. -/
theorem assign_eq_finish (x : Experiment) (now : Double) (args : Arguments) :
    x.assign now args = (x.progress now args).finish x.place := by
  unfold assign progress
  dsimp only
  split_ifs with henabled hmissing
  · rcases Value.isMissing_iff.mp hmissing with hnull | hempty
    · rw [hnull]
      rfl
    · rw [hempty]
      rfl
  · rw [← assignFor_eq_finish]
    rw [Value.isMissing_iff, not_or] at hmissing
    split
    · next hnull => exact absurd hnull hmissing.1
    · next hempty => exact absurd hempty hmissing.2
    · rfl
  · rfl

/-- How a request comes to its outcome: by the first decision that settles it. -/
inductive Decided (x : Experiment) (now : Double) (args : Arguments) :
    Except RequestError Assignment → Prop
  | off (h : x.isEnabled now = false) : Decided x now args (.ok .excluded)
  | keyMissing (h : x.isEnabled now = true)
      (hkey : (args.lowered.get x.bucketKey).isMissing = true) :
      Decided x now args (.error (.missingKey x.name x.bucketKey))
  | overrideFailed {e : EvaluationError} (h : x.isEnabled now = true)
      (hkey : (args.lowered.get x.bucketKey).isMissing = false)
      (ho : x.overrideFor args.lowered = .error e) : Decided x now args (.error (.evaluation e))
  | forced {v : String} (h : x.isEnabled now = true)
      (hkey : (args.lowered.get x.bucketKey).isMissing = false)
      (ho : x.overrideFor args.lowered = .ok (some v)) : Decided x now args (.ok (.overridden v))
  | targetingFailed {e : EvaluationError} (h : x.isEnabled now = true)
      (hkey : (args.lowered.get x.bucketKey).isMissing = false)
      (ho : x.overrideFor args.lowered = .ok none)
      (ht : x.targeting.evaluate args.lowered = .error e) :
      Decided x now args (.error (.evaluation e))
  | missed (h : x.isEnabled now = true)
      (hkey : (args.lowered.get x.bucketKey).isMissing = false)
      (ho : x.overrideFor args.lowered = .ok none)
      (ht : x.targeting.evaluate args.lowered = .ok false) : Decided x now args (.ok .excluded)
  | placed {outcome : Except RequestError Assignment} (h : x.isEnabled now = true)
      (hkey : (args.lowered.get x.bucketKey).isMissing = false)
      (ho : x.overrideFor args.lowered = .ok none)
      (ht : x.targeting.evaluate args.lowered = .ok true)
      (hp : x.place (args.lowered.get x.bucketKey) = outcome) : Decided x now args outcome

theorem assign_decided (x : Experiment) (now : Double) (args : Arguments) :
    x.Decided now args (x.assign now args) := by
  rw [assign_eq_finish]
  unfold progress progressFor
  split_ifs with h hkey
  · exact .keyMissing h hkey
  · rw [Bool.not_eq_true] at hkey
    cases ho : x.overrideFor args.lowered with
    | error e => exact .overrideFailed h hkey ho
    | ok found => cases found with
      | some v => exact .forced h hkey ho
      | none => cases ht : x.targeting.evaluate args.lowered with
        | error e => exact .targetingFailed h hkey ho ht
        | ok hit => cases hit with
          | false => exact .missed h hkey ho ht
          | true => exact .placed h hkey ho ht rfl
  · rw [Bool.not_eq_true] at h
    exact .off h

end Experiment
end SplitTest
