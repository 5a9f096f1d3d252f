import SplitTest.Proofs.Experiment.Compiled
import SplitTest.Proofs.Experiment.Decision
import SplitTest.Proofs.Predicate.Evaluation
import SplitTest.Proofs.VariantSet.Boundary

/-! Which requests an experiment cannot serve: those that come to a predicate or a boundary that it
cannot compute. -/
namespace SplitTest

/-- A variant, or one of the two errors that callers are told of. -/
def Served : Except RequestError String → Prop
  | .ok _ => True
  | .error (.missingKey _ _) => True
  | .error (.keyType _) => True
  | .error (.evaluation _) => False
  | .error (.share _) => False

namespace Experiment

variable {x : Experiment} {args : Arguments}

/-- The search for an override comes to a predicate that is stuck. -/
def StuckInOverrides (x : Experiment) (args : Arguments) : Prop :=
  Reached (fun o => o.2.evaluate args = .ok false) (fun o => o.2.Stuck args) x.overrides.flatten

/-- No override holds. -/
def Unforced (x : Experiment) (args : Arguments) : Prop :=
  ∀ o ∈ x.overrides.flatten, o.2.evaluate args = .ok false

/-- The bucket of a key comes to a boundary that cannot be computed. -/
def BreaksAt (x : Experiment) (key : Value) : Prop :=
  ∃ text, key = .text text ∧ x.variantSet.Breaks (x.bucket text)

/-- A request with its key comes to a predicate or a boundary that cannot be computed. -/
inductive StuckWith (x : Experiment) (args : Arguments) (key : Value) : Prop
  | inOverrides (h : x.StuckInOverrides args)
  | inTargeting (hn : x.Unforced args) (h : x.targeting.Stuck args)
  | inBucket (hn : x.Unforced args) (ht : x.targeting.evaluate args = .ok true) (h : x.BreaksAt key)

/-- A request with its key comes that far while the experiment is on. -/
structure Stuck (x : Experiment) (now : Double) (args : Arguments) : Prop where
  enabled : x.isEnabled now = true
  present : (args.lowered.get x.bucketKey).isMissing = false
  stuck : x.StuckWith args.lowered (args.lowered.get x.bucketKey)

theorem firstMatch_error_iff {overrides : List Override} :
    (∃ e, firstMatch args overrides = .error e) ↔
      Reached (fun o => o.2.evaluate args = .ok false) (fun o => o.2.Stuck args) overrides := by
  induction overrides with
  | nil => exact iff_of_false (by simp [firstMatch]) not_reached_nil
  | cons o rest ih =>
    rw [reached_cons_iff, ← ih, ← Predicate.evaluate_error_iff, firstMatch]
    cases o.2.evaluate args with
    | error e => simp
    | ok hit => cases hit <;> simp

theorem firstMatch_none_iff {overrides : List Override} :
    firstMatch args overrides = .ok none ↔ ∀ o ∈ overrides, o.2.evaluate args = .ok false := by
  induction overrides with
  | nil => simp [firstMatch]
  | cons o rest ih =>
    rw [List.forall_mem_cons, ← ih, firstMatch]
    cases o.2.evaluate args with
    | error e => simp
    | ok hit => cases hit <;> simp

/-- Only a bucket without its boundaries keeps a key from being placed or refused. -/
theorem served_place_iff (h : x.variantSet.Checked) (key : Value) :
    Served ((x.place key).map (·.variant)) ↔ ¬ x.BreaksAt key := by
  unfold place BreaksAt
  split
  · next text =>
    have hchoose := VariantSet.choose_error_iff h (x.bucket_nonneg text)
    simp only [Value.text, Value.scalar.injEq, Scalar.text.injEq, exists_eq_left', ← hchoose]
    cases x.variantSet.choose (x.bucket text) <;> simp [Served]
  · next hkey =>
    refine iff_of_true trivial ?_
    rintro ⟨text, rfl, -⟩
    exact hkey text rfl

theorem stuckInOverrides_iff :
    x.StuckInOverrides args ↔ ∃ e, x.overrideFor args = .error e :=
  firstMatch_error_iff.symm

theorem unforced_iff : x.Unforced args ↔ x.overrideFor args = .ok none :=
  firstMatch_none_iff.symm

theorem served_assignFor_iff (h : x.variantSet.Checked) (key : Value) :
    Served ((x.assignFor args key).map (·.variant)) ↔ ¬ x.StuckWith args key := by
  rw [assignFor_eq_finish]
  unfold progressFor
  cases ho : x.overrideFor args with
  | error e =>
    have hs : x.StuckWith args key := .inOverrides (stuckInOverrides_iff.mpr ⟨e, ho⟩)
    exact iff_of_false not_false (not_not_intro hs)
  | ok found =>
    have hno : ¬ x.StuckInOverrides args := by simp [stuckInOverrides_iff, ho]
    cases found with
    | some v =>
      have hforced : ¬ x.Unforced args := by simp [unforced_iff, ho]
      refine iff_of_true trivial ?_
      rintro (hs | ⟨hn, -⟩ | ⟨hn, -⟩)
      · exact hno hs
      · exact hforced hn
      · exact hforced hn
    | none =>
      have hn : x.Unforced args := unforced_iff.mpr ho
      have hstuck : (∃ e, x.targeting.evaluate args = .error e) ↔ x.targeting.Stuck args :=
        x.targeting.evaluate_error_iff
      cases ht : x.targeting.evaluate args with
      | error e =>
        have hs : x.StuckWith args key := .inTargeting hn (hstuck.mp ⟨e, ht⟩)
        exact iff_of_false not_false (not_not_intro hs)
      | ok hit =>
        have hfree : ¬ x.targeting.Stuck args := by simp [← hstuck, ht]
        cases hit with
        | false =>
          refine iff_of_true trivial ?_
          rintro (hs | ⟨-, hs⟩ | ⟨-, hs, -⟩)
          · exact hno hs
          · exact hfree hs
          · simp [ht] at hs
        | true =>
          refine (served_place_iff h key).trans (not_congr ⟨.inBucket hn ht, ?_⟩)
          rintro (hs | ⟨-, hs⟩ | ⟨-, -, hs⟩)
          · exact absurd hs hno
          · exact absurd hs hfree
          · exact hs

/-- Exactly the requests that do not get stuck are served. -/
theorem served_iff (h : x.variantSet.Checked) (now : Double) (args : Arguments) :
    Served (x.variant now args) ↔ ¬ x.Stuck now args := by
  unfold variant
  rw [assign_eq_finish]
  unfold progress
  split_ifs with henabled hmissing
  · refine iff_of_true trivial fun hs => ?_
    rw [hs.present] at hmissing
    cases hmissing
  · rw [← assignFor_eq_finish, served_assignFor_iff h]
    have hpresent := Bool.eq_false_of_not_eq_true hmissing
    exact not_congr ⟨fun hs => ⟨henabled, hpresent, hs⟩, (·.stuck)⟩
  · exact iff_of_true trivial fun hs => henabled hs.enabled

end Experiment
end SplitTest
