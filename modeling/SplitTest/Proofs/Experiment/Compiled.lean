import SplitTest.Assignment
import SplitTest.Proofs.VariantSet.Check

/-! What a compiled experiment has from its configuration. -/
namespace SplitTest

attribute [ext] Experiment

namespace Experiment

/-- An experiment whose parts are those that a configuration describes. -/
structure Compiled (c : Configuration) (x : Experiment) : Prop where
  id : x.id = c.id
  name : x.name = c.name
  bucketKey : x.bucketKey = bucketKeyOf c
  enabled : x.enabled = c.isEnabled
  startTs : x.startTs = c.startTs
  stopTs : x.stopTs = c.stopTs
  seed : seedOf c = .ok x.bucketSeed
  variantSet : VariantSet.ofType c.type c.definition.variants bucketCount = .ok x.variantSet
  targeting : targetingOf c.definition.targeting = .ok x.targeting
  overrides : overridesOf c.definition.overrides = .ok x.overrides

theorem compile_eq_ok_iff {c : Configuration} {x : Experiment} :
    compile c = .ok x ↔ Compiled c x := by
  constructor
  · intro h
    obtain ⟨seed, hseed, h⟩ := Except.bind_eq_ok_iff.mp h
    obtain ⟨variantSet, hvariants, h⟩ := Except.bind_eq_ok_iff.mp h
    obtain ⟨targeting, htargeting, h⟩ := Except.bind_eq_ok_iff.mp h
    obtain ⟨overrides, hoverrides, h⟩ := Except.bind_eq_ok_iff.mp h
    rw [Except.mapError_eq_ok_iff] at hvariants htargeting hoverrides
    obtain rfl := Except.ok.inj h
    exact ⟨rfl, rfl, rfl, rfl, rfl, rfl, hseed, hvariants, htargeting, hoverrides⟩
  · rintro ⟨hid, hname, hkey, henabled, hstart, hstop, hseed, hvariants, htargeting, hoverrides⟩
    unfold compile
    rw [hseed, hvariants, htargeting, hoverrides, ← hid, ← hname, ← hkey, ← henabled, ← hstart,
      ← hstop]
    rfl

/-- The variants of a compiled experiment are its configuration's, and they passed their check. -/
theorem Compiled.exists_arrangement {c : Configuration} {x : Experiment} (h : Compiled c x) :
    ∃ a, Arrangement.ofName? c.type = some a ∧
      VariantSet.check bucketCount a c.definition.variants = .ok () ∧
      x.variantSet = ⟨a, c.definition.variants, bucketCount⟩ :=
  VariantSet.ofType_eq_ok_iff.mp h.variantSet

theorem bucket_nonneg (x : Experiment) (key : String) : 0 ≤ x.bucket key :=
  Int.emod_nonneg _ (by decide)

theorem bucket_lt (x : Experiment) (key : String) : x.bucket key < 1000 :=
  Int.emod_lt_of_pos _ (by decide)

end Experiment
end SplitTest
