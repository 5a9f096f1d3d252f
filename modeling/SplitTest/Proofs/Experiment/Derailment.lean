import SplitTest.Proofs.Experiment.Compiled
import SplitTest.Proofs.Predicate.Document
import SplitTest.Proofs.VariantSet.Boundary

/-! Configurations whose compilation fails on arithmetic, which is no fault that is told by name:
on a numeral that is too long, or on the width of a range. -/
namespace SplitTest

/-- The width of a range has a share. -/
def Variant.HasWidth (v : Variant) : Prop :=
  Double.HasShare (v.rangeEnd.sub v.rangeStart)

namespace VariantSet

variable {vs : List Variant}

theorem totalWidth_error_iff :
    (∃ e, totalWidth bucketCount vs = .error e) ↔ ∃ v ∈ vs, ¬ v.HasWidth := by
  induction vs with
  | nil => simp [totalWidth]
  | cons v rest ih =>
    simp only [List.mem_cons, exists_eq_or_imp, ← ih, totalWidth]
    by_cases hv : v.HasWidth
    · rw [wholeShare_of_hasShare hv]
      cases totalWidth bucketCount rest <;> simp [hv]
    · obtain ⟨e, he⟩ := wholeShare_error_iff.mpr hv
      simp [he, hv]

theorem exists_totalShare (vs : List Variant) (start : Double) :
    ∃ total, totalShare bucketCount start vs = .ok total := by
  induction vs generalizing start with
  | nil => exact ⟨start, rfl⟩
  | cons v rest ih =>
    obtain ⟨total, htotal⟩ := ih (start.add (v.size.mul (.ofInt 1000)))
    exact ⟨total, by rw [totalShare, share_bucketCount, Except.ok_bind, htotal]⟩

/-- Only the check of ranges fails on arithmetic. -/
theorem check_share_iff {a : Arrangement} :
    (∃ e, check bucketCount a vs = .error (.share e)) ↔ a = .range ∧ ∃ v ∈ vs, ¬ v.HasWidth := by
  rw [← totalWidth_error_iff]
  unfold check
  split
  · simp [totalWidth]
  · split <;> simp
  · simp
  · obtain ⟨total, htotal⟩ := exists_totalShare vs (.ofInt 0)
    rw [htotal]
    split
    · simp
    · dsimp only
      split <;> simp
  · split <;> simp
  · simp
  · cases totalWidth bucketCount vs with
    | error e => simp
    | ok total =>
      dsimp only
      split <;> simp

theorem ofType_share_iff {type : String} {a : Arrangement}
    (ht : Arrangement.ofName? type = some a) :
    (∃ e, ofType type vs bucketCount = .error (.share e)) ↔
      a = .range ∧ ∃ v ∈ vs, ¬ v.HasWidth := by
  rw [← check_share_iff]
  simp [ofType, ht, Except.bind_eq_error_iff]

theorem exists_ofType_iff {type : String} {a : Arrangement}
    (ht : Arrangement.ofName? type = some a) :
    (∃ set, ofType type vs bucketCount = .ok set) ↔ check bucketCount a vs = .ok () := by
  simp [ofType, ht, Except.bind_eq_ok_iff, Unique.exists_iff]

end VariantSet

namespace Experiment

open Predicate (Overlong)

variable {c : Configuration}

theorem seedOf_error_iff :
    (∃ e, seedOf c = .error e) ↔ c.definition.bucketSeed = "" ∧
      (hasLongNumeral c.id = true ∨ hasLongNumeral c.definition.shuffleVersion = true) := by
  unfold seedOf defaultSeed
  split_ifs <;> simp_all

theorem seedOf_error {e : CompileError} (h : seedOf c = .error e) : e = .longNumeral := by
  unfold seedOf defaultSeed at h
  split_ifs at h
  simpa using h.symm

theorem targetingOf_longNumeral_iff {v : Value} :
    targetingOf v = .error .longNumeral ↔ Overlong v := by
  unfold targetingOf
  split
  · exact iff_of_false (by simp) nofun
  · exact iff_of_false (by simp) nofun
  · exact Predicate.compile_longNumeral_iff

theorem overridesOf_longNumeral_iff {entries : List (List (String × Value))} :
    overridesOf entries = .error .longNumeral ↔
      Reached (fun o => ∃ p, Predicate.compile o.2 = .ok p) (fun o => Overlong o.2)
        entries.flatten := by
  have hok : ∀ o : String × Value, (∃ b, overrideOf o = .ok b) ↔
      ∃ p, Predicate.compile o.2 = .ok p := by
    simp [overrideOf, Except.bind_eq_ok_iff]
  have hlong : ∀ o : String × Value, overrideOf o = .error .longNumeral ↔ Overlong o.2 := by
    simp [overrideOf, Except.bind_eq_error_iff, Predicate.compile_longNumeral_iff]
  have hentry : ∀ entry : List (String × Value), entry.mapM overrideOf = .error .longNumeral ↔
      Reached (fun o => ∃ p, Predicate.compile o.2 = .ok p) (fun o => Overlong o.2) entry :=
    fun entry => mapM_eq_error_iff.trans (reached_congr hok hlong)
  rw [reached_flatten_iff, overridesOf, mapM_eq_error_iff]
  refine reached_congr (fun entry => ?_) hentry
  simp only [mapM_eq_ok_iff, hok]

/-- Why a configuration does not compile: the first of its parts that has an error. -/
theorem compile_eq_error_iff {e : CompileError} :
    compile c = .error e ↔ seedOf c = .error e ∨ (∃ seed, seedOf c = .ok seed) ∧
      ((∃ ev, VariantSet.ofType c.type c.definition.variants bucketCount = .error ev ∧
          .variants ev = e) ∨
        (∃ set, VariantSet.ofType c.type c.definition.variants bucketCount = .ok set) ∧
          ((∃ et, targetingOf c.definition.targeting = .error et ∧ .targeting et = e) ∨
            (∃ t, targetingOf c.definition.targeting = .ok t) ∧
              ∃ eo, overridesOf c.definition.overrides = .error eo ∧ .targeting eo = e)) := by
  simp [compile, Except.bind_eq_error_iff, Except.mapError_eq_error_iff,
    Except.mapError_eq_ok_iff]

end Experiment

/-- Reading a configuration fails on arithmetic: on the numbers of its default seed, on the width of
a range, or on an integer in a document; all that comes before that is fine. -/
inductive Configuration.Derails (c : Configuration) (a : Arrangement) : Prop
  | seed (hn : c.definition.bucketSeed = "")
      (h : hasLongNumeral c.id = true ∨ hasLongNumeral c.definition.shuffleVersion = true)
  | width (hs : ∃ seed, Experiment.seedOf c = .ok seed) (ha : a = .range)
      (h : ∃ v ∈ c.definition.variants, ¬ v.HasWidth)
  | targeting (hs : ∃ seed, Experiment.seedOf c = .ok seed)
      (hc : VariantSet.check bucketCount a c.definition.variants = .ok ())
      (h : Predicate.Overlong c.definition.targeting)
  | overrides (hs : ∃ seed, Experiment.seedOf c = .ok seed)
      (hc : VariantSet.check bucketCount a c.definition.variants = .ok ())
      (ht : ∃ p, Experiment.targetingOf c.definition.targeting = .ok p)
      (h : Reached (fun o => ∃ p, Predicate.compile o.2 = .ok p)
        (fun o => Predicate.Overlong o.2) c.definition.overrides.flatten)

namespace Experiment

theorem compile_arithmetic_iff {c : Configuration} {a : Arrangement}
    (ht : Arrangement.ofName? c.type = some a) :
    (∃ e, compile c = .error e ∧ e.isFault = false) ↔ c.Derails a := by
  have hshare : (∃ reason, VariantSet.ofType c.type c.definition.variants bucketCount =
      .error (.share reason)) ↔ _ := VariantSet.ofType_share_iff ht
  have hset : (∃ set, VariantSet.ofType c.type c.definition.variants bucketCount = .ok set) ↔ _ :=
    VariantSet.exists_ofType_iff ht
  constructor
  · rintro ⟨e, he, hfault⟩
    -- One case for each part that can be the first to fail.
    rcases compile_eq_error_iff.mp he with
      h | ⟨hs, ⟨ev, hev, rfl⟩ | ⟨hv, ⟨et, het, rfl⟩ | ⟨hp, eo, heo, rfl⟩⟩⟩
    · obtain ⟨hn, h⟩ := seedOf_error_iff.mp ⟨e, h⟩
      exact .seed hn h
    · cases ev with
      | share reason =>
        obtain ⟨ha, h⟩ := hshare.mp ⟨reason, hev⟩
        exact .width hs ha h
      | _ => cases hfault
    · cases et with
      | longNumeral => exact .targeting hs (hset.mp hv) (targetingOf_longNumeral_iff.mp het)
      | _ => cases hfault
    · cases eo with
      | longNumeral => exact .overrides hs (hset.mp hv) hp (overridesOf_longNumeral_iff.mp heo)
      | _ => cases hfault
  · rintro (⟨hn, h⟩ | ⟨hs, ha, h⟩ | ⟨hs, hc, h⟩ | ⟨hs, hc, hp, h⟩)
    · obtain ⟨e, he⟩ := seedOf_error_iff.mpr ⟨hn, h⟩
      obtain rfl := seedOf_error he
      exact ⟨_, compile_eq_error_iff.mpr (.inl he), rfl⟩
    · obtain ⟨reason, he⟩ := hshare.mpr ⟨ha, h⟩
      exact ⟨_, compile_eq_error_iff.mpr (.inr ⟨hs, .inl ⟨_, he, rfl⟩⟩), rfl⟩
    · have he := targetingOf_longNumeral_iff.mpr h
      exact ⟨_, compile_eq_error_iff.mpr (.inr ⟨hs, .inr ⟨hset.mpr hc, .inl ⟨_, he, rfl⟩⟩⟩), rfl⟩
    · have he := overridesOf_longNumeral_iff.mpr h
      exact ⟨_, compile_eq_error_iff.mpr
        (.inr ⟨hs, .inr ⟨hset.mpr hc, .inr ⟨hp, _, he, rfl⟩⟩⟩), rfl⟩

end Experiment
end SplitTest
