import SplitTest.Proofs.Reached
import SplitTest.Proofs.VariantSet.Check

/-! Which buckets come to a boundary that cannot be computed. The checks of variant sets look at
sums and widths only, so sizes and ends far out of range get past them. -/
namespace SplitTest

/-- A fraction is finite, and its product with the number of buckets is so too. -/
def Double.HasShare (x : Double) : Prop :=
  ∃ q, x.toRat? = some q ∧ ShareInRange q

/-- The whole buckets in a fraction that has a share. -/
def Double.boundary (x : Double) : ℤ :=
  wholeBuckets (x.toRat?.getD 0)

theorem wholeShare_of_hasShare {x : Double} (h : x.HasShare) :
    wholeShare x bucketCount = .ok x.boundary := by
  obtain ⟨q, hq, hr⟩ := h
  rw [wholeShare_of_inRange hq hr, Double.boundary, hq, Option.getD_some]

theorem wholeShare_error_iff {x : Double} :
    (∃ e, wholeShare x bucketCount = .error e) ↔ ¬ x.HasShare := by
  constructor
  · rintro ⟨e, he⟩ h
    rw [wholeShare_of_hasShare h] at he
    cases he
  · intro h
    cases hw : wholeShare x bucketCount with
    | error e => exact ⟨e, rfl⟩
    | ok n =>
      obtain ⟨q, hq, hr, -⟩ := toRat?_of_wholeShare hw
      exact absurd ⟨q, hq, hr⟩ h

/-- The numbers of a variant are finite. -/
structure Variant.Finite (v : Variant) : Prop where
  size : v.size.isFinite = true
  rangeStart : v.rangeStart.isFinite = true
  rangeEnd : v.rangeEnd.isFinite = true

/-- Both ends of a range have a share. -/
def Variant.HasRange (v : Variant) : Prop :=
  v.rangeStart.HasShare ∧ v.rangeEnd.HasShare

/-- A bucket lies in the range of a variant. -/
def Variant.Owns (v : Variant) (bucket : ℤ) : Prop :=
  v.rangeStart.boundary ≤ bucket ∧ bucket < v.rangeEnd.boundary

/-- How many buckets slices that follow one another take up. -/
def stackedSize (variants : List Variant) : ℤ :=
  (variants.map (·.size.boundary)).sum

/-- Some slice has no share, and those in front of it have shares but leave the bucket free. -/
def StackedBreak (bucket offset : ℤ) (variants : List Variant) : Prop :=
  ∃ before v after, variants = before ++ v :: after ∧ (∀ w ∈ before, w.size.HasShare) ∧
    (∀ slices, slices <+: before → offset + stackedSize slices ≤ bucket) ∧ ¬ v.size.HasShare

namespace VariantSet

/-- A bucket comes to a boundary that cannot be computed. -/
def Breaks (set : VariantSet) (bucket : ℤ) : Prop :=
  match set.arrangement with
  | .single => ∃ v ∈ set.variants, ¬ v.size.HasShare
  | .rollout => False
  | .multi => StackedBreak bucket 0 set.variants
  | .range => Reached (fun v => v.HasRange ∧ ¬ v.Owns bucket) (fun v => ¬ v.HasRange) set.variants

variable {b offset : ℤ} {v : Variant} {vs : List Variant}

theorem stackedBreak_cons_iff (h : offset ≤ b) :
    StackedBreak b offset (v :: vs) ↔ ¬ v.size.HasShare ∨
      (v.size.HasShare ∧ offset + v.size.boundary ≤ b ∧
        StackedBreak b (offset + v.size.boundary) vs) := by
  constructor
  · rintro ⟨before, w, after, hl, hshare, hfree, hw⟩
    cases before with
    | nil =>
      obtain ⟨rfl, -⟩ := List.cons.inj hl
      exact Or.inl hw
    | cons u before =>
      obtain ⟨rfl, rfl⟩ := List.cons.inj hl
      have hstep : ∀ slices, slices <+: before →
          offset + v.size.boundary + stackedSize slices ≤ b := by
        intro slices hs
        have := hfree (v :: slices) (List.cons_prefix_cons.mpr ⟨rfl, hs⟩)
        simpa [stackedSize, add_assoc] using this
      have hfirst : offset + v.size.boundary ≤ b := by
        simpa [stackedSize] using hstep [] List.nil_prefix
      exact Or.inr ⟨hshare v (by simp), hfirst, before, w, after, rfl,
        fun x hx => hshare x (by simp [hx]), hstep, hw⟩
  · rintro (hv | ⟨hv, -, before, w, after, rfl, hshare, hfree, hw⟩)
    · refine ⟨[], v, vs, rfl, by simp, fun slices hs => ?_, hv⟩
      simpa [List.prefix_nil.mp hs, stackedSize] using h
    · refine ⟨v :: before, w, after, rfl, by simpa using ⟨hv, hshare⟩, fun slices hs => ?_, hw⟩
      rcases List.prefix_cons_iff.mp hs with rfl | ⟨others, rfl, hothers⟩
      · simpa [stackedSize] using h
      · simpa [stackedSize, add_assoc] using hfree others hothers

theorem stackedPosition_error_iff (h : offset ≤ b) :
    (∃ e, stackedPosition bucketCount b offset vs = .error e) ↔ StackedBreak b offset vs := by
  induction vs generalizing offset with
  | nil => simp [stackedPosition, StackedBreak]
  | cons v rest ih =>
    rw [stackedBreak_cons_iff h, stackedPosition]
    by_cases hv : v.size.HasShare
    · rw [wholeShare_of_hasShare hv]
      by_cases hb : b < offset + v.size.boundary
      · simp [hb, hv]
      · rw [← ih (not_lt.mp hb)]
        cases hrest : stackedPosition bucketCount b (offset + v.size.boundary) rest <;>
          simp [hrest, hb, hv, not_lt.mp hb]
    · obtain ⟨e, he⟩ := wholeShare_error_iff.mpr hv
      simp [he, hv]

theorem rangePosition_error_iff :
    (∃ e, rangePosition bucketCount b vs = .error e) ↔
      Reached (fun v => v.HasRange ∧ ¬ v.Owns b) (fun v => ¬ v.HasRange) vs := by
  induction vs with
  | nil => exact iff_of_false (by simp [rangePosition]) not_reached_nil
  | cons v rest ih =>
    rw [reached_cons_iff, ← ih, rangePosition]
    unfold Variant.HasRange Variant.Owns
    by_cases hs : v.rangeStart.HasShare
    · by_cases he : v.rangeEnd.HasShare
      · rw [wholeShare_of_hasShare hs, wholeShare_of_hasShare he]
        by_cases ho : v.rangeStart.boundary ≤ b ∧ b < v.rangeEnd.boundary
        · simp [hs, he, ho]
        · cases rangePosition bucketCount b rest <;> simp [hs, he, ho]
      · obtain ⟨e, hfail⟩ := wholeShare_error_iff.mpr he
        simp [wholeShare_of_hasShare hs, hfail, he]
    · obtain ⟨e, hfail⟩ := wholeShare_error_iff.mpr hs
      simp [hfail, hs]

/-- A checked pair has shares for both sizes or for none: the second is nearly the rest. -/
theorem hasShare_of_pair {w : Variant} (hv : v.Finite) (hw : w.Finite)
    (h : unitShare (v.size.add w.size) = true) (hs : v.size.HasShare) : w.size.HasShare := by
  obtain ⟨f, hf⟩ := Floating.isFinite_iff.mp hv.size
  obtain ⟨g, hg⟩ := Floating.isFinite_iff.mp hw.size
  rw [hf] at h hs
  rw [hg] at h ⊢
  obtain ⟨hlo, hhi⟩ := sum_bounds_of_unitShare rfl rfl h
  obtain ⟨p, hp, hr⟩ := hs
  obtain rfl := Option.some.inj hp
  refine ⟨g.toRat, rfl, inRange_of_le_add_two hr ?_⟩
  have hslack : sumSlack ≤ 1 := by
    unfold sumSlack
    norm_num
  have hneg := neg_abs_le f.toRat
  have hpos := le_abs_self f.toRat
  rw [abs_le]
  constructor <;> linarith

theorem pairPosition_error_iff {w : Variant} (h : v.size.HasShare → w.size.HasShare) :
    (∃ e, pairPosition bucketCount b v w = .error e) ↔ ¬ v.size.HasShare := by
  unfold pairPosition
  by_cases hv : v.size.HasShare
  · rw [wholeShare_of_hasShare hv, wholeShare_of_hasShare (h hv)]
    by_cases hlow : b < v.size.boundary
    · simp [hv, hlow]
    · by_cases hhigh : bucketCount ≤ b + w.size.boundary <;> simp [hv, hlow, hhigh]
  · obtain ⟨e, he⟩ := wholeShare_error_iff.mpr hv
    simp [he, hv]

theorem hasShare_of_unitShare (hv : v.Finite) (h : unitShare v.size = true) :
    v.size.HasShare := by
  obtain ⟨f, hf⟩ := Floating.isFinite_iff.mp hv.size
  rw [hf] at h ⊢
  obtain ⟨hlo, hhi⟩ := (unitShare_iff rfl).mp h
  refine ⟨f.toRat, rfl, inRange_of_abs_le ?_⟩
  rw [abs_of_nonneg hlo]
  exact hhi.trans (by norm_num)

/-- The set of an experiment: a thousand buckets, variants that passed the check and are finite. -/
structure Checked (set : VariantSet) : Prop where
  buckets : set.buckets = bucketCount
  check : check bucketCount set.arrangement set.variants = .ok ()
  finite : ∀ v ∈ set.variants, v.Finite

theorem choose_error_iff {set : VariantSet} (h : set.Checked) (hb : 0 ≤ b) :
    (∃ e, set.choose b = .error e) ↔ set.Breaks b := by
  have hposition : (∃ e, set.choose b = .error e) ↔ ∃ e, set.position? b = .error e := by
    unfold choose
    cases set.position? b with
    | error e => simp
    | ok found => cases found <;> simp
  rw [hposition]
  obtain ⟨arrangement, variants, buckets⟩ := set
  obtain ⟨rfl, hc, hf⟩ := h
  cases arrangement with
  | single =>
    obtain ⟨v, w, rfl, hunit⟩ := check_single_iff.mp hc
    have hpair := hasShare_of_pair (hf v (by simp)) (hf w (by simp)) hunit
    have hboth : ¬ v.size.HasShare ∨ ¬ w.size.HasShare ↔ ¬ v.size.HasShare :=
      or_iff_left_of_imp (mt hpair)
    simpa [Breaks, position?, hboth] using pairPosition_error_iff hpair
  | multi => exact stackedPosition_error_iff hb
  | rollout =>
    obtain ⟨v, rfl, hunit⟩ := check_rollout_iff.mp hc
    have hv := wholeShare_of_hasShare (hasShare_of_unitShare (hf v (by simp)) hunit)
    simp only [position?, stackedPosition_singleton hv]
    exact iff_of_false (by simp) id
  | range => exact rangePosition_error_iff

end VariantSet
end SplitTest
