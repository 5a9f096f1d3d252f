import SplitTest.Proofs.VariantSet.Layout

/-! Sets of ranges. Ranges between zero and one that have no number in common are accepted, whatever
their order, and each gets the buckets between the boundaries of its ends. -/
namespace SplitTest

open MeasureTheory

/-- The ends of a range, in order and between zero and one. -/
structure Variant.Spans (v : Variant) (p q : ℚ) : Prop where
  start : v.rangeStart.toRat? = some p
  stop : v.rangeEnd.toRat? = some q
  nonneg : 0 ≤ p
  le : p ≤ q
  le_one : q ≤ 1

/-- A number lies in a range, which has its start but not its end. -/
def Variant.Covers (v : Variant) (x : ℚ) : Prop :=
  ∃ p q, v.rangeStart.toRat? = some p ∧ v.rangeEnd.toRat? = some q ∧ p ≤ x ∧ x < q

/-- Two ranges have no number in common. -/
def Variant.Apart (v w : Variant) : Prop :=
  ∀ x, ¬ (v.Covers x ∧ w.Covers x)

/-- Ranges between zero and one, no two of which have a number in common. -/
structure DisjointRanges (vs : List Variant) : Prop where
  spans : ∀ v ∈ vs, ∃ p q, v.Spans p q
  apart : vs.Pairwise Variant.Apart

namespace Variant

variable {v w : Variant} {p q p' q' : ℚ}

theorem Apart.symm (h : v.Apart w) : w.Apart v :=
  fun x hx => h x hx.symm

/-- Of two ranges that are apart, one ends before the other starts, or one is empty. -/
theorem Apart.min_le_max (h : v.Apart w) (hv : v.Spans p q) (hw : w.Spans p' q') :
    min q q' ≤ max p p' := by
  by_contra hlt
  rw [not_le, lt_min_iff] at hlt
  apply h (max p p')
  constructor
  · exact ⟨p, q, hv.start, hv.stop, le_max_left p p', hlt.1⟩
  · exact ⟨p', q', hw.start, hw.stop, le_max_right p p', hlt.2⟩

/-- The length of a range. -/
def width (v : Variant) : ℚ :=
  v.rangeEnd.toRat?.getD 0 - v.rangeStart.toRat?.getD 0

/-- The real numbers of a range. -/
def interval (v : Variant) : Set ℝ :=
  Set.Ico (v.rangeStart.toRat?.getD 0 : ℚ) (v.rangeEnd.toRat?.getD 0 : ℚ)

theorem Spans.width_eq (h : v.Spans p q) : v.width = q - p := by
  rw [width, h.start, h.stop, Option.getD_some, Option.getD_some]

theorem Spans.width_nonneg (h : v.Spans p q) : 0 ≤ v.width := by
  rw [h.width_eq]
  exact sub_nonneg.mpr h.le

theorem Spans.width_le_one (h : v.Spans p q) : v.width ≤ 1 := by
  have hstart := h.nonneg
  have hstop := h.le_one
  rw [h.width_eq]
  linarith

theorem Spans.interval_eq (h : v.Spans p q) : v.interval = Set.Ico (p : ℝ) q := by
  rw [interval, h.start, h.stop, Option.getD_some, Option.getD_some]

theorem Spans.volume_interval (h : v.Spans p q) : volume.real v.interval = v.width := by
  have hle : (p : ℝ) ≤ q := by exact_mod_cast h.le
  rw [h.interval_eq, h.width_eq, Real.volume_real_Ico_of_le hle, Rat.cast_sub]

theorem Spans.interval_subset (h : v.Spans p q) : v.interval ⊆ Set.Ico 0 1 := by
  rw [h.interval_eq]
  apply Set.Ico_subset_Ico
  · exact_mod_cast h.nonneg
  · exact_mod_cast h.le_one

theorem Apart.disjoint_interval (h : v.Apart w) (hv : v.Spans p q) (hw : w.Spans p' q') :
    Disjoint v.interval w.interval := by
  rw [hv.interval_eq, hw.interval_eq, Set.Ico_disjoint_Ico]
  exact_mod_cast h.min_le_max hv hw

end Variant

namespace DisjointRanges

variable {vs vs' : List Variant} {v : Variant}

theorem of_cons (h : DisjointRanges (v :: vs)) : DisjointRanges vs :=
  ⟨fun w hw => h.spans w (List.mem_cons_of_mem v hw), h.apart.of_cons⟩

theorem perm (h : DisjointRanges vs) (hp : vs.Perm vs') : DisjointRanges vs' := by
  constructor
  · intro v hv
    exact h.spans v (hp.mem_iff.mpr hv)
  · exact (hp.pairwise_iff Variant.Apart.symm).mp h.apart

theorem iUnion_subset (h : DisjointRanges vs) : ⋃ v ∈ vs, v.interval ⊆ Set.Ico (0 : ℝ) 1 := by
  apply Set.iUnion₂_subset
  intro v hv
  obtain ⟨p, q, hspans⟩ := h.spans v hv
  exact hspans.interval_subset

/-- Lengths of disjoint ranges are added as those of their union. -/
theorem volume_iUnion (h : DisjointRanges vs) :
    volume.real (⋃ v ∈ vs, v.interval) = (vs.map Variant.width).sum := by
  induction vs with
  | nil => simp
  | cons v rest ih =>
    obtain ⟨p, q, hv⟩ := h.spans v List.mem_cons_self
    have hunion : ⋃ w ∈ v :: rest, w.interval = v.interval ∪ ⋃ w ∈ rest, w.interval := by
      simp [Set.iUnion_or, Set.iUnion_union_distrib]
    have hdisjoint : Disjoint v.interval (⋃ w ∈ rest, w.interval) := by
      rw [Set.disjoint_iUnion₂_right]
      intro w hw
      obtain ⟨p', q', hspans⟩ := h.of_cons.spans w hw
      exact ((List.pairwise_cons.mp h.apart).1 w hw).disjoint_interval hv hspans
    have hmeasurable : MeasurableSet (⋃ w ∈ rest, w.interval) :=
      rest.finite_toSet.measurableSet_biUnion fun w _ => measurableSet_Ico
    have hfinite : volume (Set.Ico (0 : ℝ) 1) ≠ ⊤ := by simp
    rw [hunion, measureReal_union hdisjoint hmeasurable
      (measure_ne_top_of_subset hv.interval_subset hfinite)
      (measure_ne_top_of_subset h.of_cons.iUnion_subset hfinite), hv.volume_interval,
      ih h.of_cons, List.map_cons, List.sum_cons, Rat.cast_add]

/-- Disjoint ranges are no longer together than what they lie in. -/
theorem sum_width_le_one (h : DisjointRanges vs) : (vs.map Variant.width).sum ≤ 1 := by
  have hle : volume.real (⋃ v ∈ vs, v.interval) ≤ volume.real (Set.Ico (0 : ℝ) 1) :=
    measureReal_mono h.iUnion_subset (by simp)
  rw [h.volume_iUnion, Real.volume_real_Ico_of_le zero_le_one, sub_zero] at hle
  exact_mod_cast hle

end DisjointRanges

theorem nearest_le_one {q : ℚ} (h : q ≤ 1) : binary64.nearest q ≤ 1 := by
  have hone := Format.nearest_intCast (F := binary64) (k := 1) (by decide) (by decide)
  rw [Int.cast_one] at hone
  exact (Format.nearest_mono h).trans hone.le

theorem VariantSet.wholeBuckets_le_of_le_one {q : ℚ} (h : q ≤ 1) : wholeBuckets q ≤ bucketCount :=
  wholeBuckets_le (h.trans (by norm_num [sumSlack]))

theorem wholeBuckets_nonneg {q : ℚ} (h : 0 ≤ q) : 0 ≤ wholeBuckets q :=
  truncate_nonneg (Format.nearest_nonneg (mul_nonneg h (by norm_num)))

/-- The whole buckets in a rounded width are at most a thousandth more than its buckets. -/
theorem wholeBuckets_nearest_le {w : ℚ} (h0 : 0 ≤ w) (h1 : w ≤ 1) :
    1001 * (wholeBuckets (binary64.nearest w) : ℚ) ≤ 1002 * (w * 1000) := by
  rcases le_or_gt (wholeBuckets (binary64.nearest w)) 0 with hnone | hsome
  · have hcast : (wholeBuckets (binary64.nearest w) : ℚ) ≤ 0 := by exact_mod_cast hnone
    linarith
  · have hone : (1 : ℚ) ≤ wholeBuckets (binary64.nearest w) := by exact_mod_cast hsome
    have hcount := VariantSet.wholeBuckets_le_of_le_one (nearest_le_one h1)
    -- Two errors, of the product and of the width, stay below a thousandth of a bucket together.
    have hlow := lt_of_le_wholeBuckets hsome (hcount.trans (by decide)) le_rfl
    have hround := Format.abs_nearest_sub_le (F := binary64) (e := -52) h0 (by decide)
      (lt_of_le_of_lt h1 (by norm_num [binary64]))
    have herror := (abs_le.mp hround).2
    norm_num at hlow herror
    linarith

instance (v : Variant) (bucket : ℤ) : Decidable (v.Owns bucket) :=
  inferInstanceAs (Decidable (_ ∧ _))

namespace Variant

variable {v w : Variant} {p q p' q' : ℚ}

theorem Spans.hasRange (h : v.Spans p q) : v.HasRange := by
  constructor
  · exact ⟨p, h.start, inRange_of_unit h.nonneg (h.le.trans h.le_one)⟩
  · exact ⟨q, h.stop, inRange_of_unit (h.nonneg.trans h.le) h.le_one⟩

theorem Spans.boundary_start (h : v.Spans p q) : v.rangeStart.boundary = wholeBuckets p := by
  rw [Double.boundary, h.start, Option.getD_some]

theorem Spans.boundary_stop (h : v.Spans p q) : v.rangeEnd.boundary = wholeBuckets q := by
  rw [Double.boundary, h.stop, Option.getD_some]

theorem Spans.boundaries (h : v.Spans p q) : 0 ≤ v.rangeStart.boundary ∧
    v.rangeStart.boundary ≤ v.rangeEnd.boundary ∧ v.rangeEnd.boundary ≤ bucketCount := by
  rw [h.boundary_start, h.boundary_stop]
  exact ⟨wholeBuckets_nonneg h.nonneg, wholeBuckets_mono h.le,
    VariantSet.wholeBuckets_le_of_le_one h.le_one⟩

/-- The check takes the width of a range from the rounded difference of its ends. -/
theorem Spans.wholeShare_width (h : v.Spans p q) :
    wholeShare (v.rangeEnd.sub v.rangeStart) bucketCount =
      .ok (wholeBuckets (binary64.nearest v.width)) := by
  have hroom : |v.width| < binary64.overflowThreshold := by
    apply Double.lt_overflowThreshold
    rw [abs_of_nonneg h.width_nonneg]
    exact h.width_le_one.trans (by norm_num)
  have hsub := Floating.toRat?_sub h.stop h.start
  rw [← h.width_eq, if_pos hroom] at hsub
  apply wholeShare_of_inRange hsub
  exact inRange_of_unit (Format.nearest_nonneg h.width_nonneg) (nearest_le_one h.width_le_one)

/-- Where one range ends before the other starts, so do their boundaries. -/
theorem Apart.not_owns (h : v.Apart w) (hv : v.Spans p q) (hw : w.Spans p' q') (b : ℤ) :
    ¬ (v.Owns b ∧ w.Owns b) := by
  have hmono : Monotone wholeBuckets := fun _ _ => wholeBuckets_mono
  have hle := hmono (h.min_le_max hv hw)
  rw [hmono.map_min, hmono.map_max, ← hv.boundary_start, ← hv.boundary_stop,
    ← hw.boundary_start, ← hw.boundary_stop] at hle
  unfold Owns
  omega

end Variant

namespace VariantSet

variable {vs vs' : List Variant} {v : Variant} {b : ℤ} {i : ℕ}

/-- The variant that a bucket gets, if it gets one. -/
def holder (set : VariantSet) (bucket : ℤ) : Except ShareError (Option Variant) :=
  (set.position? bucket).map fun found => found.bind (set.variants[·]?)

theorem totalWidth_of_spans (h : ∀ v ∈ vs, ∃ p q, v.Spans p q) :
    ∃ total, totalWidth bucketCount vs = .ok total ∧
      1001 * (total : ℚ) ≤ 1002 * ((vs.map Variant.width).sum * 1000) := by
  induction vs with
  | nil => exact ⟨0, rfl, by simp⟩
  | cons v rest ih =>
    rw [List.forall_mem_cons] at h
    obtain ⟨⟨p, q, hv⟩, hrest⟩ := h
    obtain ⟨total, htotal, hle⟩ := ih hrest
    have hwidth := wholeBuckets_nearest_le hv.width_nonneg hv.width_le_one
    refine ⟨wholeBuckets (binary64.nearest v.width) + total, ?_, ?_⟩
    · rw [totalWidth, hv.wholeShare_width, Except.ok_bind, htotal]
      rfl
    · rw [List.map_cons, List.sum_cons]
      push_cast
      linarith

theorem check_range_iff : check bucketCount .range vs = .ok () ↔
    vs ≠ [] ∧ ∃ total, totalWidth bucketCount vs = .ok total ∧ total ≤ bucketCount := by
  cases vs with
  | nil => simp [check]
  | cons v rest =>
    rw [check]
    · cases totalWidth bucketCount (v :: rest) with
      | error e => simp
      | ok total =>
        dsimp only
        split_ifs with hlt
        · simpa using hlt
        · simpa using hlt
    · simp

theorem check_of_disjointRanges (h : DisjointRanges vs) (hne : vs ≠ []) :
    check bucketCount .range vs = .ok () := by
  obtain ⟨total, htotal, hle⟩ := totalWidth_of_spans h.spans
  have hsum := h.sum_width_le_one
  have hlt : (total : ℚ) < 1001 := by linarith
  have hcount : total < 1001 := by exact_mod_cast hlt
  refine check_range_iff.mpr ⟨hne, total, htotal, ?_⟩
  rw [bucketCount_eq]
  omega

theorem rangePosition_of_hasRange (h : ∀ v ∈ vs, v.HasRange) :
    rangePosition bucketCount b vs = .ok (vs.findIdx? fun v => v.Owns b) := by
  induction vs with
  | nil => rfl
  | cons v rest ih =>
    rw [List.forall_mem_cons] at h
    rw [rangePosition, wholeShare_of_hasShare h.1.1, wholeShare_of_hasShare h.1.2, ih h.2,
      List.findIdx?_cons]
    by_cases ho : v.Owns b
    · simp [ho, show v.rangeStart.boundary ≤ b ∧ b < v.rangeEnd.boundary from ho]
    · simp [ho, show ¬ (v.rangeStart.boundary ≤ b ∧ b < v.rangeEnd.boundary) from ho]

end VariantSet

namespace DisjointRanges

variable {vs vs' : List Variant} {v : Variant} {b : ℤ} {i : ℕ}

theorem hasRange (h : DisjointRanges vs) : ∀ v ∈ vs, v.HasRange := by
  intro v hv
  obtain ⟨p, q, hspans⟩ := h.spans v hv
  exact hspans.hasRange

/-- No bucket has two owners. -/
theorem pairwise_not_owns (h : DisjointRanges vs) (b : ℤ) :
    vs.Pairwise fun v w => ¬ (v.Owns b ∧ w.Owns b) := by
  refine h.apart.imp_of_mem ?_
  intro v w hv hw hapart
  obtain ⟨p, q, hv⟩ := h.spans v hv
  obtain ⟨p', q', hw⟩ := h.spans w hw
  exact hapart.not_owns hv hw b

theorem owner_unique (h : DisjointRanges vs) (b : ℤ) :
    {v | v ∈ vs ∧ decide (v.Owns b) = true}.Subsingleton := by
  rintro v ⟨hv, hvb⟩ w ⟨hw, hwb⟩
  have hsymm : Std.Symm fun v w : Variant => ¬ (v.Owns b ∧ w.Owns b) :=
    ⟨fun _ _ hnot hboth => hnot hboth.symm⟩
  by_contra hne
  exact (h.pairwise_not_owns b).forall hv hw hne ⟨of_decide_eq_true hvb, of_decide_eq_true hwb⟩

open VariantSet

theorem position?_eq (h : DisjointRanges vs) :
    position? ⟨.range, vs, bucketCount⟩ b = .ok (vs.findIdx? fun v => v.Owns b) :=
  rangePosition_of_hasRange h.hasRange

theorem holder_eq (h : DisjointRanges vs) :
    holder ⟨.range, vs, bucketCount⟩ b = .ok (vs.find? fun v => v.Owns b) := by
  rw [holder, h.position?_eq, List.find?_eq_bind_findIdx?_getElem?]
  rfl

/-- A variant owns a bucket exactly if its position is the first one that does. -/
theorem findIdx?_owns_iff (h : DisjointRanges vs) (hi : vs[i]? = some v) :
    (vs.findIdx? fun v => v.Owns b) = some i ↔ v.Owns b := by
  obtain ⟨hlen, rfl⟩ := List.getElem?_eq_some_iff.mp hi
  rw [List.findIdx?_eq_some_iff_getElem]
  constructor
  · rintro ⟨_, howns, -⟩
    exact of_decide_eq_true howns
  · intro howns
    refine ⟨hlen, decide_eq_true howns, fun j hj hother => ?_⟩
    have hpair := List.pairwise_iff_getElem.mp (h.pairwise_not_owns b) j i (by omega) hlen hj
    exact hpair ⟨of_decide_eq_true hother, howns⟩

theorem mem_slice_iff (h : DisjointRanges vs) (hi : vs[i]? = some v) :
    b ∈ slice ⟨.range, vs, bucketCount⟩ i ↔ v.Owns b := by
  obtain ⟨p, q, hv⟩ := h.spans v (List.mem_of_getElem? hi)
  have hbounds := hv.boundaries
  rw [VariantSet.mem_slice_iff, h.position?_eq, Except.ok.injEq, h.findIdx?_owns_iff hi,
    and_iff_right_iff_imp]
  rintro ⟨hlo, hhi⟩
  omega

theorem card_slice (h : DisjointRanges vs) (hi : vs[i]? = some v) :
    ((slice ⟨.range, vs, bucketCount⟩ i).card : ℤ) =
      v.rangeEnd.boundary - v.rangeStart.boundary := by
  obtain ⟨p, q, hv⟩ := h.spans v (List.mem_of_getElem? hi)
  exact card_of_stretch hv.boundaries.2.1 fun b => h.mem_slice_iff hi

/-- All buckets get their answer, and in any order of the ranges the same one. -/
theorem holder_perm (h : DisjointRanges vs) (hp : vs.Perm vs') :
    holder ⟨.range, vs', bucketCount⟩ b = holder ⟨.range, vs, bucketCount⟩ b := by
  rw [h.holder_eq, (h.perm hp).holder_eq, List.find?_eq_find?_of_perm hp (h.owner_unique b)]

end DisjointRanges

namespace VariantSet

theorem ofType_of_disjointRanges {vs : List Variant} (h : DisjointRanges vs) (hne : vs ≠ []) :
    ofType "range_variant" vs bucketCount = .ok ⟨.range, vs, bucketCount⟩ :=
  ofType_name_eq_ok_iff.mpr ⟨check_of_disjointRanges h hne, rfl⟩

/-- The answer for a bucket is the name of its holder. -/
theorem choose_eq_map_holder (set : VariantSet) (b : ℤ) :
    set.choose b = (set.holder b).map fun found => (found.map (·.name)).getD "" := by
  unfold choose holder
  cases set.position? b with
  | error e => rfl
  | ok found => cases found <;> rfl

/-- Ranges that are disjoint are accepted, and each gets the buckets from the boundary of its start
to that of its end. Any order of them is accepted too, and every bucket gets the same variant. -/
theorem ofType_ranges {vs : List Variant} (hne : vs ≠ []) (h : DisjointRanges vs) :
    ∃ set, ofType "range_variant" vs bucketCount = .ok set ∧
      (∀ i v, vs[i]? = some v → ∃ lower upper : ℤ,
        wholeShare v.rangeStart bucketCount = .ok lower ∧
        wholeShare v.rangeEnd bucketCount = .ok upper ∧
        ((set.slice i).card : ℤ) = upper - lower ∧
        (∀ b, b ∈ set.slice i ↔ lower ≤ b ∧ b < upper) ∧
        ∀ b ∈ set.slice i, set.choose b = .ok v.name) ∧
      ∀ vs', vs.Perm vs' → ∃ set', ofType "range_variant" vs' bucketCount = .ok set' ∧
        ∀ b, (∃ found, set.holder b = .ok found ∧ set'.holder b = .ok found) ∧
          set'.choose b = set.choose b := by
  refine ⟨_, ofType_of_disjointRanges h hne, ?_, ?_⟩
  · intro i v hi
    have hrange := h.hasRange v (List.mem_of_getElem? hi)
    exact ⟨_, _, wholeShare_of_hasShare hrange.1, wholeShare_of_hasShare hrange.2, h.card_slice hi,
      fun b => h.mem_slice_iff hi, fun b hb => choose_of_mem_slice hi hb⟩
  · intro vs' hp
    have hne' : vs' ≠ [] := fun hnil => hne (by simpa [hnil] using hp)
    refine ⟨_, ofType_of_disjointRanges (h.perm hp) hne', fun b => ⟨?_, ?_⟩⟩
    · exact ⟨_, h.holder_eq, (h.holder_perm hp).trans h.holder_eq⟩
    · rw [choose_eq_map_holder, choose_eq_map_holder, h.holder_perm hp]

/-- The middle third and, behind it in the list, the first one. -/
def adjacentThirds : List Variant :=
  [⟨"middle", .ofInt 0, .ofRat false (1 / 3), .ofRat false (2 / 3)⟩,
    ⟨"first", .ofInt 0, .ofInt 0, .ofRat false (1 / 3)⟩]

theorem disjointRanges_adjacentThirds : DisjointRanges adjacentThirds := by
  obtain ⟨hzero, hthird, htwo⟩ : (Floating.ofInt 0 : Double).toRat? = some 0 ∧
      (Floating.ofRat false (1 / 3) : Double).toRat? = some (6004799503160661 / 2 ^ 54) ∧
      (Floating.ofRat false (2 / 3) : Double).toRat? = some (6004799503160661 / 2 ^ 53) := by
    decide +kernel
  constructor
  · refine List.forall_mem_cons.mpr ⟨⟨_, _, hthird, htwo, ?_, ?_, ?_⟩,
      List.forall_mem_singleton.mpr ⟨_, _, hzero, hthird, ?_, ?_, ?_⟩⟩ <;> norm_num
  · refine List.pairwise_pair.mpr ?_
    rintro x ⟨⟨p, -, hp, -, hlo, -⟩, ⟨-, q, -, hq, -, hhi⟩⟩
    obtain rfl : p = q := Option.some.inj (hp.symm.trans hq)
    linarith

/-- The end of the first third and the start of the middle one are the same double. -/
theorem ofType_ranges_adjacentThirds :
    ∃ set set', ofType "range_variant" adjacentThirds bucketCount = .ok set ∧
      ofType "range_variant" adjacentThirds.reverse bucketCount = .ok set' ∧
      (set.slice 0).card = 333 ∧ ∀ b, set'.choose b = set.choose b := by
  obtain ⟨hlower, hupper⟩ : wholeShare (.ofRat false (1 / 3)) bucketCount = .ok 333 ∧
      wholeShare (.ofRat false (2 / 3)) bucketCount = .ok 666 := by decide +kernel
  obtain ⟨set, hset, hslices, hperm⟩ :=
    ofType_ranges (by decide) disjointRanges_adjacentThirds
  obtain ⟨set', hset', hsame⟩ := hperm _ (List.reverse_perm _).symm
  obtain ⟨lower, upper, hl, hu, hcard, -⟩ := hslices 0 _ rfl
  obtain rfl := Except.ok.inj (hlower.symm.trans hl)
  obtain rfl := Except.ok.inj (hupper.symm.trans hu)
  exact ⟨set, set', hset, hset', by omega, fun b => (hsame b).2⟩

end VariantSet

end SplitTest
