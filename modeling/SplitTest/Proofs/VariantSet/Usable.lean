import SplitTest.Proofs.VariantSet.Layout

/-! Which accepted variants can be served. The checks look at sums, so a size that is out of range
can be made up for by another one. -/
namespace SplitTest

/-- The integer part of a size's rounded product with the number of buckets is a number of them. -/
def Double.Fits (x : Double) : Prop :=
  ∃ s, (x.mul (.ofInt 1000)).toRat? = some s ∧ -1 < s ∧ s < 1001

theorem truncate_nonneg_iff {x : ℚ} : 0 ≤ truncate x ↔ -1 < x := by
  rcases lt_or_ge x 0 with hx | hx
  · have hfloor : ⌊-x⌋ < 1 ↔ -x < 1 := by exact_mod_cast Int.floor_lt
    rw [truncate_of_neg hx, neg_nonneg, ← Int.lt_add_one_iff, zero_add, hfloor, neg_lt]
  · exact iff_of_true (truncate_nonneg hx) (by linarith)

theorem wholeShare_eq_ok_iff {x : Double} {n : ℤ} : wholeShare x bucketCount = .ok n ↔
    ∃ s, (x.mul (.ofInt 1000)).toRat? = some s ∧ truncate s = n := by
  unfold wholeShare
  rw [share_bucketCount, Except.ok_bind]
  cases x.mul (.ofInt 1000) <;> simp [Floating.integerPart, Floating.toRat?]

theorem fits_iff {x : Double} :
    x.Fits ↔ ∃ n, wholeShare x bucketCount = .ok n ∧ 0 ≤ n ∧ n ≤ 1000 := by
  have hle : ∀ s : ℚ, truncate s ≤ 1000 ↔ s < 1001 := by
    intro s
    have hreach := le_truncate_iff (x := s) (k := 1001) (by norm_num)
    rw [← not_le, ← not_lt, ← Int.add_one_le_iff]
    exact not_congr (by exact_mod_cast hreach)
  simp only [wholeShare_eq_ok_iff]
  constructor
  · rintro ⟨s, hs, hlo, hhi⟩
    exact ⟨truncate s, ⟨s, hs, rfl⟩, truncate_nonneg_iff.mpr hlo, (hle s).mpr hhi⟩
  · rintro ⟨_, ⟨s, hs, rfl⟩, hlo, hhi⟩
    exact ⟨s, hs, truncate_nonneg_iff.mp hlo, (hle s).mp hhi⟩

namespace VariantSet

/-- Every slice is a number of buckets, and every bucket has an answer. -/
structure Usable (set : VariantSet) : Prop where
  slices : ∀ v ∈ set.variants, ∃ n, wholeShare v.size bucketCount = .ok n ∧ 0 ≤ n ∧ n ≤ 1000
  answers : ∀ b, 0 ≤ b → b < bucketCount → ∃ name, set.choose b = .ok name

variable {a : Arrangement} {vs : List Variant}

theorem exists_position (ha : a ≠ .range) (hcheck : check bucketCount a vs = .ok ())
    (hvs : ∀ v ∈ vs, v.size.HasShare) {b : ℤ} (hb : 0 ≤ b) :
    ∃ found, position? ⟨a, vs, bucketCount⟩ b = .ok found := by
  cases a with
  | range => exact absurd rfl ha
  | multi => exact exists_stackedPosition hvs hb
  | rollout =>
    obtain ⟨v, rfl, -⟩ := check_rollout_iff.mp hcheck
    exact exists_stackedPosition hvs hb
  | single =>
    obtain ⟨v, w, rfl, -⟩ := check_single_iff.mp hcheck
    exact ⟨_, pairPosition_of_hasShare (hvs v (by simp)) (hvs w (by simp)) b⟩

theorem usable_iff (ha : a ≠ .range) (hcheck : check bucketCount a vs = .ok ()) :
    Usable ⟨a, vs, bucketCount⟩ ↔ ∀ v ∈ vs, v.size.Fits := by
  constructor
  · intro h v hv
    exact fits_iff.mpr (h.slices v hv)
  · intro h
    have hslices := fun v hv => fits_iff.mp (h v hv)
    have hshare : ∀ v ∈ vs, v.size.HasShare := by
      intro v hv
      obtain ⟨n, hn, -⟩ := hslices v hv
      obtain ⟨q, hq, hr, -⟩ := toRat?_of_wholeShare hn
      exact ⟨q, hq, hr⟩
    refine ⟨hslices, fun b hb _ => ?_⟩
    obtain ⟨found, hfound⟩ := exists_position ha hcheck hshare hb
    rw [choose, hfound, Except.ok_bind]
    cases found <;> exact ⟨_, rfl⟩

theorem fits_of_laidOut {start : ℕ → ℤ} (h : LaidOut ⟨a, vs, bucketCount⟩ start) :
    ∀ v ∈ vs, v.size.Fits := by
  intro v hv
  obtain ⟨i, hi⟩ := List.getElem?_of_mem hv
  obtain ⟨hshare, hn, hstart, hroom⟩ := h.room i v hi
  rw [bucketCount_eq] at hroom
  exact fits_iff.mpr ⟨_, wholeShare_of_hasShare hshare, hn, by omega⟩

/-- A set that is accepted can be used exactly if the rounded product of each size with the number
of buckets lies between minus one and one more than all buckets. That is so if no size is negative,
and for every rollout. -/
theorem ofType_usable {type : String} {set : VariantSet}
    (ht : type ∈ ["single_variant", "multi_variant", "feature_rollout"])
    (hvs : ∀ v ∈ vs, v.size.isFinite = true) (h : ofType type vs bucketCount = .ok set) :
    (set.Usable ↔ ∀ v ∈ vs, v.size.Fits) ∧ ((∀ v ∈ vs, v.Nonneg) → set.Usable) ∧
      (type = "feature_rollout" → set.Usable) := by
  obtain ⟨a, ha, hcheck, rfl⟩ := ofType_eq_ok_iff.mp h
  have hrange := ofName?_ne_range ht ha
  have hiff := usable_iff hrange hcheck
  have hnonneg : (∀ v ∈ vs, v.Nonneg) → Usable ⟨a, vs, bucketCount⟩ := by
    intro hnn
    obtain ⟨start, hlaid⟩ := exists_laidOut hrange hnn hcheck
    exact hiff.mpr (fits_of_laidOut hlaid)
  refine ⟨hiff, hnonneg, fun htype => hnonneg ?_⟩
  subst htype
  have hrollout : Arrangement.ofName? "feature_rollout" = some .rollout := by decide +kernel
  obtain rfl := Option.some.inj (ha.symm.trans hrollout)
  obtain ⟨v, rfl, hunit⟩ := check_rollout_iff.mp hcheck
  obtain ⟨f, hf⟩ := Floating.isFinite_iff.mp (hvs v (by simp))
  have hq : v.size.toRat? = some f.toRat := by rw [hf, Floating.toRat?]
  exact List.forall_mem_singleton.mpr ⟨f.toRat, hq, ((unitShare_iff hq).mp hunit).1⟩

/-- A share and another one that makes up for it. -/
def balancedPair (size : ℚ) : List Variant :=
  [⟨"on", .ofRat false size, .ofInt 0, .ofInt 0⟩,
    ⟨"off", .ofRat false (1 - size), .ofInt 0, .ofInt 0⟩]

/-- Less than a bucket below zero is cut off. -/
theorem ofType_usable_halfBucket :
    ofType "single_variant" (balancedPair (2001 / 2000)) bucketCount =
      .ok ⟨.single, balancedPair (2001 / 2000), bucketCount⟩ ∧
    Usable ⟨.single, balancedPair (2001 / 2000), bucketCount⟩ := by
  have hset : ofType "single_variant" (balancedPair (2001 / 2000)) bucketCount =
      .ok ⟨.single, balancedPair (2001 / 2000), bucketCount⟩ := by decide +kernel
  have hfinite : ∀ v ∈ balancedPair (2001 / 2000), v.size.isFinite = true := by decide +kernel
  have hon : wholeShare (.ofRat false (2001 / 2000)) bucketCount = .ok 1000 := by decide +kernel
  have hoff : wholeShare (.ofRat false (1 - 2001 / 2000)) bucketCount = .ok 0 := by decide +kernel
  have hfits : ∀ v ∈ balancedPair (2001 / 2000), v.size.Fits := by
    simp only [balancedPair, List.forall_mem_cons, fits_iff, hon, hoff]
    simp
  exact ⟨hset, (ofType_usable (by decide) hfinite hset).1.mpr hfits⟩

/-- A pair is accepted whose sizes add up to one, though one is below zero and the other one past
all buckets; and one on which even the first bucket has no answer. -/
theorem not_usable_balancedPair :
    (∀ v ∈ balancedPair (3 / 2), v.size.isFinite = true) ∧
    ofType "single_variant" (balancedPair (3 / 2)) bucketCount =
      .ok ⟨.single, balancedPair (3 / 2), bucketCount⟩ ∧
    ¬ Usable ⟨.single, balancedPair (3 / 2), bucketCount⟩ ∧
    (∀ v ∈ balancedPair (10 ^ 308), v.size.isFinite = true) ∧
    ofType "single_variant" (balancedPair (10 ^ 308)) bucketCount =
      .ok ⟨.single, balancedPair (10 ^ 308), bucketCount⟩ ∧
    choose ⟨.single, balancedPair (10 ^ 308), bucketCount⟩ 0 = .error .infinite ∧
    ¬ Usable ⟨.single, balancedPair (10 ^ 308), bucketCount⟩ := by
  have hwhole : wholeShare (.ofRat false (3 / 2)) bucketCount = .ok 1500 := by decide +kernel
  have hanswer : choose ⟨.single, balancedPair (10 ^ 308), bucketCount⟩ 0 = .error .infinite := by
    decide +kernel
  refine ⟨by decide +kernel, by decide +kernel, fun h => ?_, by decide +kernel, by decide +kernel,
    hanswer, fun h => ?_⟩
  · obtain ⟨n, hn, -, hle⟩ := h.slices _ (List.mem_cons_self ..)
    obtain rfl := Except.ok.inj (hwhole.symm.trans hn)
    omega
  · obtain ⟨name, hname⟩ := h.answers 0 le_rfl (by decide)
    cases hanswer.symm.trans hname

end VariantSet
end SplitTest
