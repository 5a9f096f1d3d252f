import SplitTest.Proofs.VariantSet.Ranges

/-! Sizes in thousandths. Few of them are doubles, but the product of a rounded one with the number
of buckets is rounded back to a whole number of buckets, so that none is lost. -/
namespace SplitTest

/-- The double nearest to a number of thousandths. -/
def thousandths (k : ℕ) : ℚ :=
  binary64.nearest (k / 1000)

/-- A number of thousandths whose double may be wrong by as much as half a unit of the number, or
next to which units change. -/
def Delicate (k : ℕ) : Prop :=
  1000 * 2 ^ Nat.log2 k ≤ 512 * k ∨ k = 2 ^ Nat.log2 k

instance (k : ℕ) : Decidable (Delicate k) :=
  inferInstanceAs (Decidable (_ ∨ _))

/-- Of the numbers up to a thousand 33 are delicate. -/
theorem nearest_thousandths_mul_of_delicate : ∀ k : Fin 1001, Delicate k →
    binary64.nearest (thousandths k * 1000) = (k : ℕ) := by
  decide +kernel

/-- The error of a thousandth, below the power of two that its number is below. -/
theorem abs_thousandths_sub_le {k L : ℕ} (h : 512 * k < 1000 * 2 ^ L) :
    |thousandths k - k / 1000| ≤ 2 ^ ((L : ℤ) - 62) / 2 := by
  apply Format.abs_nearest_sub_le (F := binary64) (by positivity)
  · show (-1074 : ℤ) ≤ L - 62
    omega
  · have hcast : (512 * k : ℚ) < 1000 * 2 ^ L := by exact_mod_cast h
    have hroom : (2 : ℚ) ^ ((L : ℤ) - 62 + binary64.precision) = 2 ^ L / 512 := by
      rw [show (L : ℤ) - 62 + binary64.precision = L - 9 by simp [binary64]; ring,
        zpow_sub₀ (by norm_num), zpow_natCast]
      norm_num
    rw [hroom]
    linarith

/-- Between two powers of two, less than half a unit around a number everything is rounded to it. -/
theorem nearest_of_near_natCast {x : ℚ} {k L : ℕ} (hL : L ≤ 52) (hlo : 2 ^ L < k)
    (hhi : k < 2 ^ (L + 1)) (hx : |x - k| < 2 ^ ((L : ℤ) - 52) / 2) : binary64.nearest x = k := by
  have hsplit : 2 ^ L * 2 ^ (52 - L) = 2 ^ 52 := by
    rw [← pow_add]
    congr 1
    omega
  have hvalue : ((k * 2 ^ (52 - L) : ℤ) : ℚ) * 2 ^ ((L : ℤ) - 52) = k := by
    push_cast
    rw [mul_assoc, ← zpow_natCast, ← zpow_add₀ (by norm_num), Nat.cast_sub hL]
    simp
  have hfull : 2 ^ 52 < k * 2 ^ (52 - L) := by
    rw [← hsplit]
    gcongr
  have hroom : k * 2 ^ (52 - L) < 2 ^ 53 := by
    rw [pow_succ 2 52, ← hsplit, mul_right_comm, ← pow_succ]
    gcongr
  -- With all places of its mantissa the number is a multiple of `2 ^ (L - 52)`.
  rw [← hvalue] at hx
  rw [Format.nearest_of_near _ _ _ hx, hvalue]
  · show (-1074 : ℤ) ≤ L - 52
    omega
  · exact_mod_cast hfull
  · exact_mod_cast hroom

theorem log2_le_nine {k : ℕ} (hpos : 0 < k) (hk : k ≤ 1000) : Nat.log2 k ≤ 9 := by
  have hlo : 2 ^ Nat.log2 k ≤ k := Nat.log2_self_le hpos.ne'
  by_contra hgt
  have hten : 2 ^ 10 ≤ 2 ^ Nat.log2 k := Nat.pow_le_pow_right (by norm_num) (by omega)
  omega

theorem nearest_thousandths_mul_of_not_delicate {k : ℕ} (hpos : 0 < k) (hk : k ≤ 1000)
    (hd : ¬ Delicate k) : binary64.nearest (thousandths k * 1000) = k := by
  have hlo : 2 ^ Nat.log2 k ≤ k := Nat.log2_self_le hpos.ne'
  have hhi : k < 2 ^ (Nat.log2 k + 1) := Nat.lt_log2_self
  have hnine := log2_le_nine hpos hk
  obtain ⟨hlow, hpower⟩ := not_or.mp hd
  generalize Nat.log2 k = L at *
  -- The error grows a thousandfold, and a unit of the number is 1024 units of the thousandth.
  have herror := abs_thousandths_sub_le (not_le.mp hlow)
  have hscale : thousandths k * 1000 - k = (thousandths k - k / 1000) * 1000 := by ring
  have hunit : (2 : ℚ) ^ ((L : ℤ) - 52) = 2 ^ ((L : ℤ) - 62) * 1024 := by
    rw [show (1024 : ℚ) = 2 ^ (10 : ℤ) by norm_num, ← zpow_add₀ (by norm_num)]
    congr 1
    ring
  have hunit_pos : (0 : ℚ) < 2 ^ ((L : ℤ) - 62) := by positivity
  apply nearest_of_near_natCast (by omega) (by omega) hhi
  rw [hscale, abs_mul, abs_of_pos (by norm_num : (0 : ℚ) < 1000), hunit]
  linarith

/-- A thousand times a rounded thousandth is rounded to the number it stands for. -/
theorem nearest_thousandths_mul {k : ℕ} (hk : k ≤ 1000) :
    binary64.nearest (thousandths k * 1000) = k := by
  rcases Nat.eq_zero_or_pos k with rfl | hpos
  · simp [thousandths, Format.nearest]
  · by_cases hd : Delicate k
    · exact nearest_thousandths_mul_of_delicate ⟨k, by omega⟩ hd
    · exact nearest_thousandths_mul_of_not_delicate hpos hk hd

theorem thousandths_nonneg (k : ℕ) : 0 ≤ thousandths k :=
  Format.nearest_nonneg (by positivity)

theorem thousandths_le_one {k : ℕ} (hk : k ≤ 1000) : thousandths k ≤ 1 := by
  apply nearest_le_one
  rw [div_le_one (by norm_num)]
  exact_mod_cast hk

theorem thousandths_le {k : ℕ} (hk : k ≤ 1000) : thousandths k ≤ k / 1000 + 1 / 2 ^ 54 := by
  rcases hk.lt_or_eq with hlt | rfl
  · have hroom : (k / 1000 : ℚ) < 2 ^ (-53 + binary64.precision : ℤ) := by
      rw [show (-53 + binary64.precision : ℤ) = 0 by decide, zpow_zero, div_lt_one (by norm_num)]
      exact_mod_cast hlt
    have herror := Format.abs_nearest_sub_le (F := binary64) (by positivity) (by decide) hroom
    have hle := (abs_le.mp herror).2
    norm_num at hle
    unfold thousandths
    linarith
  · have hone := thousandths_le_one le_rfl
    push_cast
    norm_num
    linarith

/-- The errors of two thousandths come to half a unit of one, which is rounded to even. -/
theorem nearest_add_thousandths_le_one {k l : ℕ} (h : k + l ≤ 1000) :
    binary64.nearest (thousandths k + thousandths l) ≤ 1 := by
  have htie : binary64.nearest (1 + 1 / 2 ^ 53) = 1 := by decide +kernel
  have hk := thousandths_le (k := k) (by omega)
  have hl := thousandths_le (k := l) (by omega)
  have hsum : (k : ℚ) + l ≤ 1000 := by exact_mod_cast h
  rw [← htie]
  apply Format.nearest_mono
  norm_num at *
  linarith

/-- A size is the double nearest to a number of thousandths. -/
structure Variant.HasThousandths (v : Variant) (k : ℕ) : Prop where
  le : k ≤ 1000
  size : v.size.toRat? = some (thousandths k)

namespace Variant.HasThousandths

variable {v : Variant} {k : ℕ}

theorem nonneg (h : v.HasThousandths k) : v.Nonneg :=
  ⟨thousandths k, h.size, thousandths_nonneg k⟩

theorem toRat?_share (h : v.HasThousandths k) :
    (v.size.mul (.ofInt 1000)).toRat? = some (k : ℚ) := by
  have hrange := inRange_of_unit (thousandths_nonneg k) (thousandths_le_one h.le)
  rw [toRat?_mul_thousand h.size, if_pos hrange, nearest_thousandths_mul h.le]

theorem boundary_eq (h : v.HasThousandths k) : v.size.boundary = k := by
  rw [Double.boundary, h.size, Option.getD_some, wholeBuckets, nearest_thousandths_mul h.le,
    truncate_of_nonneg (Nat.cast_nonneg k)]
  exact Int.floor_natCast k

end Variant.HasThousandths

namespace VariantSet

variable {a : Arrangement} {vs : List Variant} {ks : List ℕ} {start : Double}

/-- Whole shares that fit are added up without an error. -/
theorem totalShare_of_thousandths {s : ℕ} (h : List.Forall₂ Variant.HasThousandths vs ks)
    (hs : start.toRat? = some (s : ℚ)) (hle : s + ks.sum ≤ 1000) :
    ∃ total, totalShare bucketCount start vs = .ok total ∧
      total.toRat? = some ((s + ks.sum : ℕ) : ℚ) := by
  induction h generalizing start s with
  | nil => exact ⟨start, rfl, by simpa using hs⟩
  | @cons v k vs ks hv _ ih =>
    rw [List.sum_cons, ← add_assoc] at hle ⊢
    have hsmall : ((s + k : ℕ) : ℤ).natAbs ≤ 2 ^ 53 := by
      show s + k ≤ 2 ^ 53
      omega
    have hexact := Format.nearest_intCast (F := binary64) hsmall (by decide)
    have hcount : (s : ℚ) + k ≤ 1000 := by exact_mod_cast (by omega : s + k ≤ 1000)
    have hroom : |(s : ℚ) + k| < binary64.overflowThreshold := by
      apply Double.lt_overflowThreshold
      rw [abs_of_nonneg (by positivity)]
      exact hcount.trans (by norm_num)
    have hstep := Floating.toRat?_add hs hv.toRat?_share
    rw [if_pos hroom, ← Nat.cast_add, ← Int.cast_natCast, hexact, Int.cast_natCast] at hstep
    rw [totalShare, share_bucketCount, Except.ok_bind]
    exact ih hstep hle

theorem check_single_of_thousandths {v w : Variant} {k l : ℕ} (hv : v.HasThousandths k)
    (hw : w.HasThousandths l) (h : k + l ≤ 1000) : check bucketCount .single [v, w] = .ok () := by
  have hnonneg : 0 ≤ thousandths k + thousandths l :=
    add_nonneg (thousandths_nonneg k) (thousandths_nonneg l)
  have hsum := Floating.toRat?_add hv.size hw.size
  rw [if_pos] at hsum
  · refine check_single_iff.mpr ⟨v, w, rfl, (unitShare_iff hsum).mpr ?_⟩
    exact ⟨Format.nearest_nonneg hnonneg, nearest_add_thousandths_le_one h⟩
  · apply Double.lt_overflowThreshold
    rw [abs_of_nonneg hnonneg]
    have hk := thousandths_le_one hv.le
    have hl := thousandths_le_one hw.le
    norm_num
    linarith

theorem check_multi_of_thousandths (h : List.Forall₂ Variant.HasThousandths vs ks)
    (hlen : 3 ≤ vs.length) (hle : ks.sum ≤ 1000) : check bucketCount .multi vs = .ok () := by
  have hzero : (Floating.ofInt 0 : Double).toRat? = some ((0 : ℕ) : ℚ) := by
    simpa using Double.toRat?_ofInt (k := 0) (by norm_num)
  obtain ⟨total, htotal, hvalue⟩ := totalShare_of_thousandths h hzero (by omega)
  obtain ⟨f, rfl, hf⟩ := Floating.toRat?_eq_some_iff.mp hvalue
  refine check_multi_iff.mpr ⟨hlen, _, htotal, decide_eq_false ?_⟩
  have hcast : ((ks.sum : ℕ) : ℚ) ≤ (1000 : ℕ) := Nat.cast_le.mpr hle
  rwa [hf, not_lt, bucketCount_eq, zero_add]

/-- Accepted variants get as many buckets as there are thousandths in their sizes. -/
theorem card_slice_of_thousandths (ha : a ≠ .range)
    (h : List.Forall₂ Variant.HasThousandths vs ks) (hcheck : check bucketCount a vs = .ok ())
    {i : ℕ} (hi : i < ks.length) : (slice ⟨a, vs, bucketCount⟩ i).card = ks[i] := by
  have hnonneg : (∀ v ∈ vs, v.Nonneg) ↔ ∀ k ∈ ks, True :=
    forall_iff_of_forall₂ h fun v k hv => iff_true_intro hv.nonneg
  obtain ⟨start, hlaid⟩ := exists_laidOut ha (hnonneg.mpr fun _ _ => trivial) hcheck
  obtain ⟨hlen, hget⟩ := List.forall₂_iff_get.mp h
  have hv := hget i (hlen.symm ▸ hi) hi
  have hcard := hlaid.card_slice (List.getElem?_eq_getElem (hlen.symm ▸ hi))
  rw [List.get_eq_getElem, List.get_eq_getElem] at hv
  rw [hv.boundary_eq] at hcard
  exact_mod_cast hcard

/-- Slices have no bucket in common, so the thousandths of accepted variants are not too many. -/
theorem sum_le_of_check (ha : a ≠ .range) (h : List.Forall₂ Variant.HasThousandths vs ks)
    (hcheck : check bucketCount a vs = .ok ()) : ks.sum ≤ 1000 := by
  have hcount : ∑ i ∈ Finset.range ks.length, (slice ⟨a, vs, bucketCount⟩ i).card = ks.sum := by
    rw [Finset.sum_range, ← Fin.sum_univ_getElem]
    exact Finset.sum_congr rfl fun i _ => card_slice_of_thousandths ha h hcheck i.isLt
  rw [← hcount]
  exact sum_card_slice_le _ _

/-- Two variants of a pair, or three or more of a set that is stacked, are accepted exactly if there
are no more thousandths in their sizes than there are buckets. -/
theorem check_thousandths_iff (ha : a = .single ∧ vs.length = 2 ∨ a = .multi ∧ 3 ≤ vs.length)
    (h : List.Forall₂ Variant.HasThousandths vs ks) :
    check bucketCount a vs = .ok () ↔ ks.sum ≤ 1000 := by
  constructor
  · intro hcheck
    have hrange : a ≠ .range := by
      rcases ha with ⟨rfl, -⟩ | ⟨rfl, -⟩ <;> decide
    exact sum_le_of_check hrange h hcheck
  · intro hle
    rcases ha with ⟨rfl, hlen⟩ | ⟨rfl, hlen⟩
    · obtain ⟨v, w, rfl⟩ := List.length_eq_two.mp hlen
      obtain ⟨k, l, rfl⟩ := List.length_eq_two.mp (h.length_eq.symm.trans hlen)
      obtain ⟨hv, hw⟩ : v.HasThousandths k ∧ w.HasThousandths l := by simpa using h
      exact check_single_of_thousandths hv hw (by simpa using hle)
    · exact check_multi_of_thousandths h hlen hle

/-- Sizes in thousandths are exact: two of a pair, or three or more of a set that is stacked, are
accepted if and only if they add up to at most all buckets, and each gets a bucket per thousandth.
-/
theorem ofType_thousandths {type : String} {vs : List Variant} {ks : List ℕ}
    (ht : type = "single_variant" ∧ vs.length = 2 ∨ type = "multi_variant" ∧ 3 ≤ vs.length)
    (h : List.Forall₂ Variant.HasThousandths vs ks) :
    ((∃ set, ofType type vs bucketCount = .ok set) ↔ ks.sum ≤ 1000) ∧
      ∀ set, ofType type vs bucketCount = .ok set → ∀ i v k, vs[i]? = some v → ks[i]? = some k →
        (set.slice i).card = k ∧ ∀ b ∈ set.slice i, set.choose b = .ok v.name := by
  obtain ⟨a, rfl, ha⟩ : ∃ a : Arrangement, type = a.name ∧
      (a = .single ∧ vs.length = 2 ∨ a = .multi ∧ 3 ≤ vs.length) := by
    rcases ht with ⟨rfl, hlen⟩ | ⟨rfl, hlen⟩
    · exact ⟨.single, rfl, Or.inl ⟨rfl, hlen⟩⟩
    · exact ⟨.multi, rfl, Or.inr ⟨rfl, hlen⟩⟩
  constructor
  · simp only [ofType_name_eq_ok_iff, ← check_thousandths_iff ha h, exists_and_left,
      exists_eq, and_true]
  · intro set hset i v k hi hk
    obtain ⟨hcheck, rfl⟩ := ofType_name_eq_ok_iff.mp hset
    have hrange : a ≠ .range := by
      rcases ha with ⟨rfl, -⟩ | ⟨rfl, -⟩ <;> decide
    obtain ⟨hlen, rfl⟩ := List.getElem?_eq_some_iff.mp hk
    exact ⟨card_slice_of_thousandths hrange h hcheck hlen, fun b hb => choose_of_mem_slice hi hb⟩

/-- Variants with sizes in thousandths. -/
def inThousandths (ks : List ℕ) : List Variant :=
  ks.map fun k : ℕ => ⟨toString k, .ofRat false (k / 1000), .ofInt 0, .ofInt 0⟩

theorem forall₂_inThousandths (ks : List ℕ) (h : ∀ k ∈ ks, k ≤ 1000) :
    List.Forall₂ Variant.HasThousandths (inThousandths ks) ks := by
  rw [inThousandths, List.forall₂_map_left_iff, List.forall₂_same]
  intro k hk
  have hsize : |(k / 1000 : ℚ)| ≤ 1 := by
    rw [abs_of_nonneg (by positivity), div_le_one (by norm_num)]
    exact_mod_cast h k hk
  refine ⟨h k hk, ?_⟩
  rw [Floating.toRat?_ofRat, if_pos (Double.lt_overflowThreshold (hsize.trans (by norm_num))),
    thousandths]

/-- A full split is accepted, and a thousandth more is not. -/
theorem ofType_thousandths_fullSplit :
    (∃ set, ofType "multi_variant" (inThousandths [333, 333, 334]) bucketCount = .ok set ∧
      (set.slice 2).card = 334) ∧
    ¬ ∃ set, ofType "single_variant" (inThousandths [667, 334]) bucketCount = .ok set := by
  obtain ⟨haccept, hslices⟩ := ofType_thousandths (Or.inr ⟨rfl, le_rfl⟩)
    (forall₂_inThousandths [333, 333, 334] (by decide))
  obtain ⟨hrefuse, -⟩ := ofType_thousandths (Or.inl ⟨rfl, rfl⟩)
    (forall₂_inThousandths [667, 334] (by decide))
  obtain ⟨set, hset⟩ := haccept.mpr (by decide)
  constructor
  · exact ⟨set, hset, (hslices set hset 2 _ _ rfl rfl).1⟩
  · exact hrefuse.not.mpr (by decide)

end VariantSet

end SplitTest
