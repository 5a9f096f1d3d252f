import SplitTest.Proofs.Outcome
import SplitTest.Proofs.VariantSet.Share

/-! What the checks of variant sets say of exact sizes: a share between none and all, up to the one
rounding of a sum. -/
namespace SplitTest

/-- The error of one rounded sum near one. -/
def sumSlack : ℚ := 1 / 2 ^ 52

theorem nearest_one_add_slack : binary64.nearest (1 + sumSlack) = 1 + sumSlack := by
  have hkeep := Format.nearest_of_mantissa (F := binary64) (k := 2 ^ 52 + 1) (e := -52)
    (by decide) (by decide)
  have hform : ((2 ^ 52 + 1 : ℤ) : ℚ) * 2 ^ (-52 : ℤ) = 1 + sumSlack := by
    unfold sumSlack
    norm_num
  rwa [hform] at hkeep

theorem nearest_neg_slack : binary64.nearest (-sumSlack) = -sumSlack := by
  have hkeep := Format.nearest_of_mantissa (F := binary64) (k := -1) (e := -52)
    (by decide) (by decide)
  have hform : ((-1 : ℤ) : ℚ) * 2 ^ (-52 : ℤ) = -sumSlack := by
    unfold sumSlack
    norm_num
  rwa [hform] at hkeep

theorem unitShare_iff {x : Double} {q : ℚ} (hx : x.toRat? = some q) :
    VariantSet.unitShare x = true ↔ 0 ≤ q ∧ q ≤ 1 := by
  have h0 : (Floating.ofInt 0 : Double).toRat? = some 0 := by
    simpa using Double.toRat?_ofInt (k := 0) (by norm_num)
  have h1 : (Floating.ofInt 1 : Double).toRat? = some 1 := by
    simpa using Double.toRat?_ofInt (k := 1) (by norm_num)
  have hlo := Floating.lt_iff_of_toRat? hx h0
  have hhi := Floating.lt_iff_of_toRat? h1 hx
  unfold VariantSet.unitShare
  rw [Bool.not_eq_true', Bool.or_eq_false_iff, ← Bool.not_eq_true, ← Bool.not_eq_true, hlo, hhi,
    not_lt, not_lt]

theorem unitShare_infinity (s : Bool) : VariantSet.unitShare (.infinity s) = false := by
  cases s <;> decide +kernel

/-- Sizes whose rounded sum lies between none and all do so themselves, up to one rounding. -/
theorem sum_bounds_of_unitShare {x y : Double} {p q : ℚ} (hx : x.toRat? = some p)
    (hy : y.toRat? = some q) (h : VariantSet.unitShare (x.add y) = true) :
    -sumSlack ≤ p + q ∧ p + q ≤ 1 + sumSlack := by
  have hsum := Floating.toRat?_add hx hy
  split_ifs at hsum with hr
  · obtain ⟨hlo, hhi⟩ := (unitShare_iff hsum).mp h
    constructor
    · by_contra hneg
      rw [not_le] at hneg
      have hround := Format.nearest_mono (F := binary64) hneg.le
      rw [nearest_neg_slack] at hround
      unfold sumSlack at hround
      linarith
    · by_contra hbig
      rw [not_le] at hbig
      have hround := Format.nearest_mono (F := binary64) hbig.le
      rw [nearest_one_add_slack] at hround
      unfold sumSlack at hround
      linarith
  · obtain ⟨f, rfl, rfl⟩ := Floating.toRat?_eq_some_iff.mp hx
    obtain ⟨g, rfl, rfl⟩ := Floating.toRat?_eq_some_iff.mp hy
    simp only [Floating.add] at h
    rw [Floating.ofRat_eq_infinity _ (not_lt.mp hr), unitShare_infinity] at h
    cases h

/-- Doubles of at least `2 ^ 60` are whole multiples of `2 ^ 8`. -/
theorem magnitude_eq_of_large (f : Finite binary64) (h : 2 ^ 60 ≤ f.magnitude) :
    ∃ k : ℤ, f.magnitude = k * 2 ^ 8 := by
  obtain ⟨hm, -, -, -⟩ := f.canonical
  have hm' : (f.mantissa : ℚ) < 2 ^ (53 : ℤ) := by exact_mod_cast hm
  have he : 8 ≤ f.exponent := by
    by_contra hlt
    have hunit : (2 : ℚ) ^ f.exponent ≤ 2 ^ (7 : ℤ) :=
      zpow_le_zpow_right₀ (by norm_num) (by omega)
    have hpos : (0 : ℚ) < 2 ^ f.exponent := by positivity
    have : f.magnitude < 2 ^ (53 : ℤ) * 2 ^ (7 : ℤ) := by
      unfold Finite.magnitude
      exact mul_lt_mul hm' hunit hpos (by positivity)
    norm_num at this h
    linarith
  refine ⟨f.mantissa * 2 ^ (f.exponent - 8).toNat, ?_⟩
  unfold Finite.magnitude
  push_cast
  rw [← zpow_natCast, Int.toNat_of_nonneg (by omega), mul_assoc, ← zpow_ofNat,
    ← zpow_add₀ (by norm_num)]
  congr 2
  omega

/-- Large doubles are more than two apart, so none is just out of range. -/
theorem inRange_of_le_add_two {f g : Finite binary64} (hf : ShareInRange f.toRat)
    (h : |g.toRat| ≤ |f.toRat| + 2) : ShareInRange g.toRat := by
  rcases lt_or_ge |f.toRat| (2 ^ 60) with hsmall | hlarge
  · have hbound : (2 : ℚ) ^ 60 + 2 ≤ 2 ^ 180 := by norm_num
    exact inRange_of_abs_le (by linarith)
  · refine inRange_of_abs_le_abs hf ?_
    by_contra hgt
    rw [not_le] at hgt
    rw [Finite.abs_toRat, Finite.abs_toRat] at h hgt
    rw [Finite.abs_toRat] at hlarge
    obtain ⟨i, hi⟩ := magnitude_eq_of_large f hlarge
    obtain ⟨j, hj⟩ := magnitude_eq_of_large g (hlarge.trans hgt.le)
    have hij : i < j := by
      have : (i : ℚ) * 2 ^ 8 < j * 2 ^ 8 := hi ▸ hj ▸ hgt
      exact_mod_cast lt_of_mul_lt_mul_right this (by positivity)
    have hstep : (i : ℚ) + 1 ≤ j := by exact_mod_cast hij
    rw [hi, hj] at h
    linarith

namespace VariantSet

/-- A rollout that passes its check has one variant, with a share between none and all. -/
theorem check_rollout_iff {vs : List Variant} {buckets : ℤ} :
    check buckets .rollout vs = .ok () ↔ ∃ v, vs = [v] ∧ unitShare v.size = true := by
  match vs with
  | [] => simp [check]
  | [v] => simp [check]
  | _ :: _ :: _ => simp [check]

/-- A pair that passes its check has two variants whose sum is a share between none and all. -/
theorem check_single_iff {vs : List Variant} {buckets : ℤ} :
    check buckets .single vs = .ok () ↔
      ∃ v w, vs = [v, w] ∧ unitShare (v.size.add w.size) = true := by
  match vs with
  | [] => simp [check]
  | [_] => simp [check]
  | [v, w] => simp [check]
  | _ :: _ :: _ :: _ => simp [check]

/-- The position of a bucket in a rollout. -/
theorem stackedPosition_singleton {v : Variant} {n : ℤ}
    (h : wholeShare v.size bucketCount = .ok n) (b : ℤ) :
    stackedPosition bucketCount b 0 [v] = .ok (if b < n then some 0 else none) := by
  simp only [stackedPosition, h, zero_add, bind, Except.bind, pure, Except.pure]
  split_ifs <;> rfl

/-- The set of an experiment type that is accepted. -/
theorem ofType_eq_ok_iff {type : String} {vs : List Variant} {buckets : ℤ} {set : VariantSet} :
    ofType type vs buckets = .ok set ↔ ∃ a, Arrangement.ofName? type = some a ∧
      check buckets a vs = .ok () ∧ set = ⟨a, vs, buckets⟩ := by
  unfold ofType
  cases Arrangement.ofName? type with
  | none => simp
  | some a =>
    constructor
    · intro h
      obtain ⟨_, hcheck, hset⟩ := Except.bind_eq_ok_iff.mp h
      exact ⟨a, rfl, hcheck, (Except.ok.inj hset).symm⟩
    · rintro ⟨_, ha, hcheck, rfl⟩
      obtain rfl := Option.some.inj ha
      exact Except.bind_eq_ok_iff.mpr ⟨(), hcheck, rfl⟩

theorem ofName?_name (a : Arrangement) : Arrangement.ofName? a.name = some a := by
  cases a <;> decide +kernel

theorem ofType_name_eq_ok_iff {a : Arrangement} {vs : List Variant} {set : VariantSet} :
    ofType a.name vs bucketCount = .ok set ↔
      check bucketCount a vs = .ok () ∧ set = ⟨a, vs, bucketCount⟩ := by
  rw [ofType_eq_ok_iff, ofName?_name]
  simp

end VariantSet
end SplitTest
