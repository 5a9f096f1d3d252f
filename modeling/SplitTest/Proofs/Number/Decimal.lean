import SplitTest.Number.Decimal
import SplitTest.Proofs.Number.Equality
import SplitTest.Proofs.Number.Numeral

/-! Decimals are read as the nearest number, however large or small they are. -/
namespace SplitTest

/-- The error of a power of ten for a power of two grows with the exponent. -/
theorem ten_pow_le_of_ratio {n c j : ℕ} (hhi : 10 ^ c ≤ 2 * 2 ^ n) (hj : j ≤ n) :
    (10 : ℚ) ^ (c * j) ≤ 2 ^ n * 2 ^ (n * j) := by
  have hhiq : (10 : ℚ) ^ c ≤ 2 * 2 ^ n := by exact_mod_cast hhi
  calc (10 : ℚ) ^ (c * j) = (10 ^ c) ^ j := pow_mul _ _ _
    _ ≤ (2 * 2 ^ n) ^ j := by gcongr
    _ = 2 ^ j * 2 ^ (n * j) := by rw [mul_pow, ← pow_mul]
    _ ≤ 2 ^ n * 2 ^ (n * j) := by
      gcongr
      norm_num

/-- A power of ten that is just above a power of two measures all powers of two that are not too
large, up to a factor of two. -/
theorem ten_zpow_le_two_zpow {n c : ℕ} (hn : 0 < n) (hlo : 2 ^ n ≤ 10 ^ c)
    (hhi : 10 ^ c ≤ 2 * 2 ^ n) {k b : ℤ} (hk : n * k ≤ c * b) (hb : b ≤ n) :
    (10 : ℚ) ^ k ≤ 2 * 2 ^ b := by
  have hloq : (2 : ℚ) ^ n ≤ 10 ^ c := by exact_mod_cast hlo
  have hpowers : ((10 : ℚ) ^ k) ^ n ≤ (2 * 2 ^ b) ^ n := by
    rw [mul_pow, ← zpow_natCast ((10 : ℚ) ^ k), ← zpow_natCast ((2 : ℚ) ^ b), ← zpow_mul,
      ← zpow_mul]
    rcases le_or_gt 0 b with hb0 | hb0
    · obtain ⟨j, rfl⟩ := Int.eq_ofNat_of_zero_le hb0
      calc (10 : ℚ) ^ (k * n) ≤ 10 ^ ((c * j : ℕ) : ℤ) := by
            refine zpow_le_zpow_right₀ (by norm_num) ?_
            push_cast
            linarith
        _ = 10 ^ (c * j) := zpow_natCast _ _
        _ ≤ 2 ^ n * 2 ^ (n * j) := ten_pow_le_of_ratio hhi (show j ≤ n by omega)
        _ = 2 ^ n * 2 ^ ((j : ℤ) * n) := by
            rw [← zpow_natCast (2 : ℚ) (n * j)]
            push_cast
            rw [mul_comm (n : ℤ)]
    · obtain ⟨j, rfl⟩ := Int.exists_eq_neg_ofNat hb0.le
      have hcount : (2 : ℚ) ^ (n * j) ≤ 10 ^ (c * j) := by
        rw [pow_mul, pow_mul]
        gcongr
      calc (10 : ℚ) ^ (k * n) ≤ 10 ^ (-((c * j : ℕ) : ℤ)) := by
            refine zpow_le_zpow_right₀ (by norm_num) ?_
            push_cast
            linarith
        _ = (10 ^ (c * j))⁻¹ := by rw [zpow_neg, zpow_natCast]
        _ ≤ (2 ^ (n * j))⁻¹ := by gcongr
        _ = 2 ^ (-(j : ℤ) * n) := by
            rw [neg_mul, zpow_neg, ← zpow_natCast]
            push_cast
            rw [mul_comm]
        _ ≤ 2 ^ n * 2 ^ (-(j : ℤ) * n) :=
            le_mul_of_one_le_left (by positivity) (one_le_pow₀ (by norm_num))
  exact le_of_pow_le_pow_left₀ hn.ne' (by positivity) hpowers

theorem two_pow_le_ten_pow : 2 ^ 100000 ≤ 10 ^ 30103 := by decide +kernel

theorem ten_pow_le_two_pow : 10 ^ 30103 ≤ 2 * 2 ^ 100000 := by decide +kernel

namespace Decimal

variable {d : Decimal}

theorem toRat_nonneg (d : Decimal) : 0 ≤ d.toRat := by
  unfold toRat
  positivity

theorem toRat_lt (d : Decimal) : d.toRat < 10 ^ ((d.count : ℤ) + d.exponent) := by
  have hdigits : d.digits < 10 ^ d.count := by
    have h := ofDecimalDigits_lt (numeral d.digits)
    rwa [ofDecimalDigits_numeral] at h
  have hdigitsq : (d.digits : ℚ) < 10 ^ (d.count : ℤ) := by exact_mod_cast hdigits
  rw [toRat, zpow_add₀ (by norm_num)]
  gcongr

theorem le_toRat (h : d.digits ≠ 0) : 10 ^ ((d.count : ℤ) + d.exponent - 1) ≤ d.toRat := by
  have hcount : 0 < d.count := List.length_pos_iff.mpr (numeral_ne_nil d.digits)
  have hdigits : 10 ^ (d.count - 1) ≤ d.digits :=
    pow_length_numeral_le (Nat.pos_of_ne_zero h)
  have hdigitsq : (10 : ℚ) ^ ((d.count - 1 : ℕ) : ℤ) ≤ d.digits := by exact_mod_cast hdigits
  have hplaces : (d.count : ℤ) + d.exponent - 1 = ((d.count - 1 : ℕ) : ℤ) + d.exponent := by omega
  rw [toRat, hplaces, zpow_add₀ (by norm_num)]
  gcongr

theorem le_ten_zpow_reach : binary64.overflowThreshold ≤ 10 ^ reach := by
  decide +kernel

theorem ten_zpow_reach_le : (10 : ℚ) ^ (-reach) ≤ 2 ^ (binary64.minExponent - 1) := by
  decide +kernel

/-- Nothing is lost where decimals are cut off. -/
theorem toFloating_eq_ofMagnitude (negative : Bool) (d : Decimal) :
    (d.toFloating negative : Double) = .ofMagnitude negative d.toRat := by
  unfold toFloating
  split_ifs with h0 hlarge hsmall
  · simp [toRat, h0, Floating.ofMagnitude]
  · have hsize : binary64.overflowThreshold ≤ d.toRat := by
      calc binary64.overflowThreshold ≤ 10 ^ reach := le_ten_zpow_reach
        _ ≤ 10 ^ ((d.count : ℤ) + d.exponent - 1) :=
          zpow_le_zpow_right₀ (by norm_num) (by omega)
        _ ≤ d.toRat := le_toRat h0
    have hpos := Format.overflowThreshold_pos (F := binary64)
    rw [Floating.ofMagnitude_eq_infinity negative (hpos.trans_le hsize) hsize]
  · have hpos : 0 < d.toRat := lt_of_lt_of_le (by positivity) (le_toRat h0)
    have hsize : d.toRat < 2 ^ (binary64.minExponent - 1) := by
      calc d.toRat < 10 ^ ((d.count : ℤ) + d.exponent) := d.toRat_lt
        _ ≤ 10 ^ (-reach) := zpow_le_zpow_right₀ (by norm_num) hsmall.le
        _ ≤ 2 ^ (binary64.minExponent - 1) := ten_zpow_reach_le
    have hzero : binary64.nearestSize d.toRat = binary64.nearestSize 0 := by
      rw [Format.nearestSize_eq_zero hpos hsize, Format.nearestSize_zero]
    rw [Floating.ofMagnitude_congr hpos.le le_rfl hzero, Floating.ofMagnitude, if_pos rfl]
  · rfl

theorem toRat_normalize (d : Decimal) : d.normalize.toRat = d.toRat := by
  fun_induction normalize d with
  | case1 d h ih =>
    have hdigits : (d.digits : ℚ) = (d.digits / 10 : ℕ) * 10 := by
      have : d.digits = d.digits / 10 * 10 := by omega
      exact_mod_cast this
    rw [ih, toRat, toRat, zpow_add_one₀ (by norm_num), hdigits]
    ring
  | case2 d h => rfl

/-- The constants of `leadingExponent` measure powers of two. -/
theorem ten_zpow_le {k b : ℤ} (hk : 100000 * k ≤ 30103 * b) (hb : b ≤ 100000) :
    (10 : ℚ) ^ k ≤ 2 * 2 ^ b :=
  ten_zpow_le_two_zpow (by norm_num) two_pow_le_ten_pow ten_pow_le_two_pow
    (by exact_mod_cast hk) (by exact_mod_cast hb)

section Leading

variable {x : ℚ} (hx : 0 < x)
include hx

theorem zpow_leadingExponent_le (h : binaryExponent x ≤ 100000) :
    (10 : ℚ) ^ leadingExponent x ≤ x := by
  unfold leadingExponent
  dsimp only
  split_ifs with h1 h2
  · exact h1
  · exact h2
  · have hpower := ten_zpow_le (k := binaryExponent x * 30103 / 100000) (by omega) h
    calc (10 : ℚ) ^ (binaryExponent x * 30103 / 100000 - 1)
        = 10 ^ (binaryExponent x * 30103 / 100000) / 10 := zpow_sub_one₀ (by norm_num) _
      _ ≤ 2 ^ binaryExponent x := by
        have : (0 : ℚ) < 2 ^ binaryExponent x := by positivity
        linarith
      _ ≤ x := zpow_binaryExponent_le hx

theorem lt_zpow_leadingExponent (h : -100000 ≤ binaryExponent x) :
    x < 10 ^ (leadingExponent x + 1) := by
  unfold leadingExponent
  dsimp only
  split_ifs with h1 h2
  · generalize hk : binaryExponent x * 30103 / 100000 + 1 = k
    have hpower := ten_zpow_le (k := -k) (b := -binaryExponent x) (by omega) (by omega)
    rw [zpow_neg, zpow_neg, inv_le_iff_one_le_mul₀ (by positivity), ← div_eq_mul_inv,
      div_mul_eq_mul_div, one_le_div (by positivity)] at hpower
    calc x < 2 ^ (binaryExponent x + 1) := lt_zpow_binaryExponent hx
      _ = 2 ^ binaryExponent x * 2 := zpow_add_one₀ (by norm_num) _
      _ ≤ 10 ^ k * 10 := by
        have : (0 : ℚ) < 10 ^ k := by positivity
        linarith
      _ = 10 ^ (k + 1) := (zpow_add_one₀ (by norm_num) _).symm
  · exact not_le.mp h1
  · rw [sub_add_cancel]
    exact not_le.mp h2

end Leading

end Decimal
end SplitTest
