import SplitTest.Proofs.Number.Shortest

/-! No decimal that is read as a number has fewer digits than its shortest one, and none with as few
is nearer to it. -/
namespace SplitTest

variable {F : Format}

theorem length_numeral_le {n k : ℕ} (hk : 0 < k) (h : n < 10 ^ k) : (numeral n).length ≤ k := by
  rcases Nat.eq_zero_or_pos n with rfl | hpos
  · rw [numeral_of_lt (by norm_num)]
    exact hk
  · have hlength := (pow_length_numeral_le hpos).trans_lt h
    have := (Nat.pow_lt_pow_iff_right (by norm_num)).mp hlength
    omega

namespace Decimal

/-- Normalizing takes the only decimal of one more digit that a grid may end with off. -/
theorem digits_normalize_lt {d : Decimal} {n : ℕ} (hn : 0 < n) (h : d.digits ≤ 10 ^ n) :
    d.normalize.digits < 10 ^ n := by
  fun_induction normalize d with
  | case1 d hd ih => exact ih ((Nat.div_le_self _ _).trans h)
  | case2 d hd =>
    refine lt_of_le_of_ne h fun hfull => hd ?_
    rw [hfull]
    exact ⟨by positivity, Nat.mod_eq_zero_of_dvd (dvd_pow_self 10 hn.ne')⟩

theorem count_normalize_le {d : Decimal} {n : ℕ} (hn : 0 < n) (h : d.digits ≤ 10 ^ n) :
    d.normalize.count ≤ n :=
  length_numeral_le hn (digits_normalize_lt hn h)

end Decimal

section Grid

variable {i : RoundingInterval} {size : ℚ} {exponent leading : ℤ} {n : ℕ} {d : Decimal}

theorem RoundingInterval.contains_between {p q r : ℚ} (hp : i.contains p = true)
    (hr : i.contains r = true) (hpq : p ≤ q) (hqr : q ≤ r) : i.contains q = true := by
  obtain ⟨hlo, -, hlo'⟩ := contains_iff.mp hp
  obtain ⟨-, hhi, hhi'⟩ := contains_iff.mp hr
  refine contains_iff.mpr ⟨hlo.trans hpq, hqr.trans hhi, ?_⟩
  rcases hlo' with hclosed | hlo'
  · exact Or.inl hclosed
  · exact hhi'.imp_right fun hhi' => ⟨hlo'.1.trans_le hpq, hqr.trans_lt hhi'.2⟩

/-- A grid gives one of the neighbours of a size, and the other one only if it is not nearer. -/
theorem nearestOnGrid_cases (h : nearestOnGrid i size exponent = some d) :
    (d = ⟨gridBelow size exponent, exponent⟩ ∧
      (i.contains ((gridBelow size exponent + 1 : ℕ) * 10 ^ exponent) = true →
        size - gridBelow size exponent * 10 ^ exponent ≤
          (gridBelow size exponent + 1 : ℕ) * 10 ^ exponent - size)) ∨
    (d = ⟨gridBelow size exponent + 1, exponent⟩ ∧
      (i.contains (gridBelow size exponent * 10 ^ exponent) = true →
        (gridBelow size exponent + 1 : ℕ) * 10 ^ exponent - size ≤
          size - gridBelow size exponent * 10 ^ exponent)) := by
  unfold nearestOnGrid at h
  dsimp only at h
  split at h
  · split_ifs at h with hlow hhigh
    · exact Or.inl ⟨(Option.some.inj h).symm, fun _ => hlow.le⟩
    · exact Or.inr ⟨(Option.some.inj h).symm, fun _ => hhigh.le⟩
    · exact Or.inl ⟨(Option.some.inj h).symm, fun _ => not_lt.mp hhigh⟩
    · exact Or.inr ⟨(Option.some.inj h).symm, fun _ => not_lt.mp hlow⟩
  · next hhigh =>
    exact Or.inl ⟨(Option.some.inj h).symm, fun hin => absurd (hin.symm.trans hhigh) (by decide)⟩
  · next hlow _ =>
    exact Or.inr ⟨(Option.some.inj h).symm, fun hin => absurd (hin.symm.trans hlow) (by decide)⟩
  · cases h

theorem digits_le_of_nearestOnGrid (h : nearestOnGrid i size exponent = some d) :
    d.digits ≤ gridBelow size exponent + 1 := by
  rcases nearestOnGrid_cases h with ⟨rfl, -⟩ | ⟨rfl, -⟩
  · exact Nat.le_succ _
  · exact le_rfl

/-- The distances of a size from its neighbours on a grid. -/
theorem abs_sub_gridBelow (hsize : 0 ≤ size) (exponent : ℤ) :
    |size - gridBelow size exponent * 10 ^ exponent| =
        size - gridBelow size exponent * 10 ^ exponent ∧
      |size - (gridBelow size exponent + 1 : ℕ) * 10 ^ exponent| =
        (gridBelow size exponent + 1 : ℕ) * 10 ^ exponent - size := by
  obtain ⟨hlow, hhigh⟩ := gridBelow_le hsize exponent
  rw [← Nat.cast_add_one] at hhigh
  exact ⟨abs_of_nonneg (by linarith), by rw [abs_of_neg (by linarith), neg_sub]⟩

theorem abs_sub_nearestOnGrid_le (hsize : 0 ≤ size) (h : nearestOnGrid i size exponent = some d)
    {k : ℕ} (hk : k = gridBelow size exponent ∨ k = gridBelow size exponent + 1)
    (hin : i.contains (k * 10 ^ exponent) = true) :
    |size - d.toRat| ≤ |size - k * 10 ^ exponent| := by
  obtain ⟨hlow, hhigh⟩ := abs_sub_gridBelow hsize exponent
  rcases nearestOnGrid_cases h with ⟨rfl, hnear⟩ | ⟨rfl, hnear⟩ <;> rcases hk with rfl | rfl
  · exact le_rfl
  · rw [Decimal.toRat, hlow, hhigh]
    exact hnear hin
  · rw [Decimal.toRat, hlow, hhigh]
    exact hnear hin
  · exact le_rfl

/-- Next to a multiple of a power of ten in the interval there is a neighbour of the size in it that
is no farther. -/
theorem exists_neighbour (hsize : 0 ≤ size) (hin : i.contains size = true) {c : ℕ}
    (hc : i.contains (c * 10 ^ exponent) = true) :
    ∃ k, (k = gridBelow size exponent ∨ k = gridBelow size exponent + 1) ∧
      i.contains (k * 10 ^ exponent) = true ∧
      |size - k * 10 ^ exponent| ≤ |size - c * 10 ^ exponent| := by
  obtain ⟨hlow, hhigh⟩ := gridBelow_le hsize exponent
  obtain ⟨hdlow, hdhigh⟩ := abs_sub_gridBelow hsize exponent
  rw [← Nat.cast_add_one] at hhigh
  rcases Nat.lt_or_ge (gridBelow size exponent) c with hbeyond | hbelow
  · have hle : ((gridBelow size exponent + 1 : ℕ) : ℚ) * 10 ^ exponent ≤ c * 10 ^ exponent := by
      gcongr
      exact hbeyond
    refine ⟨_, Or.inr rfl, RoundingInterval.contains_between hin hc hhigh.le hle, ?_⟩
    rw [hdhigh, abs_of_neg (by linarith)]
    linarith
  · have hle : (c : ℚ) * 10 ^ exponent ≤ gridBelow size exponent * 10 ^ exponent := by
      gcongr
    refine ⟨_, Or.inl rfl, RoundingInterval.contains_between hc hin hle hlow, ?_⟩
    rw [hdlow, abs_of_nonneg (by linarith)]
    linarith

/-- A decimal in the interval has a multiple of the power of ten in the interval that is no farther
from the size, if it has no more digits than the size has down to that power. -/
theorem exists_multiple (hin : i.contains size = true) (hlead : 10 ^ leading ≤ size)
    (hcount : d.count ≤ n + 1) (hd : i.contains d.toRat = true) :
    ∃ c : ℕ, i.contains (c * 10 ^ (leading - n)) = true ∧
      |size - c * 10 ^ (leading - n)| ≤ |size - d.toRat| := by
  rcases le_or_gt (leading - n) d.exponent with hfine | hcoarse
  · have hsame : ((d.digits * 10 ^ (d.exponent - (leading - n)).toNat : ℕ) : ℚ) *
        10 ^ (leading - n) = d.toRat := by
      push_cast
      rw [mul_assoc, ← zpow_natCast, ← zpow_add₀ (by norm_num), Int.toNat_of_nonneg (by omega),
        sub_add_cancel]
      rfl
    exact ⟨_, hsame ▸ hd, by rw [hsame]⟩
  · -- Finer decimals with so few digits end below the leading place, which is on the grid.
    have hplace : ((10 ^ n : ℕ) : ℚ) * 10 ^ (leading - n) = 10 ^ leading := by
      push_cast
      rw [← zpow_natCast, ← zpow_add₀ (by norm_num), add_sub_cancel]
    have hbelow : d.toRat < 10 ^ leading :=
      d.toRat_lt.trans_le (zpow_le_zpow_right₀ (by norm_num) (by omega))
    refine ⟨10 ^ n, ?_, ?_⟩ <;> rw [hplace]
    · exact RoundingInterval.contains_between hd hin hbelow.le hlead
    · rw [abs_of_nonneg (by linarith), abs_of_nonneg (by linarith)]
      linarith

/-- A grid gives something no farther than a decimal in the interval that has no more digits. -/
theorem nearestOnGrid_of_decimal (hsize : 0 ≤ size) (hin : i.contains size = true)
    (hlead : 10 ^ leading ≤ size) (hcount : d.count ≤ n + 1) (hd : i.contains d.toRat = true) :
    ∃ e, nearestOnGrid i size (leading - n) = some e ∧
      |size - e.toRat| ≤ |size - d.toRat| := by
  obtain ⟨c, hc, hcd⟩ := exists_multiple hin hlead hcount hd
  obtain ⟨k, hk, hkin, hkc⟩ := exists_neighbour hsize hin hc
  have hsome : (nearestOnGrid i size (leading - n)).isSome = true := by
    refine isSome_nearestOnGrid ?_
    rw [← Nat.cast_add_one]
    rcases hk with rfl | rfl
    · exact Or.inl hkin
    · exact Or.inr hkin
  obtain ⟨e, he⟩ := Option.isSome_iff_exists.mp hsome
  exact ⟨e, he, (abs_sub_nearestOnGrid_le hsize he hk hkin).trans (hkc.trans hcd)⟩

/-- Where a size has `n + 1` digits down to a place, its neighbours have no more. -/
theorem gridBelow_lt (hsize : 0 ≤ size) (hlead : size < 10 ^ (leading + 1)) (n : ℕ) :
    gridBelow size (leading - n) < 10 ^ (n + 1) := by
  have hunit : (0 : ℚ) < 10 ^ (leading - n) := by positivity
  have hlow := (gridBelow_le hsize (leading - n)).1.trans_lt hlead
  have hsplit : (10 : ℚ) ^ (leading + 1) = (10 ^ (n + 1) : ℕ) * 10 ^ (leading - n) := by
    push_cast
    rw [← zpow_natCast, ← zpow_add₀ (by norm_num)]
    congr 1
    push_cast
    ring
  rw [hsplit] at hlow
  exact_mod_cast lt_of_mul_lt_mul_right hlow hunit.le

end Grid

namespace Finite

variable {x : Finite F} {s : Bool} {q : ℚ} {k : ℕ} {d : Decimal}

theorem contains_magnitude (x : Finite F) :
    (RoundingInterval.ofFinite x).contains x.magnitude = true := by
  have hroom := x.roomBelow_pos
  exact contains_scaled_iff.mpr
    ⟨by linarith, by linarith, Or.inr ⟨by linarith, by linarith⟩⟩

theorem nearestParts_of_ofMagnitude (h0 : x.mantissa ≠ 0)
    (h : (Floating.ofMagnitude s q : Floating F) = .finite x) :
    q ≠ 0 ∧ F.nearestParts q = (x.mantissa, x.exponent) := by
  have hparts : ∀ {m : ℕ} {e : ℤ}, (Floating.ofParts s m e : Floating F) = .finite x →
      (m, e) = (x.mantissa, x.exponent) := by
    intro m e hof
    unfold Floating.ofParts at hof
    split_ifs at hof
    rw [← Floating.finite.inj hof]
  unfold Floating.ofMagnitude at h
  split_ifs at h with hq
  · exact absurd (Prod.mk.inj (hparts h)).1.symm h0
  · exact ⟨hq, hparts h⟩

section Interval

variable [F.Proper] (hq : 0 < q)
include hq

theorem contains_of_roundEven (hplace : F.unitExponent q = x.exponent)
    (h : roundEven (q * 2 ^ (-x.exponent)) = x.mantissa) :
    (RoundingInterval.ofFinite x).contains q = true := by
  have hunit : (0 : ℚ) < 2 ^ x.exponent := by positivity
  obtain ⟨hlo, hhi, hends⟩ := roundEven_bounds (q * 2 ^ (-x.exponent))
  rw [h, Int.cast_natCast] at hlo hhi hends
  rw [zpow_neg, ← div_eq_mul_inv] at hlo hhi hends
  rw [← div_mul_cancel₀ q hunit.ne', contains_scaled_iff]
  by_cases hat : x.AtPower
  · -- With a last place of its own a power of two is the least size that has it.
    have hfull : (x.mantissa : ℚ) ≤ q / 2 ^ x.exponent := by
      have hle := Format.zpow_unitExponent_le hq (hplace ▸ hat.2)
      rw [hplace, add_sub_assoc, add_comm, zpow_add₀ (by norm_num)] at hle
      rw [le_div_iff₀ hunit, hat.1]
      refine le_trans (le_of_eq ?_) hle
      push_cast
      rw [← zpow_natCast, Nat.cast_sub Format.Proper.precision_pos]
      rfl
    have hroom := x.roomBelow_pos
    exact ⟨by linarith, hhi, hends.imp (fun heven => by omega) fun hin => ⟨by linarith, hin.2⟩⟩
  · have hroom : x.roomBelow = 1 / 2 := if_neg hat
    rw [hroom]
    exact ⟨hlo, hhi, hends.imp_left fun heven => by omega⟩

theorem contains_of_roundEven_full (hprecision : 1 < F.precision)
    (hplace : F.unitExponent q + 1 = x.exponent) (hm : x.mantissa = 2 ^ (F.precision - 1))
    (h : roundEven (q * 2 ^ (-F.unitExponent q)) = 2 ^ F.precision) :
    (RoundingInterval.ofFinite x).contains q = true := by
  have hunit : (0 : ℚ) < 2 ^ F.unitExponent q := by positivity
  have hat : x.AtPower := ⟨hm, by have := Format.minExponent_le_unitExponent (F := F) q; omega⟩
  have hroom : x.roomBelow = 1 / 4 := if_pos hat
  have hdouble : (2 : ℚ) ^ F.precision = 2 * x.mantissa := by
    rw [hm, ← two_zpow_precision, zpow_natCast]
  have hlo := (roundEven_bounds (q * 2 ^ (-F.unitExponent q))).1
  have hhi := Format.lt_zpow_unitExponent (F := F) hq
  rw [h, zpow_neg, ← div_eq_mul_inv] at hlo
  rw [add_comm, zpow_add₀ (by norm_num), ← div_lt_iff₀ hunit, zpow_natCast, hdouble] at hhi
  push_cast at hlo
  rw [hdouble] at hlo
  have heven : x.mantissa % 2 = 0 := by
    rw [hm]
    exact Nat.mod_eq_zero_of_dvd (dvd_pow_self 2 (by omega))
  have hsize : q = q / 2 ^ F.unitExponent q / 2 * 2 ^ x.exponent := by
    rw [← hplace, zpow_add_one₀ (by norm_num)]
    field_simp
  rw [hsize, contains_scaled_iff, hroom]
  exact ⟨by linarith, by linarith, Or.inl heven⟩

/-- What is rounded to a number lies in its interval. -/
theorem contains_of_nearestParts (hprecision : 1 < F.precision)
    (h : F.nearestParts q = (x.mantissa, x.exponent)) :
    (RoundingInterval.ofFinite x).contains q = true := by
  have hnonneg : 0 ≤ roundEven (q * 2 ^ (-F.unitExponent q)) := roundEven_nonneg (by positivity)
  unfold Format.nearestParts at h
  dsimp only at h
  split_ifs at h with hfull
  · obtain ⟨hm, he⟩ := Prod.mk.inj h
    refine contains_of_roundEven_full hq hprecision he ?_ ?_
    · rw [← hm, hfull, Nat.pow_eq, ← Nat.pow_div (by omega) (by norm_num), pow_one]
    · rw [← Int.toNat_of_nonneg hnonneg, hfull, Nat.pow_eq, Nat.cast_pow, Nat.cast_ofNat]
  · obtain ⟨hm, he⟩ := Prod.mk.inj h
    refine contains_of_roundEven hq he ?_
    rw [← he, ← hm, Int.toNat_of_nonneg hnonneg]

end Interval

/-- The shortest decimal is found on a grid no finer than one that is known to give something, and
has no more digits than that. -/
theorem exists_grid (hpos : 0 < x.magnitude) (hrange : -100000 ≤ binaryExponent x.magnitude)
    (hk : k ≤ 16) (h : (nearestOnGrid (.ofFinite x) x.magnitude
      (Decimal.leadingExponent x.magnitude - k)).isSome = true) :
    ∃ j ≤ k, x.shortest.count ≤ j + 1 ∧ ∃ e, nearestOnGrid (.ofFinite x) x.magnitude
      (Decimal.leadingExponent x.magnitude - j) = some e ∧ e.toRat = x.shortest.toRat := by
  obtain ⟨j, hj, hgrid⟩ := exists_shortestFrom (Nat.zero_le k) (show k < 0 + 17 by omega) h
  have hlead := Decimal.lt_zpow_leadingExponent hpos hrange
  have hbelow := gridBelow_lt hpos.le hlead j
  have hdigits := digits_le_of_nearestOnGrid hgrid
  refine ⟨j, hj, Decimal.count_normalize_le (Nat.succ_pos j) (by omega), _, hgrid, ?_⟩
  rw [shortest, Decimal.toRat_normalize]

end Finite

section Doubles

variable {x : Finite binary64} {s : Bool} {d : Decimal}

theorem Double.le_binaryExponent (hpos : 0 < x.magnitude) :
    -100000 ≤ binaryExponent x.magnitude := by
  have h0 : x.mantissa ≠ 0 := fun h => hpos.ne' (Finite.mantissa_eq_zero_iff.mp h)
  have hmin : -1074 ≤ x.exponent := x.canonical.2.1
  have hone : (1 : ℚ) ≤ x.mantissa := by exact_mod_cast Nat.one_le_iff_ne_zero.mpr h0
  rw [← zpow_le_iff_le_binaryExponent hpos]
  calc (2 : ℚ) ^ (-100000 : ℤ) ≤ 2 ^ x.exponent := zpow_le_zpow_right₀ (by norm_num) (by omega)
    _ ≤ x.mantissa * 2 ^ x.exponent := le_mul_of_one_le_left (by positivity) hone

/-- No decimal that is read as a double has fewer digits than its shortest one, and none with as few
is nearer to it. -/
theorem Double.shortest_minimal (h0 : x.mantissa ≠ 0)
    (h : (d.toFloating s : Double) = .finite x) : x.shortest.count ≤ d.count ∧
      (d.count = x.shortest.count →
        |x.magnitude - x.shortest.toRat| ≤ |x.magnitude - d.toRat|) := by
  have hpos : 0 < x.magnitude :=
    lt_of_le_of_ne x.magnitude_nonneg fun h => h0 (Finite.mantissa_eq_zero_iff.mpr h.symm)
  have hlead := Decimal.zpow_leadingExponent_le hpos (Double.binaryExponent_le hpos)
  rw [Decimal.toFloating_eq_ofMagnitude] at h
  obtain ⟨hd0, hparts⟩ := Finite.nearestParts_of_ofMagnitude h0 h
  have hd := Finite.contains_of_nearestParts (d.toRat_nonneg.lt_of_ne' hd0) (by decide) hparts
  have hgrid : ∀ {n : ℕ}, d.count ≤ n + 1 → ∃ e, nearestOnGrid (.ofFinite x) x.magnitude
      (Decimal.leadingExponent x.magnitude - n) = some e ∧
        |x.magnitude - e.toRat| ≤ |x.magnitude - d.toRat| := fun hn =>
    nearestOnGrid_of_decimal hpos.le x.contains_magnitude hlead hn hd
  have hcount : 0 < d.count := List.length_pos_iff.mpr (numeral_ne_nil d.digits)
  obtain ⟨k, hk, hkcount, hsome⟩ : ∃ k ≤ 16, k + 1 ≤ d.count ∧ (nearestOnGrid (.ofFinite x)
      x.magnitude (Decimal.leadingExponent x.magnitude - k)).isSome = true := by
    rcases le_or_gt d.count 17 with hfew | hmany
    · obtain ⟨e, he, -⟩ := hgrid (n := d.count - 1) (by omega)
      exact ⟨d.count - 1, by omega, by omega, by rw [he]; rfl⟩
    · exact ⟨16, le_rfl, by omega, Finite.isSome_seventeenDigits le_rfl hlead⟩
  obtain ⟨j, hj, hjcount, e, he, hvalue⟩ :=
    Finite.exists_grid hpos (Double.le_binaryExponent hpos) hk hsome
  refine ⟨by omega, fun hsame => ?_⟩
  obtain ⟨e', he', hnear⟩ := hgrid (n := j) (by omega)
  obtain rfl := Option.some.inj (he.symm.trans he')
  rwa [← hvalue]

end Doubles
end SplitTest
