import SplitTest.Proofs.Number.Decimal

/-! The shortest decimal of a number rounds back to it. -/
namespace SplitTest

variable {F : Format}

namespace RoundingInterval

variable {i : RoundingInterval} {q : ℚ}

theorem contains_iff : i.contains q = true ↔
    i.lower ≤ q ∧ q ≤ i.upper ∧ (i.closed = true ∨ i.lower < q ∧ q < i.upper) := by
  unfold contains
  split_ifs with h
  · simp [h]
  · simp only [h, Bool.and_eq_true, decide_eq_true_eq, Bool.false_eq_true, false_or]
    exact ⟨fun hq => ⟨hq.1.le, hq.2.le, hq⟩, fun hq => hq.2.2⟩

theorem contains_of_lt (hlo : i.lower < q) (hhi : q < i.upper) : i.contains q = true :=
  contains_iff.mpr ⟨hlo.le, hhi.le, Or.inr ⟨hlo, hhi⟩⟩

end RoundingInterval

namespace Finite

variable (x : Finite F)

/-- A full mantissa with numbers of a smaller last place below it. -/
def AtPower : Prop :=
  x.mantissa = 2 ^ (F.precision - 1) ∧ F.minExponent < x.exponent

instance : Decidable x.AtPower := inferInstanceAs (Decidable (_ ∧ _))

/-- How far below a number its interval begins, measured in its last place. -/
def roomBelow : ℚ :=
  if x.AtPower then 1 / 4 else 1 / 2

theorem roomBelow_pos : 0 < x.roomBelow := by
  unfold roomBelow
  split_ifs <;> norm_num

theorem roomBelow_le : x.roomBelow ≤ 1 / 2 := by
  unfold roomBelow
  split_ifs <;> norm_num

variable {x} {y : ℚ}

theorem contains_scaled_iff : (RoundingInterval.ofFinite x).contains (y * 2 ^ x.exponent) = true ↔
    x.mantissa - x.roomBelow ≤ y ∧ y ≤ x.mantissa + 1 / 2 ∧
      (x.mantissa % 2 = 0 ∨ x.mantissa - x.roomBelow < y ∧ y < x.mantissa + 1 / 2) := by
  have hunit : (0 : ℚ) < 2 ^ x.exponent := by positivity
  have hlower : (RoundingInterval.ofFinite x).lower =
      (x.mantissa - x.roomBelow) * 2 ^ x.exponent := by
    rw [sub_mul]
    rfl
  have hupper : (RoundingInterval.ofFinite x).upper = (x.mantissa + 1 / 2) * 2 ^ x.exponent := by
    rw [add_mul, one_div_mul_eq_div]
    rfl
  have hclosed : (RoundingInterval.ofFinite x).closed = true ↔ x.mantissa % 2 = 0 := by
    simp [RoundingInterval.ofFinite]
  rw [RoundingInterval.contains_iff, hlower, hupper, hclosed, mul_le_mul_iff_left₀ hunit,
    mul_le_mul_iff_left₀ hunit, mul_lt_mul_iff_left₀ hunit, mul_lt_mul_iff_left₀ hunit]

/-- What lies in the interval of a number is rounded to its mantissa. -/
theorem roundEven_of_contains
    (h : (RoundingInterval.ofFinite x).contains (y * 2 ^ x.exponent) = true) :
    roundEven y = x.mantissa := by
  obtain ⟨hlo, hhi, hends⟩ := contains_scaled_iff.mp h
  have hroom := x.roomBelow_le
  have hcast : ((x.mantissa : ℤ) : ℚ) = x.mantissa := Int.cast_natCast _
  rcases hends with heven | ⟨hlo', hhi'⟩
  · exact roundEven_of_even (by omega) (by rw [hcast]; linarith) (by rw [hcast]; linarith)
  · exact roundEven_of_lt (by rw [hcast]; linarith) (by rw [hcast]; linarith)

/-- A full mantissa is the only one whose interval reaches below the sizes of its last place. -/
theorem atPower_of_lt (hlo : x.mantissa - 1 / 2 ≤ y) (hy : y < (2 ^ (F.precision - 1) : ℕ))
    (hne : x.exponent ≠ F.minExponent) : x.AtPower := by
  obtain ⟨-, hmin, -, hfull⟩ := x.canonical
  refine ⟨le_antisymm (Nat.lt_succ_iff.mp ?_) (hfull.resolve_right hne), by omega⟩
  have hlt : (x.mantissa : ℚ) < (2 ^ (F.precision - 1) : ℕ) + 1 := by linarith
  exact_mod_cast hlt

theorem two_zpow_precision [F.Proper] :
    (2 : ℚ) ^ (F.precision : ℤ) = 2 * (2 ^ (F.precision - 1) : ℕ) := by
  have hp := Format.Proper.precision_pos (F := F)
  push_cast
  rw [← pow_succ', Nat.sub_add_cancel hp, zpow_natCast]

/-- Just below a power of two the last place is one further down, and the power is even there. -/
theorem nearestSize_below_power [F.Proper] (hat : x.AtPower) (hlo : x.mantissa - 1 / 4 ≤ y)
    (hhi : y < x.mantissa) : F.nearestSize (y * 2 ^ x.exponent) = x.magnitude := by
  obtain ⟨hmantissa, hmin⟩ := hat
  have hone : (1 : ℚ) ≤ x.mantissa := by
    rw [hmantissa]
    exact_mod_cast Nat.one_le_two_pow
  have hunit : (0 : ℚ) < 2 ^ (x.exponent - 1) := by positivity
  have hdown : (2 : ℚ) ^ x.exponent = 2 * 2 ^ (x.exponent - 1) := by
    rw [← zpow_one_add₀ (by norm_num), add_sub_cancel]
  have hsize : y * 2 ^ x.exponent = 2 * y * 2 ^ (x.exponent - 1) := by
    rw [hdown]
    ring
  have hpower : (2 : ℚ) ^ (F.precision : ℤ) = 2 * x.mantissa := by
    rw [two_zpow_precision, hmantissa]
  have hplace : F.unitExponent (y * 2 ^ x.exponent) = x.exponent - 1 := by
    refine Format.unitExponent_eq (mul_pos (by linarith) (by positivity)) (by omega) ?_ (Or.inl ?_)
    · rw [hsize, add_comm, zpow_add₀ (by norm_num), hpower]
      gcongr
    · rw [hsize, show x.exponent - 1 + F.precision - 1 = F.precision + (x.exponent - 1) - 1 by ring,
        zpow_sub_one₀ (by norm_num), zpow_add₀ (by norm_num), hpower]
      have hhalf : (2 : ℚ) * x.mantissa * 2 ^ (x.exponent - 1) * 2⁻¹ =
          x.mantissa * 2 ^ (x.exponent - 1) := by ring
      rw [hhalf]
      gcongr
      linarith
  have hround : roundEven (2 * y) = ((2 * x.mantissa : ℕ) : ℤ) := by
    refine roundEven_of_even (by omega) ?_ ?_ <;> push_cast <;> linarith
  rw [Format.nearestSize_of_place hsize hplace, hround, magnitude, hdown]
  push_cast
  ring

/-- What lies in the interval of a number is rounded to it. -/
theorem nearestSize_of_contains [F.Proper] (h0 : x.mantissa ≠ 0)
    (h : (RoundingInterval.ofFinite x).contains (y * 2 ^ x.exponent) = true) :
    F.nearestSize (y * 2 ^ x.exponent) = x.magnitude := by
  obtain ⟨hlo, hhi, -⟩ := contains_scaled_iff.mp h
  obtain ⟨hfit, hmin, -, -⟩ := x.canonical
  have hroom := x.roomBelow_le
  have hm : (1 : ℚ) ≤ x.mantissa := by exact_mod_cast Nat.one_le_iff_ne_zero.mpr h0
  have hunit : (0 : ℚ) < 2 ^ x.exponent := by positivity
  by_cases hsame : ((2 ^ (F.precision - 1) : ℕ) : ℚ) ≤ y ∨ x.exponent = F.minExponent
  · have hbelow : y < 2 ^ (F.precision : ℤ) := by
      have hfit' : (x.mantissa : ℚ) + 1 ≤ 2 ^ (F.precision : ℤ) := by exact_mod_cast hfit
      linarith
    have hplace : F.unitExponent (y * 2 ^ x.exponent) = x.exponent := by
      refine Format.unitExponent_eq (mul_pos (by linarith) hunit) hmin ?_ (hsame.imp_left ?_)
      · rw [add_comm, zpow_add₀ (by norm_num)]
        gcongr
      · intro hle
        rw [add_comm, zpow_sub_one₀ (by norm_num), zpow_add₀ (by norm_num), two_zpow_precision]
        have hhalf : (2 : ℚ) * (2 ^ (F.precision - 1) : ℕ) * 2 ^ x.exponent * 2⁻¹ =
            (2 ^ (F.precision - 1) : ℕ) * 2 ^ x.exponent := by ring
        rw [hhalf]
        gcongr
    rw [Format.nearestSize_of_place rfl hplace, roundEven_of_contains h]
    rfl
  · obtain ⟨hy, hne⟩ := not_or.mp hsame
    have hat : x.AtPower := atPower_of_lt (by linarith) (not_le.mp hy) hne
    have hquarter : x.roomBelow = 1 / 4 := if_pos hat
    refine nearestSize_below_power hat (by linarith) ?_
    rw [hat.1]
    exact not_le.mp hy

end Finite

section Search

variable {i : RoundingInterval} {size : ℚ} {exponent leading : ℤ} {d : Decimal}

theorem contains_of_nearestOnGrid (h : nearestOnGrid i size exponent = some d) :
    i.contains d.toRat = true := by
  unfold nearestOnGrid at h
  dsimp only at h
  split at h
  · split_ifs at h <;> obtain rfl := Option.some.inj h <;> assumption
  · obtain rfl := Option.some.inj h
    assumption
  · obtain rfl := Option.some.inj h
    assumption
  · cases h

/-- The multiple of a power of ten that is next below a size. -/
def gridBelow (size : ℚ) (exponent : ℤ) : ℕ :=
  (size / 10 ^ exponent).floor.toNat

theorem gridBelow_le (h : 0 ≤ size) (exponent : ℤ) :
    gridBelow size exponent * 10 ^ exponent ≤ size ∧
      size < (gridBelow size exponent + 1) * 10 ^ exponent := by
  have hunit : (0 : ℚ) < 10 ^ exponent := by positivity
  have hfloor : ((gridBelow size exponent : ℕ) : ℚ) = ⌊size / 10 ^ exponent⌋ := by
    have hnn : 0 ≤ ⌊size / 10 ^ exponent⌋ := Int.floor_nonneg.mpr (by positivity)
    exact_mod_cast Int.toNat_of_nonneg hnn
  rw [hfloor, ← le_div_iff₀ hunit, ← div_lt_iff₀ hunit]
  exact ⟨Int.floor_le _, Int.lt_floor_add_one _⟩

theorem isSome_nearestOnGrid
    (h : i.contains (gridBelow size exponent * 10 ^ exponent) = true ∨
      i.contains ((gridBelow size exponent + 1) * 10 ^ exponent) = true) :
    (nearestOnGrid i size exponent).isSome = true := by
  unfold nearestOnGrid
  dsimp only
  split
  · split_ifs <;> rfl
  · rfl
  · rfl
  · next hlow hhigh =>
    rcases h with h | h
    · exact absurd (h.symm.trans hlow) (by decide)
    · rw [Decimal.toRat, Nat.cast_add, Nat.cast_one] at hhigh
      exact absurd (h.symm.trans hhigh) (by decide)

/-- The search ends on a grid with a decimal in the interval, and no later than on one that is
known. -/
theorem exists_shortestFrom {fuel n k : ℕ} (hn : n ≤ k) (hk : k < n + fuel)
    (h : (nearestOnGrid i size (leading - k)).isSome = true) :
    ∃ j ≤ k, nearestOnGrid i size (leading - j) = some (shortestFrom i size leading fuel n) := by
  induction fuel generalizing n with
  | zero => omega
  | succ fuel ih =>
    unfold shortestFrom
    split
    · next hd => exact ⟨n, hn, hd⟩
    · next hnone =>
      have hne : n ≠ k := by
        rintro rfl
        rw [hnone] at h
        cases h
      exact ih (by omega) (by omega)

end Search

namespace Finite

variable {x : Finite F} {leading : ℤ}

/-- Sixteen places after the first one the grid is finer than an interval of 53 bits. -/
theorem grid_lt (hp : F.precision ≤ 53) (h : (10 : ℚ) ^ leading ≤ x.magnitude) :
    (10 : ℚ) ^ (leading - (16 : ℕ)) < (x.roomBelow + 1 / 2) * 2 ^ x.exponent := by
  have hunit : (0 : ℚ) < 2 ^ x.exponent := by positivity
  have hbits : (x.mantissa : ℚ) / 10 ^ 16 < x.roomBelow + 1 / 2 := by
    rw [div_lt_iff₀ (by positivity)]
    unfold roomBelow
    split_ifs with hat
    · have hle : x.mantissa ≤ 2 ^ 52 := by
        rw [hat.1]
        exact Nat.pow_le_pow_right (by norm_num) (by omega)
      have hleq : (x.mantissa : ℚ) ≤ 2 ^ 52 := by exact_mod_cast hle
      linarith
    · have hlt : x.mantissa < 2 ^ 53 :=
        lt_of_lt_of_le x.canonical.1 (Nat.pow_le_pow_right (by norm_num) hp)
      have hltq : (x.mantissa : ℚ) < 2 ^ 53 := by exact_mod_cast hlt
      linarith
  rw [zpow_sub₀ (by norm_num), zpow_natCast]
  calc (10 : ℚ) ^ leading / 10 ^ 16 ≤ x.magnitude / 10 ^ 16 := by gcongr
    _ = (x.mantissa : ℚ) / 10 ^ 16 * 2 ^ x.exponent := by
      rw [magnitude]
      ring
    _ < (x.roomBelow + 1 / 2) * 2 ^ x.exponent := by gcongr

/-- A step that is shorter than an interval does not go over it. -/
theorem step_hits {size room unit low step : ℚ} (hunit : 0 < unit) (hroom : 0 < room)
    (hlow : low ≤ size) (hhigh : size < low + step) (hstep : step < (room + 1 / 2) * unit) :
    (size - room * unit < low ∧ low < size + unit / 2) ∨
      (size - room * unit < low + step ∧ low + step < size + unit / 2) := by
  have hbelow : 0 < room * unit := mul_pos hroom hunit
  rw [add_mul] at hstep
  rcases lt_or_ge (size - room * unit) low with hnear | hfar
  · exact Or.inl ⟨hnear, by linarith⟩
  · exact Or.inr ⟨by linarith, by linarith⟩

theorem isSome_seventeenDigits (hp : F.precision ≤ 53) (h : (10 : ℚ) ^ leading ≤ x.magnitude) :
    (nearestOnGrid (.ofFinite x) x.magnitude (leading - (16 : ℕ))).isSome = true := by
  have hunit : (0 : ℚ) < 2 ^ x.exponent := by positivity
  obtain ⟨hlow, hhigh⟩ := gridBelow_le x.magnitude_nonneg (leading - (16 : ℕ))
  rw [add_one_mul] at hhigh
  refine isSome_nearestOnGrid ?_
  rw [add_one_mul]
  refine (step_hits hunit x.roomBelow_pos hlow hhigh (grid_lt hp h)).imp ?_ ?_
  · exact fun hbounds => RoundingInterval.contains_of_lt hbounds.1 hbounds.2
  · exact fun hbounds => RoundingInterval.contains_of_lt hbounds.1 hbounds.2

/-- The shortest decimal of a number lies in its interval. -/
theorem contains_shortest (hp : F.precision ≤ 53) (hpos : 0 < x.magnitude)
    (hrange : binaryExponent x.magnitude ≤ 100000) :
    (RoundingInterval.ofFinite x).contains x.shortest.toRat = true := by
  have hleading := Decimal.zpow_leadingExponent_le hpos hrange
  obtain ⟨_, -, hgrid⟩ := exists_shortestFrom (Nat.zero_le 16) (show 16 < 0 + 17 by norm_num)
    (isSome_seventeenDigits hp hleading)
  rw [shortest, Decimal.toRat_normalize]
  exact contains_of_nearestOnGrid hgrid

end Finite

section Doubles

variable {x : Finite binary64}

theorem Double.binaryExponent_le (hpos : 0 < x.magnitude) :
    binaryExponent x.magnitude ≤ 100000 := by
  have hlimit : x.magnitude < 2 ^ (1024 : ℤ) :=
    x.magnitude_lt_overflowThreshold.trans_le Format.overflowThreshold_le_limit
  have := (lt_zpow_iff_binaryExponent_lt hpos).mp hlimit
  omega

/-- The shortest decimal of a double is rounded to it. -/
theorem Double.nearestSize_shortest (h0 : x.mantissa ≠ 0) :
    binary64.nearestSize x.shortest.toRat = x.magnitude := by
  have hpos : 0 < x.magnitude :=
    lt_of_le_of_ne x.magnitude_nonneg fun h => h0 (Finite.mantissa_eq_zero_iff.mpr h.symm)
  have hcontains := Finite.contains_shortest (x := x) le_rfl hpos (Double.binaryExponent_le hpos)
  have hunit : (2 : ℚ) ^ x.exponent ≠ 0 := by positivity
  rw [← div_mul_cancel₀ x.shortest.toRat hunit] at hcontains ⊢
  exact Finite.nearestSize_of_contains h0 hcontains

theorem Double.ofMagnitude_shortest (h0 : x.mantissa ≠ 0) :
    (.ofMagnitude x.negative x.shortest.toRat : Double) = .finite x := by
  have hsize := (Double.nearestSize_shortest h0).trans x.nearestSize_magnitude.symm
  rw [Floating.ofMagnitude_congr x.shortest.toRat_nonneg x.magnitude_nonneg hsize,
    Floating.ofMagnitude_magnitude]

end Doubles
end SplitTest
