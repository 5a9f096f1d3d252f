import Mathlib.Algebra.Order.Field.Power
import Mathlib.Tactic.FieldSimp
import Mathlib.Tactic.GCongr
import Mathlib.Tactic.Positivity
import SplitTest.Number.Floating
import SplitTest.Proofs.Number.Rounding

/-! The nearest number of a format, taken on sizes: it keeps order and the numbers of the format,
and it is out of range from half a unit past the largest number on. -/
namespace SplitTest

/-- A format whose mantissas have bits and whose range of exponents is not empty. -/
class Format.Proper (F : Format) : Prop where
  precision_pos : 0 < F.precision
  minExponent_le : F.minExponent ≤ F.maxExponent

instance : binary64.Proper := ⟨by decide, by decide⟩
instance : binary32.Proper := ⟨by decide, by decide⟩

private theorem two_zpow_mul (a b : ℤ) : (2 : ℚ) ^ a * 2 ^ b = 2 ^ (a + b) :=
  (zpow_add₀ (by norm_num) a b).symm

private theorem two_zpow_le {a b : ℤ} (h : a ≤ b) : (2 : ℚ) ^ a ≤ 2 ^ b :=
  zpow_le_zpow_right₀ (by norm_num) h

private theorem two_zpow_lt_iff {a b : ℤ} : (2 : ℚ) ^ a < 2 ^ b ↔ a < b :=
  zpow_lt_zpow_iff_right₀ (by norm_num)

/-- Numerator and denominator tell the exponent up to one. -/
private theorem zpow_log2_bounds {x : ℚ} (hx : 0 < x) :
    (2 : ℚ) ^ ((x.num.toNat.log2 : ℤ) - x.den.log2 - 1) < x ∧
      x < 2 ^ ((x.num.toNat.log2 : ℤ) - x.den.log2 + 1) := by
  have hnum : 0 < x.num := Rat.num_pos.mpr hx
  have hn : x.num.toNat ≠ 0 := by omega
  have hnq : ((x.num.toNat : ℕ) : ℚ) = x.num := by
    exact_mod_cast Int.toNat_of_nonneg hnum.le
  have hnlo : (2 : ℚ) ^ (x.num.toNat.log2 : ℤ) ≤ x.num := by
    rw [← hnq, zpow_natCast]
    exact_mod_cast Nat.log2_self_le hn
  have hnhi : (x.num : ℚ) < 2 ^ ((x.num.toNat.log2 : ℤ) + 1) := by
    rw [← hnq]
    exact_mod_cast Nat.lt_log2_self
  have hdlo : (2 : ℚ) ^ (x.den.log2 : ℤ) ≤ x.den := by
    rw [zpow_natCast]
    exact_mod_cast Nat.log2_self_le x.den_nz
  have hdhi : (x.den : ℚ) < 2 ^ ((x.den.log2 : ℤ) + 1) := by
    exact_mod_cast Nat.lt_log2_self
  have hd : (0 : ℚ) < x.den := by exact_mod_cast x.den_pos
  have hxd : x * x.den = x.num := Rat.mul_den_eq_num x
  generalize x.num.toNat.log2 = a at *
  generalize x.den.log2 = b at *
  constructor
  · by_contra h
    rw [not_lt] at h
    have : (x.num : ℚ) < 2 ^ (a : ℤ) := by
      calc (x.num : ℚ) = x * x.den := hxd.symm
        _ ≤ 2 ^ ((a : ℤ) - b - 1) * x.den := by gcongr
        _ < 2 ^ ((a : ℤ) - b - 1) * 2 ^ ((b : ℤ) + 1) := by gcongr
        _ = 2 ^ (a : ℤ) := by rw [two_zpow_mul]; congr 1; ring
    linarith
  · by_contra h
    rw [not_lt] at h
    have : (2 : ℚ) ^ ((a : ℤ) + 1) ≤ x.num := by
      calc (2 : ℚ) ^ ((a : ℤ) + 1) = 2 ^ ((a : ℤ) - b + 1) * 2 ^ (b : ℤ) := by
            rw [two_zpow_mul]; congr 1; ring
        _ ≤ x * x.den := by gcongr
        _ = x.num := hxd
    linarith

theorem zpow_binaryExponent_le {x : ℚ} (hx : 0 < x) : (2 : ℚ) ^ binaryExponent x ≤ x := by
  unfold binaryExponent
  dsimp only
  split_ifs with h
  · exact h
  · exact (zpow_log2_bounds hx).1.le

theorem lt_zpow_binaryExponent {x : ℚ} (hx : 0 < x) : x < (2 : ℚ) ^ (binaryExponent x + 1) := by
  unfold binaryExponent
  dsimp only
  split_ifs with h
  · exact (zpow_log2_bounds hx).2
  · rw [sub_add_cancel]
    exact not_le.mp h

theorem zpow_le_iff_le_binaryExponent {x : ℚ} (hx : 0 < x) {k : ℤ} :
    (2 : ℚ) ^ k ≤ x ↔ k ≤ binaryExponent x := by
  constructor <;> intro h
  · have := two_zpow_lt_iff.mp (h.trans_lt (lt_zpow_binaryExponent hx))
    omega
  · exact (two_zpow_le h).trans (zpow_binaryExponent_le hx)

theorem lt_zpow_iff_binaryExponent_lt {x : ℚ} (hx : 0 < x) {k : ℤ} :
    x < (2 : ℚ) ^ k ↔ binaryExponent x < k := by
  rw [← not_le, zpow_le_iff_le_binaryExponent hx, not_le]

theorem binaryExponent_mono {x y : ℚ} (hx : 0 < x) (h : x ≤ y) :
    binaryExponent x ≤ binaryExponent y :=
  (zpow_le_iff_le_binaryExponent (hx.trans_le h)).mp ((zpow_binaryExponent_le hx).trans h)

/-- A place further down than that of a value leaves the value alone. -/
private theorem roundEven_scaled (k : ℤ) {e u : ℤ} (h : u ≤ e) :
    (roundEven (k * 2 ^ e * 2 ^ (-u)) * 2 ^ u : ℚ) = k * 2 ^ e := by
  have hk : (k * 2 ^ e * 2 ^ (-u) : ℚ) = ((k * 2 ^ (e - u).toNat : ℤ) : ℚ) := by
    push_cast
    rw [← zpow_natCast, Int.toNat_of_nonneg (by omega), mul_assoc, two_zpow_mul]
    rfl
  rw [hk, roundEven_intCast, ← hk, mul_assoc, two_zpow_mul]
  simp

private theorem roundEven_scaled_mono {x y : ℚ} (u : ℤ) (h : x ≤ y) :
    (roundEven (x * 2 ^ (-u)) * 2 ^ u : ℚ) ≤ roundEven (y * 2 ^ (-u)) * 2 ^ u := by
  have hm : x * 2 ^ (-u) ≤ y * 2 ^ (-u) := by gcongr
  have hr : (roundEven (x * 2 ^ (-u)) : ℚ) ≤ roundEven (y * 2 ^ (-u)) := by
    exact_mod_cast roundEven_mono hm
  gcongr

namespace Format

variable {F : Format}

theorem minExponent_le_unitExponent (x : ℚ) : F.minExponent ≤ F.unitExponent x :=
  le_max_left _ _

theorem unitExponent_mono {x y : ℚ} (hx : 0 < x) (h : x ≤ y) :
    F.unitExponent x ≤ F.unitExponent y :=
  max_le_max_left _ (by have := binaryExponent_mono hx h; omega)

/-- The multiple of its last place that is nearest to a size, however large that may be. -/
def nearestSize (F : Format) (x : ℚ) : ℚ :=
  roundEven (x * 2 ^ (-F.unitExponent x)) * 2 ^ F.unitExponent x

/-- What the exponents of a format do not reach. -/
def limit (F : Format) : ℚ :=
  2 ^ ((F.precision : ℤ) + F.maxExponent)

@[simp] theorem nearestSize_zero : F.nearestSize 0 = 0 := by
  simp [nearestSize, show roundEven 0 = 0 from roundEven_intCast 0]

theorem nearestSize_nonneg {x : ℚ} (hx : 0 ≤ x) : 0 ≤ F.nearestSize x := by
  have : (0 : ℚ) ≤ roundEven (x * 2 ^ (-F.unitExponent x)) := by
    exact_mod_cast roundEven_nonneg (by positivity)
  unfold nearestSize
  positivity

theorem nearestSize_of_place {x y : ℚ} {u : ℤ} (hx : x = y * 2 ^ u) (hu : F.unitExponent x = u) :
    F.nearestSize x = roundEven y * 2 ^ u := by
  rw [nearestSize, hu, hx, mul_assoc, two_zpow_mul, add_neg_cancel, zpow_zero, mul_one]

/-- Multiples of the last place are kept. -/
theorem nearestSize_of_multiple {x : ℚ} {k e : ℤ} (hx : x = k * 2 ^ e)
    (he : F.unitExponent x ≤ e) : F.nearestSize x = x := by
  unfold nearestSize
  rw [hx] at he ⊢
  exact roundEven_scaled k he

/-- A mantissa that fits, or the next power of two, with an exponent that is not too small. -/
theorem nearestSize_of_mantissa [F.Proper] {m : ℕ} {e : ℤ} (hm : m ≤ 2 ^ F.precision)
    (he : F.minExponent ≤ e) : F.nearestSize (m * 2 ^ e) = m * 2 ^ e := by
  have hp := Proper.precision_pos (F := F)
  rcases Nat.eq_zero_or_pos m with rfl | hpos
  · simp
  have hx : (0 : ℚ) < m * 2 ^ e := by positivity
  -- A full power of two is a mantissa one bit shorter, one place further up.
  have hmul : ∃ k i : ℤ, (m * 2 ^ e : ℚ) = k * 2 ^ i ∧
      F.minExponent ≤ i ∧ (m * 2 ^ e : ℚ) < 2 ^ (i + F.precision) := by
    rcases hm.lt_or_eq with hlt | heq
    · refine ⟨m, e, by push_cast; rfl, he, ?_⟩
      have hmq : (m : ℚ) < 2 ^ (F.precision : ℤ) := by exact_mod_cast hlt
      rw [add_comm, ← two_zpow_mul]
      gcongr
    · have hfull : (m : ℚ) * 2 ^ e = 2 ^ ((F.precision : ℤ) + e) := by
        rw [heq, ← two_zpow_mul]
        push_cast
        rfl
      refine ⟨2 ^ (F.precision - 1), e + 1, ?_, by omega, ?_⟩
      · rw [hfull]
        push_cast
        rw [← zpow_natCast, two_zpow_mul]
        congr 1
        omega
      · rw [hfull]
        exact two_zpow_lt_iff.mpr (by omega)
  obtain ⟨k, i, hk, hi, hlt⟩ := hmul
  refine nearestSize_of_multiple hk (max_le hi ?_)
  have := (lt_zpow_iff_binaryExponent_lt hx).mp hlt
  omega

theorem nearestSize_of_zpow [F.Proper] {e : ℤ} (he : F.minExponent ≤ e) :
    F.nearestSize (2 ^ e) = 2 ^ e := by
  have h := nearestSize_of_mantissa (F := F) (m := 1) Nat.one_le_two_pow he
  simpa using h

/-- A last place is told by the sizes that have it. -/
theorem unitExponent_eq [F.Proper] {x : ℚ} {e : ℤ} (hx : 0 < x) (hmin : F.minExponent ≤ e)
    (hhi : x < 2 ^ (e + F.precision)) (hlo : 2 ^ (e + F.precision - 1) ≤ x ∨ e = F.minExponent) :
    F.unitExponent x = e := by
  have hp := Proper.precision_pos (F := F)
  have hb := (lt_zpow_iff_binaryExponent_lt hx).mp hhi
  unfold unitExponent
  rcases hlo with hlo | rfl
  · have hb' := (zpow_le_iff_le_binaryExponent hx).mp hlo
    omega
  · omega

/-- Below half of the least last place a size is rounded to zero. -/
theorem nearestSize_eq_zero [F.Proper] {x : ℚ} (hx : 0 < x) (h : x < 2 ^ (F.minExponent - 1)) :
    F.nearestSize x = 0 := by
  have hp := Proper.precision_pos (F := F)
  have hunit : (0 : ℚ) < 2 ^ F.minExponent := by positivity
  have hplace : F.unitExponent x = F.minExponent :=
    unitExponent_eq hx le_rfl (h.trans_le (two_zpow_le (by omega))) (Or.inr rfl)
  have hhalf : x / 2 ^ F.minExponent < 1 / 2 := by
    rw [zpow_sub_one₀ (by norm_num)] at h
    rw [div_lt_iff₀ hunit]
    linarith
  have hround : roundEven (x / 2 ^ F.minExponent) = 0 := by
    have hnonneg : 0 < x / 2 ^ F.minExponent := div_pos hx hunit
    refine roundEven_of_lt ?_ ?_ <;> push_cast <;> linarith
  have hsize : x = x / 2 ^ F.minExponent * 2 ^ F.minExponent := (div_mul_cancel₀ x hunit.ne').symm
  rw [nearestSize_of_place hsize hplace, hround, Int.cast_zero, zero_mul]

/-- Less than half a unit around a full mantissa everything is rounded to it. -/
theorem nearestSize_of_near [F.Proper] {x : ℚ} {m e : ℤ} (hmin : F.minExponent ≤ e)
    (hlo : 2 ^ (F.precision - 1) < m) (hhi : m < 2 ^ F.precision)
    (hx : |x - m * 2 ^ e| < 2 ^ e / 2) : F.nearestSize x = m * 2 ^ e := by
  have hp := Proper.precision_pos (F := F)
  have hunit : (0 : ℚ) < 2 ^ e := by positivity
  have hlo' : (2 : ℚ) ^ (F.precision - 1) + 1 ≤ m := by exact_mod_cast hlo
  have hhi' : (m : ℚ) + 1 ≤ 2 ^ F.precision := by exact_mod_cast hhi
  have hsize : x = x / 2 ^ e * 2 ^ e := (div_mul_cancel₀ x hunit.ne').symm
  have hnear : |x / 2 ^ e - m| < 1 / 2 := by
    have hdiv : x / 2 ^ e - m = (x - m * 2 ^ e) / 2 ^ e := by field_simp
    rw [hdiv, abs_div, abs_of_pos hunit, div_lt_iff₀ hunit]
    linarith
  obtain ⟨hbelow, habove⟩ := abs_lt.mp hnear
  have hround : roundEven (x / 2 ^ e) = m := roundEven_of_lt (by linarith) (by linarith)
  have hfull : (2 : ℚ) ^ (e + F.precision - 1) ≤ x := by
    rw [hsize, show e + F.precision - 1 = ((F.precision - 1 : ℕ) : ℤ) + e by omega,
      ← two_zpow_mul, zpow_natCast]
    gcongr
    linarith
  have hroom : x < 2 ^ (e + F.precision) := by
    rw [hsize, add_comm, ← two_zpow_mul, zpow_natCast]
    gcongr
    linarith
  have hpos : 0 < x := lt_of_lt_of_le (by positivity) hfull
  have hplace : F.unitExponent x = e := unitExponent_eq hpos hmin hroom (Or.inl hfull)
  rw [nearestSize_of_place hsize hplace, hround]

/-- A size lies below the power of two that its last place allows. -/
theorem lt_zpow_unitExponent [F.Proper] {x : ℚ} (hx : 0 < x) :
    x < 2 ^ (F.unitExponent x + F.precision) := by
  have hp := Proper.precision_pos (F := F)
  have hu : binaryExponent x - (F.precision - 1 : ℕ) ≤ F.unitExponent x := le_max_right _ _
  exact (lt_zpow_iff_binaryExponent_lt hx).mpr (by omega)

theorem unitExponent_le [F.Proper] {x : ℚ} {e : ℤ} (hx : 0 < x) (hmin : F.minExponent ≤ e)
    (h : x < 2 ^ (e + F.precision)) : F.unitExponent x ≤ e := by
  have hp := Proper.precision_pos (F := F)
  have hb := (lt_zpow_iff_binaryExponent_lt hx).mp h
  unfold unitExponent
  omega

/-- Rounding moves a size by at most half a unit in its last place. -/
theorem abs_nearestSize_sub_le (F : Format) (x : ℚ) :
    |F.nearestSize x - x| ≤ 2 ^ F.unitExponent x / 2 := by
  have hunit : (0 : ℚ) < 2 ^ F.unitExponent x := by positivity
  obtain ⟨hlo, hhi, -⟩ := roundEven_bounds (x * 2 ^ (-F.unitExponent x))
  have hx : x * 2 ^ (-F.unitExponent x) * 2 ^ F.unitExponent x = x := by
    rw [mul_assoc, two_zpow_mul, neg_add_cancel, zpow_zero, mul_one]
  have hle := mul_le_mul_of_nonneg_right hlo hunit.le
  have hge := mul_le_mul_of_nonneg_right hhi hunit.le
  rw [hx] at hle hge
  unfold nearestSize
  rw [abs_le]
  constructor <;> linarith

/-- Above the least last place the leading bit of the mantissa is set. -/
theorem zpow_unitExponent_le [F.Proper] {x : ℚ} (hx : 0 < x)
    (h : F.minExponent < F.unitExponent x) :
    2 ^ (F.unitExponent x + F.precision - 1) ≤ x := by
  have hp := Proper.precision_pos (F := F)
  have hu : F.unitExponent x = binaryExponent x - (F.precision - 1 : ℕ) := by
    unfold unitExponent at h ⊢
    omega
  exact (zpow_le_iff_le_binaryExponent hx).mpr (by omega)

theorem nearestSize_mono [F.Proper] {x y : ℚ} (hx : 0 ≤ x) (h : x ≤ y) :
    F.nearestSize x ≤ F.nearestSize y := by
  rcases hx.eq_or_lt with rfl | hx
  · rw [nearestSize_zero]
    exact nearestSize_nonneg h
  rcases (unitExponent_mono (F := F) hx h).eq_or_lt with heq | hlt
  · unfold nearestSize
    rw [heq]
    exact roundEven_scaled_mono _ h
  · -- The power of two with the leading bit of `y` lies between the two and is kept by both.
    have hp := Proper.precision_pos (F := F)
    have hmin := minExponent_le_unitExponent (F := F) x
    set c : ℚ := 2 ^ (F.unitExponent y + F.precision - 1) with hc
    have hxc : x ≤ c := by
      refine (lt_zpow_unitExponent (F := F) hx).le.trans (two_zpow_le ?_)
      omega
    have hcy : c ≤ y := zpow_unitExponent_le (hx.trans_le h) (by omega)
    have hcx : F.nearestSize x ≤ c := by
      have hkeep := roundEven_scaled 1 (u := F.unitExponent x)
        (e := F.unitExponent y + F.precision - 1) (by omega)
      rw [Int.cast_one, one_mul, ← hc] at hkeep
      exact hkeep ▸ roundEven_scaled_mono (F.unitExponent x) hxc
    have hcy' : c ≤ F.nearestSize y := by
      have hkeep := roundEven_scaled 1 (u := F.unitExponent y)
        (e := F.unitExponent y + F.precision - 1) (by omega)
      rw [Int.cast_one, one_mul, ← hc] at hkeep
      exact hkeep ▸ roundEven_scaled_mono (F.unitExponent y) hcy
    exact hcx.trans hcy'

private theorem roundEven_scaled_le [F.Proper] {x : ℚ} (hx : 0 < x) :
    roundEven (x * 2 ^ (-F.unitExponent x)) ≤ 2 ^ F.precision := by
  refine roundEven_le_intCast ?_
  calc x * 2 ^ (-F.unitExponent x)
      ≤ 2 ^ (F.unitExponent x + F.precision) * 2 ^ (-F.unitExponent x) := by
        gcongr
        exact (lt_zpow_unitExponent hx).le
    _ = ((2 ^ F.precision : ℤ) : ℚ) := by
        push_cast
        rw [two_zpow_mul, ← zpow_natCast]
        congr 1
        omega

private theorem le_roundEven_scaled [F.Proper] {x : ℚ} (hx : 0 < x)
    (h : F.minExponent < F.unitExponent x) :
    2 ^ (F.precision - 1) ≤ roundEven (x * 2 ^ (-F.unitExponent x)) := by
  have hp := Proper.precision_pos (F := F)
  refine intCast_le_roundEven ?_
  calc ((2 ^ (F.precision - 1) : ℤ) : ℚ)
      = 2 ^ (F.unitExponent x + F.precision - 1) * 2 ^ (-F.unitExponent x) := by
        push_cast
        rw [two_zpow_mul, ← zpow_natCast]
        congr 1
        omega
    _ ≤ x * 2 ^ (-F.unitExponent x) := by
        gcongr
        exact zpow_unitExponent_le hx h

/-- The parts of the nearest number: their value, and canonical form up to the largest exponent. -/
theorem nearestParts_spec [F.Proper] {x : ℚ} (hx : 0 < x) :
    ((F.nearestParts x).1 : ℚ) * 2 ^ (F.nearestParts x).2 = F.nearestSize x ∧
      (F.nearestParts x).1 < 2 ^ F.precision ∧ F.minExponent ≤ (F.nearestParts x).2 ∧
      (2 ^ (F.precision - 1) ≤ (F.nearestParts x).1 ∨
        (F.nearestParts x).2 = F.minExponent) := by
  have hp := Proper.precision_pos (F := F)
  have hmin := minExponent_le_unitExponent (F := F) x
  have hle := roundEven_scaled_le (F := F) hx
  have hge := le_roundEven_scaled (F := F) hx
  have hnn : 0 ≤ roundEven (x * 2 ^ (-F.unitExponent x)) := roundEven_nonneg (by positivity)
  unfold nearestParts nearestSize
  dsimp only
  obtain ⟨m, hm⟩ := Int.eq_ofNat_of_zero_le hnn
  rw [hm] at hle hge ⊢
  have hle' : m ≤ 2 ^ F.precision := by exact_mod_cast hle
  have hdouble : 2 ^ F.precision = 2 * 2 ^ (F.precision - 1) := by
    rw [← pow_succ']
    congr 1
    omega
  rw [Int.toNat_natCast]
  change _ ≤ F.unitExponent x at hmin
  split_ifs with h
  · -- A mantissa that was rounded up to the next power of two moves one place up.
    have h : m = 2 ^ F.precision := h
    have hhalf : m / 2 = 2 ^ (F.precision - 1) := by
      rw [h, hdouble, Nat.mul_div_cancel_left _ (by norm_num)]
    dsimp only
    have hlt : m / 2 < 2 ^ F.precision := by
      rw [hhalf]
      exact Nat.pow_lt_pow_right (by norm_num) (by omega)
    refine ⟨?_, hlt, by omega, Or.inl hhalf.ge⟩
    rw [hhalf, h, hdouble]
    push_cast
    rw [zpow_add_one₀ (by norm_num)]
    ring
  · have h : m ≠ 2 ^ F.precision := h
    dsimp only
    refine ⟨by push_cast; rfl, by omega, hmin, ?_⟩
    rcases hmin.eq_or_lt with heq | hlt
    · exact Or.inr heq.symm
    · exact Or.inl (by exact_mod_cast hge hlt)

/-- The parts are those of a number as long as they stay below the limit. -/
theorem canonical_nearestParts_iff [F.Proper] {x : ℚ} (hx : 0 < x) :
    F.Canonical (F.nearestParts x).1 (F.nearestParts x).2 ↔ F.nearestSize x < F.limit := by
  obtain ⟨hv, hlt, hmin, hfull⟩ := nearestParts_spec (F := F) hx
  rw [← hv]
  generalize F.nearestParts x = parts at *
  constructor
  · rintro ⟨-, -, hmax, -⟩
    have hmq : (parts.1 : ℚ) < 2 ^ (F.precision : ℤ) := by exact_mod_cast hlt
    calc (parts.1 : ℚ) * 2 ^ parts.2
        < 2 ^ (F.precision : ℤ) * 2 ^ parts.2 := by gcongr
      _ ≤ 2 ^ (F.precision : ℤ) * 2 ^ F.maxExponent := by
        gcongr
        norm_num
      _ = F.limit := two_zpow_mul _ _
  · intro h
    refine ⟨hlt, hmin, ?_, hfull⟩
    by_contra hmax
    have hp := Proper.precision_pos (F := F)
    have hrange := Proper.minExponent_le (F := F)
    have hmq : ((2 ^ (F.precision - 1) : ℕ) : ℚ) ≤ parts.1 := by
      exact_mod_cast hfull.resolve_right (by omega)
    have hle : F.limit ≤ (parts.1 : ℚ) * 2 ^ parts.2 := by
      calc F.limit ≤ 2 ^ (((F.precision - 1 : ℕ) : ℤ) + parts.2) := two_zpow_le (by omega)
        _ = ((2 ^ (F.precision - 1) : ℕ) : ℚ) * 2 ^ parts.2 := by
          rw [← two_zpow_mul]
          push_cast
          rfl
        _ ≤ (parts.1 : ℚ) * 2 ^ parts.2 := by gcongr
    linarith

/-- Half a unit past the largest number of a format. -/
def overflowThreshold (F : Format) : ℚ :=
  (2 ^ F.precision - 1 / 2) * 2 ^ F.maxExponent

theorem overflowThreshold_le_limit : F.overflowThreshold ≤ F.limit := by
  unfold overflowThreshold limit
  rw [← two_zpow_mul, zpow_natCast]
  gcongr
  linarith

/-- The largest last place is that of the sizes between half the limit and the limit. -/
theorem unitExponent_eq_maxExponent [F.Proper] {x : ℚ}
    (hlo : 2 ^ ((F.precision : ℤ) + F.maxExponent - 1) ≤ x) (hhi : x < F.limit) :
    F.unitExponent x = F.maxExponent := by
  have hpos : 0 < x := lt_of_lt_of_le (by positivity) hlo
  unfold limit at hhi
  rw [add_comm] at hlo hhi
  exact unitExponent_eq hpos Proper.minExponent_le hhi (Or.inl hlo)

/-- Sizes are rounded past the limit from the overflow threshold on. -/
theorem limit_le_nearestSize_iff [F.Proper] {x : ℚ} (hx : 0 ≤ x) :
    F.limit ≤ F.nearestSize x ↔ F.overflowThreshold ≤ x := by
  have hp := Proper.precision_pos (F := F)
  have hrange := Proper.minExponent_le (F := F)
  rcases le_or_gt F.limit x with hfar | hnear
  · -- From the limit on both sides hold.
    have hlim : F.nearestSize F.limit = F.limit := nearestSize_of_zpow (by omega)
    have hround := nearestSize_mono (F := F) (by unfold limit; positivity) hfar
    exact iff_of_true (hlim ▸ hround) (overflowThreshold_le_limit.trans hfar)
  rcases lt_or_ge x (2 ^ ((F.precision : ℤ) + F.maxExponent - 1)) with hlow | hhigh
  · -- A bit below the limit neither holds.
    have hround := nearestSize_mono (F := F) hx hlow.le
    rw [nearestSize_of_zpow (by omega)] at hround
    have hhalf : (2 : ℚ) ^ ((F.precision : ℤ) + F.maxExponent - 1) < F.limit :=
      two_zpow_lt_iff.mpr (by omega)
    refine iff_of_false (by linarith) (not_le.mpr (hlow.trans_le ?_))
    have hone : (1 : ℚ) ≤ 2 ^ (F.precision - 1) := one_le_pow₀ (by norm_num)
    have hdouble : (2 : ℚ) ^ F.precision = 2 * 2 ^ (F.precision - 1) := by
      rw [← pow_succ']
      congr 1
      omega
    calc (2 : ℚ) ^ ((F.precision : ℤ) + F.maxExponent - 1)
        = 2 ^ (F.precision - 1) * 2 ^ F.maxExponent := by
          rw [← zpow_natCast, two_zpow_mul]
          congr 1
          omega
      _ ≤ F.overflowThreshold := by
          unfold overflowThreshold
          gcongr
          linarith
  · -- In between the mantissas are rounded as they stand, and a full one is even.
    have heven : (2 ^ F.precision : ℤ) % 2 = 0 :=
      Int.emod_eq_zero_of_dvd (dvd_pow_self 2 (by omega))
    have hlimit : F.limit = ((2 ^ F.precision : ℤ) : ℚ) * 2 ^ F.maxExponent := by
      unfold limit
      rw [← two_zpow_mul]
      push_cast
      rfl
    have hunit : (0 : ℚ) < 2 ^ F.maxExponent := by positivity
    unfold nearestSize
    rw [unitExponent_eq_maxExponent hhigh hnear, hlimit, mul_le_mul_iff_left₀ hunit, Int.cast_le,
      even_le_roundEven_iff heven, zpow_neg, ← div_eq_mul_inv, le_div_iff₀ hunit]
    unfold overflowThreshold
    push_cast
    rfl

end Format
end SplitTest
