import Mathlib.Data.Rat.Floor
import Mathlib.Tactic.Linarith
import SplitTest.Number.Rounding

/-! Rounding to integers keeps integers and order, to nearest and toward zero. -/
namespace SplitTest

theorem roundEven_eq (x : ℚ) :
    roundEven x = if Int.fract x < 1 / 2 then ⌊x⌋
      else if 1 / 2 < Int.fract x then ⌊x⌋ + 1 else ⌊x⌋ + ⌊x⌋ % 2 := rfl

@[simp] theorem roundEven_intCast (k : ℤ) : roundEven (k : ℚ) = k := by
  simp [roundEven_eq]

theorem floor_le_roundEven (x : ℚ) : ⌊x⌋ ≤ roundEven x := by
  rw [roundEven_eq]
  split_ifs <;> omega

theorem roundEven_le_floor_add_one (x : ℚ) : roundEven x ≤ ⌊x⌋ + 1 := by
  rw [roundEven_eq]
  split_ifs <;> omega

theorem roundEven_mono {x y : ℚ} (h : x ≤ y) : roundEven x ≤ roundEven y := by
  rcases (Int.floor_mono h).lt_or_eq with hlt | heq
  · calc
      roundEven x ≤ ⌊x⌋ + 1 := roundEven_le_floor_add_one x
      _ ≤ ⌊y⌋ := hlt
      _ ≤ roundEven y := floor_le_roundEven y
  · -- Between the same two integers the fractions are in the same order.
    have hfract : Int.fract x ≤ Int.fract y := by
      unfold Int.fract
      rw [heq]
      linarith
    rw [roundEven_eq, roundEven_eq, heq]
    split_ifs <;> first | omega | linarith

theorem roundEven_le_intCast {x : ℚ} {k : ℤ} (h : x ≤ k) : roundEven x ≤ k := by
  simpa using roundEven_mono h

theorem intCast_le_roundEven {x : ℚ} {k : ℤ} (h : k ≤ x) : k ≤ roundEven x := by
  simpa using roundEven_mono h

theorem roundEven_nonneg {x : ℚ} (h : 0 ≤ x) : 0 ≤ roundEven x :=
  intCast_le_roundEven (by exact_mod_cast h)

/-- The midpoint below an even integer goes up to it. -/
theorem roundEven_sub_half {k : ℤ} (hk : k % 2 = 0) : roundEven ((k : ℚ) - 1 / 2) = k := by
  have hfloor : ⌊(k : ℚ) - 1 / 2⌋ = k - 1 := by
    rw [Int.floor_eq_iff]
    constructor <;> push_cast <;> linarith
  have hfract : Int.fract ((k : ℚ) - 1 / 2) = 1 / 2 := by
    unfold Int.fract
    rw [hfloor]
    push_cast
    ring
  rw [roundEven_eq, hfract, hfloor, if_neg (lt_irrefl _), if_neg (lt_irrefl _)]
  omega

theorem roundEven_add_half (k : ℤ) : roundEven ((k : ℚ) + 1 / 2) = k + k % 2 := by
  have hfloor : ⌊(k : ℚ) + 1 / 2⌋ = k := by
    rw [Int.floor_eq_iff]
    constructor <;> linarith
  have hfract : Int.fract ((k : ℚ) + 1 / 2) = 1 / 2 := by
    unfold Int.fract
    rw [hfloor]
    ring
  rw [roundEven_eq, hfract, hfloor, if_neg (lt_irrefl _), if_neg (lt_irrefl _)]

theorem roundEven_of_lt {x : ℚ} {k : ℤ} (hlo : k - 1 / 2 < x) (hhi : x < k + 1 / 2) :
    roundEven x = k := by
  rcases lt_or_ge x k with hx | hx
  · have hfloor : ⌊x⌋ = k - 1 := by
      rw [Int.floor_eq_iff]
      constructor <;> push_cast <;> linarith
    have hfract : 1 / 2 < Int.fract x := by
      unfold Int.fract
      rw [hfloor]
      push_cast
      linarith
    rw [roundEven_eq, if_neg (not_lt.mpr hfract.le), if_pos hfract, hfloor, sub_add_cancel]
  · have hfloor : ⌊x⌋ = k := by
      rw [Int.floor_eq_iff]
      constructor <;> linarith
    have hfract : Int.fract x < 1 / 2 := by
      unfold Int.fract
      rw [hfloor]
      linarith
    rw [roundEven_eq, if_pos hfract, hfloor]

/-- An even integer is reached from half a unit below it on. -/
theorem even_le_roundEven_iff {x : ℚ} {k : ℤ} (hk : k % 2 = 0) :
    k ≤ roundEven x ↔ (k : ℚ) - 1 / 2 ≤ x := by
  constructor
  · intro h
    by_contra hx
    rw [not_le] at hx
    have hfloor : ⌊x⌋ = k - 1 := by
      have hlt : ⌊x⌋ < k := Int.floor_lt.mpr (by linarith)
      have hle := roundEven_le_floor_add_one x
      omega
    have hfract : Int.fract x < 1 / 2 := by
      unfold Int.fract
      rw [hfloor]
      push_cast
      linarith
    rw [roundEven_eq, if_pos hfract] at h
    omega
  · intro h
    have := roundEven_mono h
    rwa [roundEven_sub_half hk] at this

/-- Half a unit to either side still goes to an even integer. -/
theorem roundEven_of_even {x : ℚ} {k : ℤ} (hk : k % 2 = 0) (hlo : k - 1 / 2 ≤ x)
    (hhi : x ≤ k + 1 / 2) : roundEven x = k := by
  have hle := roundEven_mono hhi
  rw [roundEven_add_half, hk, add_zero] at hle
  exact le_antisymm hle ((even_le_roundEven_iff hk).mpr hlo)

/-- How far a number is from what it is rounded to: half a unit only if that is even. -/
theorem roundEven_bounds (x : ℚ) : roundEven x - 1 / 2 ≤ x ∧ x ≤ roundEven x + 1 / 2 ∧
    (roundEven x % 2 = 0 ∨ roundEven x - 1 / 2 < x ∧ x < roundEven x + 1 / 2) := by
  have hlo := Int.floor_le x
  have hhi := Int.lt_floor_add_one x
  have hfract : Int.fract x = x - ⌊x⌋ := rfl
  rw [roundEven_eq, hfract]
  split_ifs with hbelow habove
  · exact ⟨by linarith, by linarith, Or.inr ⟨by linarith, by linarith⟩⟩
  · push_cast
    exact ⟨by linarith, by linarith, Or.inr ⟨by linarith, by linarith⟩⟩
  · have hparity : (⌊x⌋ + ⌊x⌋ % 2) % 2 = 0 := by omega
    rcases Int.emod_two_eq_zero_or_one ⌊x⌋ with heven | hodd
    · rw [heven, add_zero]
      exact ⟨by linarith, by linarith, Or.inl heven⟩
    · refine ⟨?_, ?_, Or.inl hparity⟩ <;> rw [hodd] <;> push_cast <;> linarith

theorem truncate_of_nonneg {x : ℚ} (h : 0 ≤ x) : truncate x = ⌊x⌋ :=
  if_neg (not_lt.mpr h)

theorem truncate_of_neg {x : ℚ} (h : x < 0) : truncate x = -⌊-x⌋ :=
  if_pos h

theorem truncate_nonneg {x : ℚ} (h : 0 ≤ x) : 0 ≤ truncate x := by
  rw [truncate_of_nonneg h]
  exact Int.floor_nonneg.mpr h

theorem truncate_nonpos {x : ℚ} (h : x ≤ 0) : truncate x ≤ 0 := by
  rcases h.lt_or_eq with hlt | rfl
  · have hfloor : 0 ≤ ⌊-x⌋ := Int.floor_nonneg.mpr (by linarith)
    rw [truncate_of_neg hlt]
    omega
  · rfl

/-- The integer part reaches a positive integer as soon as the number does. -/
theorem le_truncate_iff {x : ℚ} {k : ℤ} (hk : 0 < k) : k ≤ truncate x ↔ (k : ℚ) ≤ x := by
  rcases lt_or_ge x 0 with hx | hx
  · have hkq : (0 : ℚ) < k := by exact_mod_cast hk
    have hneg := truncate_nonpos hx.le
    constructor <;> intro h
    · omega
    · linarith
  · rw [truncate_of_nonneg hx]
    exact Int.le_floor

theorem truncate_mono {x y : ℚ} (h : x ≤ y) : truncate x ≤ truncate y := by
  rcases lt_or_ge y 0 with hy | hy
  · have hfloor : ⌊-y⌋ ≤ ⌊-x⌋ := Int.floor_mono (by linarith)
    rw [truncate_of_neg (lt_of_le_of_lt h hy), truncate_of_neg hy]
    omega
  · rcases lt_or_ge x 0 with hx | hx
    · exact (truncate_nonpos hx.le).trans (truncate_nonneg hy)
    · rw [truncate_of_nonneg hx, truncate_of_nonneg hy]
      exact Int.floor_mono h

end SplitTest
