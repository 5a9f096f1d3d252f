import SplitTest.Proofs.Number.Nearest

/-! The rational that an operation on floating-point numbers gives: the exact one, rounded, as long
as it stays below the overflow threshold. -/
namespace SplitTest

variable {F : Format}

namespace Format

/-- The rational that a rational is rounded to, however large it may be. -/
def nearest (F : Format) (x : ℚ) : ℚ :=
  if x < 0 then -F.nearestSize (-x) else F.nearestSize x

theorem nearest_of_nonneg {x : ℚ} (hx : 0 ≤ x) : F.nearest x = F.nearestSize x :=
  if_neg (not_lt.mpr hx)

theorem nearest_of_neg {x : ℚ} (hx : x < 0) : F.nearest x = -F.nearestSize (-x) :=
  if_pos hx

theorem nearest_nonneg {x : ℚ} (hx : 0 ≤ x) : 0 ≤ F.nearest x := by
  rw [nearest_of_nonneg hx]
  exact nearestSize_nonneg hx

theorem nearest_nonpos {x : ℚ} (hx : x ≤ 0) : F.nearest x ≤ 0 := by
  rcases hx.lt_or_eq with hlt | rfl
  · rw [nearest_of_neg hlt]
    exact neg_nonpos.mpr (nearestSize_nonneg (by linarith))
  · simp [nearest]

theorem nearest_mono [F.Proper] {x y : ℚ} (h : x ≤ y) : F.nearest x ≤ F.nearest y := by
  rcases lt_or_ge y 0 with hy | hy
  · rw [nearest_of_neg (h.trans_lt hy), nearest_of_neg hy]
    exact neg_le_neg (nearestSize_mono (by linarith) (by linarith))
  · rcases lt_or_ge x 0 with hx | hx
    · exact (nearest_nonpos hx.le).trans (nearest_nonneg hy)
    · rw [nearest_of_nonneg hx, nearest_of_nonneg hy]
      exact nearestSize_mono hx h

/-- Integers with at most as many bits as a mantissa, times a power of two, are kept. -/
theorem nearest_of_mantissa [F.Proper] {k e : ℤ} (hk : k.natAbs ≤ 2 ^ F.precision)
    (he : F.minExponent ≤ e) : F.nearest (k * 2 ^ e) = k * 2 ^ e := by
  have hsize : F.nearestSize (k.natAbs * 2 ^ e) = k.natAbs * 2 ^ e := nearestSize_of_mantissa hk he
  have hunit : (0 : ℚ) < 2 ^ e := by positivity
  rw [Nat.cast_natAbs, Int.cast_abs] at hsize
  rcases lt_or_ge k 0 with hneg | hpos
  · have hkq : (k : ℚ) < 0 := by exact_mod_cast hneg
    rw [abs_of_neg hkq, neg_mul] at hsize
    rw [nearest_of_neg (mul_neg_of_neg_of_pos hkq hunit), hsize, neg_neg]
  · have hkq : (0 : ℚ) ≤ k := by exact_mod_cast hpos
    rw [abs_of_nonneg hkq] at hsize
    rw [nearest_of_nonneg (by positivity), hsize]

theorem nearest_of_near [F.Proper] {x : ℚ} {m e : ℤ} (hmin : F.minExponent ≤ e)
    (hlo : 2 ^ (F.precision - 1) < m) (hhi : m < 2 ^ F.precision)
    (hx : |x - m * 2 ^ e| < 2 ^ e / 2) : F.nearest x = m * 2 ^ e := by
  have hunit : (0 : ℚ) < 2 ^ e := by positivity
  have hone : (1 : ℤ) ≤ m := (one_le_pow₀ (by norm_num)).trans hlo.le
  have hpos : 1 * (2 : ℚ) ^ e ≤ m * 2 ^ e := by
    gcongr
    exact_mod_cast hone
  have hnear := (abs_lt.mp hx).1
  rw [nearest_of_nonneg (by linarith), nearestSize_of_near hmin hlo hhi hx]

/-- Below a power of two rounding moves by at most half of the last place there. -/
theorem abs_nearest_sub_le [F.Proper] {x : ℚ} {e : ℤ} (hx : 0 ≤ x) (hmin : F.minExponent ≤ e)
    (h : x < 2 ^ (e + F.precision)) : |F.nearest x - x| ≤ 2 ^ e / 2 := by
  rw [nearest_of_nonneg hx]
  rcases hx.eq_or_lt with rfl | hpos
  · rw [nearestSize_zero, sub_self, abs_zero]
    positivity
  · have hunit : (2 : ℚ) ^ F.unitExponent x ≤ 2 ^ e :=
      zpow_le_zpow_right₀ (by norm_num) (unitExponent_le hpos hmin h)
    have herror := F.abs_nearestSize_sub_le x
    linarith

theorem overflowThreshold_pos : 0 < F.overflowThreshold := by
  have hone : (1 : ℚ) ≤ 2 ^ F.precision := one_le_pow₀ (by norm_num)
  unfold overflowThreshold
  exact mul_pos (by linarith) (by positivity)

theorem nearest_intCast [F.Proper] {k : ℤ} (hk : k.natAbs ≤ 2 ^ F.precision)
    (h : F.minExponent ≤ 0) : F.nearest k = k := by
  simpa using nearest_of_mantissa (F := F) hk h

end Format

namespace Finite

theorem magnitude_nonneg (x : Finite F) : 0 ≤ x.magnitude := by
  unfold magnitude
  positivity

@[simp] theorem abs_toRat (x : Finite F) : |x.toRat| = x.magnitude := by
  have := x.magnitude_nonneg
  unfold toRat
  split_ifs <;> simp [abs_of_nonneg this]

theorem nearest_toRat [F.Proper] (x : Finite F) : F.nearest x.toRat = x.toRat := by
  obtain ⟨hm, he, -, -⟩ := x.canonical
  have hle : x.mantissa ≤ 2 ^ F.precision := le_of_lt hm
  unfold toRat magnitude
  split_ifs
  · have := Format.nearest_of_mantissa (F := F) (k := -x.mantissa) (by simpa using hle) he
    push_cast at this
    rwa [neg_mul] at this
  · exact_mod_cast Format.nearest_of_mantissa (F := F) (k := x.mantissa) (by simpa using hle) he

theorem nearestSize_magnitude [F.Proper] (x : Finite F) :
    F.nearestSize x.magnitude = x.magnitude :=
  Format.nearestSize_of_mantissa (le_of_lt x.canonical.1) x.canonical.2.1

theorem magnitude_lt_overflowThreshold [F.Proper] (x : Finite F) :
    x.magnitude < F.overflowThreshold := by
  obtain ⟨hm, -, hmax, -⟩ := x.canonical
  rw [← not_le, ← Format.limit_le_nearestSize_iff x.magnitude_nonneg, x.nearestSize_magnitude,
    not_le]
  have hmq : (x.mantissa : ℚ) < 2 ^ (F.precision : ℤ) := by exact_mod_cast hm
  unfold magnitude Format.limit
  rw [zpow_add₀ (by norm_num)]
  calc (x.mantissa : ℚ) * 2 ^ x.exponent < 2 ^ (F.precision : ℤ) * 2 ^ x.exponent := by gcongr
    _ ≤ 2 ^ (F.precision : ℤ) * 2 ^ F.maxExponent := by
      gcongr
      norm_num

end Finite

namespace Floating

/-- Sizes below the threshold are rounded to finite numbers. -/
theorem exists_ofMagnitude_eq [F.Proper] (s : Bool) {x : ℚ} (hx : 0 ≤ x)
    (h : x < F.overflowThreshold) :
    ∃ f : Finite F, ofMagnitude s x = finite f ∧ f.negative = s ∧
      f.magnitude = F.nearestSize x := by
  unfold ofMagnitude
  rcases hx.eq_or_lt with rfl | hpos
  · have hc : F.Canonical 0 F.minExponent :=
      ⟨Nat.two_pow_pos _, le_rfl, Format.Proper.minExponent_le, Or.inr rfl⟩
    refine ⟨⟨s, 0, F.minExponent, hc⟩, ?_, rfl, by simp [Finite.magnitude]⟩
    rw [if_pos rfl, zero, ofParts, dif_pos hc]
  · have hc : F.Canonical (F.nearestParts x).1 (F.nearestParts x).2 := by
      rw [Format.canonical_nearestParts_iff hpos, ← not_le, Format.limit_le_nearestSize_iff hx]
      exact not_le.mpr h
    refine ⟨⟨s, _, _, hc⟩, ?_, rfl, (Format.nearestParts_spec hpos).1⟩
    rw [if_neg hpos.ne', ofParts, dif_pos hc]

theorem ofMagnitude_eq_infinity [F.Proper] (s : Bool) {x : ℚ} (hx : 0 < x)
    (h : F.overflowThreshold ≤ x) : ofMagnitude (F := F) s x = infinity s := by
  have hc : ¬ F.Canonical (F.nearestParts x).1 (F.nearestParts x).2 := by
    rw [Format.canonical_nearestParts_iff hx, not_lt, Format.limit_le_nearestSize_iff hx.le]
    exact h
  rw [ofMagnitude, if_neg hx.ne', ofParts, dif_neg hc]

/-- A rational below the threshold, whatever its sign, is rounded to a finite number. -/
theorem exists_ofRat_eq [F.Proper] (z : Bool) {x : ℚ} (h : |x| < F.overflowThreshold) :
    ∃ f : Finite F, ofRat z x = finite f ∧ f.toRat = F.nearest x := by
  unfold ofRat
  split_ifs with h0 hneg
  · obtain ⟨f, hf, -, hm⟩ := exists_ofMagnitude_eq (F := F) z le_rfl (by simpa [h0] using h)
    have hz : zero z = finite f := by rwa [ofMagnitude, if_pos rfl] at hf
    refine ⟨f, hz, ?_⟩
    simp [Finite.toRat, hm, h0, Format.nearest]
  · rw [abs_of_neg hneg] at h
    obtain ⟨f, hf, hs, hm⟩ := exists_ofMagnitude_eq (F := F) true (by linarith) h
    exact ⟨f, hf, by rw [Finite.toRat, if_pos hs, hm, Format.nearest_of_neg hneg]⟩
  · have hpos : 0 ≤ x := not_lt.mp hneg
    rw [abs_of_nonneg hpos] at h
    obtain ⟨f, hf, hs, hm⟩ := exists_ofMagnitude_eq (F := F) false hpos h
    exact ⟨f, hf, by rw [Finite.toRat, if_neg (by simp [hs]), hm, Format.nearest_of_nonneg hpos]⟩

theorem ofRat_eq_infinity [F.Proper] (z : Bool) {x : ℚ} (h : F.overflowThreshold ≤ |x|) :
    (ofRat z x : Floating F) = infinity (decide (x < 0)) := by
  have hpos : 0 < |x| := lt_of_lt_of_le Format.overflowThreshold_pos h
  have h0 : x ≠ 0 := abs_pos.mp hpos
  unfold ofRat
  rw [if_neg h0]
  split_ifs with hneg
  · rw [abs_of_neg hneg] at h hpos
    rw [ofMagnitude_eq_infinity true hpos h, decide_eq_true hneg]
  · rw [abs_of_nonneg (not_lt.mp hneg)] at h hpos
    rw [ofMagnitude_eq_infinity false hpos h, decide_eq_false hneg]

theorem toRat?_ofRat [F.Proper] (z : Bool) (x : ℚ) :
    (ofRat z x : Floating F).toRat? =
      if |x| < F.overflowThreshold then some (F.nearest x) else none := by
  split_ifs with h
  · obtain ⟨f, hf, hv⟩ := exists_ofRat_eq (F := F) z h
    rw [hf, toRat?, hv]
  · rw [ofRat_eq_infinity z (not_lt.mp h)]
    rfl

/-- The numbers with a rational are the finite ones. -/
theorem toRat?_eq_some_iff {x : Floating F} {q : ℚ} :
    x.toRat? = some q ↔ ∃ f : Finite F, x = finite f ∧ f.toRat = q := by
  cases x <;> simp [toRat?]

theorem isFinite_iff {x : Floating F} : x.isFinite = true ↔ ∃ f, x = finite f := by
  cases x <;> simp [isFinite]

theorem toRat?_add [F.Proper] {x y : Floating F} {p q : ℚ} (hx : x.toRat? = some p)
    (hy : y.toRat? = some q) :
    (x.add y).toRat? =
      if |p + q| < F.overflowThreshold then some (F.nearest (p + q)) else none := by
  obtain ⟨f, rfl, rfl⟩ := toRat?_eq_some_iff.mp hx
  obtain ⟨g, rfl, rfl⟩ := toRat?_eq_some_iff.mp hy
  exact toRat?_ofRat _ _

theorem toRat?_neg {x : Floating F} {q : ℚ} (hx : x.toRat? = some q) :
    x.neg.toRat? = some (-q) := by
  obtain ⟨f, rfl, rfl⟩ := toRat?_eq_some_iff.mp hx
  show some (Finite.toRat { f with negative := !f.negative }) = _
  unfold Finite.toRat
  cases f.negative
  · rfl
  · simp [Finite.magnitude]

theorem toRat?_sub [F.Proper] {x y : Floating F} {p q : ℚ} (hx : x.toRat? = some p)
    (hy : y.toRat? = some q) :
    (x.sub y).toRat? =
      if |p - q| < F.overflowThreshold then some (F.nearest (p - q)) else none := by
  rw [sub_eq_add_neg]
  exact toRat?_add hx (toRat?_neg hy)

theorem toRat?_mul [F.Proper] {x y : Floating F} {p q : ℚ} (hx : x.toRat? = some p)
    (hy : y.toRat? = some q) :
    (x.mul y).toRat? =
      if |p * q| < F.overflowThreshold then some (F.nearest (p * q)) else none := by
  obtain ⟨f, rfl, rfl⟩ := toRat?_eq_some_iff.mp hx
  obtain ⟨g, rfl, rfl⟩ := toRat?_eq_some_iff.mp hy
  exact toRat?_ofRat _ _

theorem lt_iff_of_toRat? {x y : Floating F} {p q : ℚ} (hx : x.toRat? = some p)
    (hy : y.toRat? = some q) : x.lt y = true ↔ p < q := by
  obtain ⟨f, rfl, rfl⟩ := toRat?_eq_some_iff.mp hx
  obtain ⟨g, rfl, rfl⟩ := toRat?_eq_some_iff.mp hy
  simp [lt]

theorem le_iff_of_toRat? {x y : Floating F} {p q : ℚ} (hx : x.toRat? = some p)
    (hy : y.toRat? = some q) : x.le y = true ↔ p ≤ q := by
  obtain ⟨f, rfl, rfl⟩ := toRat?_eq_some_iff.mp hx
  obtain ⟨g, rfl, rfl⟩ := toRat?_eq_some_iff.mp hy
  simp [le, lt, eq, le_iff_lt_or_eq]

end Floating

/-- An integer has no double exactly from the overflow threshold on. -/
theorem Double.ofInt?_eq_none_iff (k : ℤ) :
    Double.ofInt? k = none ↔ binary64.overflowThreshold ≤ |(k : ℚ)| := by
  unfold Double.ofInt? Floating.ofInt
  rcases lt_or_ge |(k : ℚ)| binary64.overflowThreshold with h | h
  · obtain ⟨f, hf, -⟩ := Floating.exists_ofRat_eq (F := binary64) false h
    rw [hf]
    exact iff_of_false (by simp) (not_le.mpr h)
  · rw [Floating.ofRat_eq_infinity false h]
    exact iff_of_true rfl h

/-- No size up to `2 ^ 200` comes near the threshold of doubles. -/
theorem Double.lt_overflowThreshold {x : ℚ} (h : |x| ≤ 2 ^ 200) :
    |x| < binary64.overflowThreshold := by
  calc |x| ≤ 2 ^ 200 := h
    _ = 2 ^ (200 : ℤ) := (zpow_ofNat 2 200).symm
    _ ≤ 2 ^ (971 : ℤ) := zpow_le_zpow_right₀ (by norm_num) (by norm_num)
    _ < (2 ^ 53 - 1 / 2) * 2 ^ (971 : ℤ) := lt_mul_of_one_lt_left (by positivity) (by norm_num)

/-- Integers of at most 53 bits are doubles. -/
theorem Double.toRat?_ofInt {k : ℤ} (hk : k.natAbs ≤ 2 ^ 53) :
    (Floating.ofInt k : Double).toRat? = some (k : ℚ) := by
  have hsize : |(k : ℚ)| ≤ 2 ^ 200 := by
    rw [← Int.cast_abs, ← Nat.cast_natAbs]
    exact_mod_cast hk.trans (by norm_num)
  have hkeep : binary64.nearest k = k := Format.nearest_intCast hk (by decide)
  rw [Floating.ofInt, Floating.toRat?_ofRat, if_pos (Double.lt_overflowThreshold hsize), hkeep]

theorem Double.toRat?_of_ofInt? {k : ℤ} {x : Double} (h : Double.ofInt? k = some x) :
    x.toRat? = some (binary64.nearest k) := by
  have hk : |(k : ℚ)| < binary64.overflowThreshold := by
    rw [← not_le, ← Double.ofInt?_eq_none_iff, h]
    simp
  obtain ⟨f, hf, hv⟩ := Floating.exists_ofRat_eq (F := binary64) false hk
  unfold Double.ofInt? Floating.ofInt at h
  rw [hf] at h
  simp only [Option.some.injEq] at h
  rw [← h, Floating.toRat?, hv]

end SplitTest
