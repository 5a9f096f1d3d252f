import Mathlib.Algebra.Order.Field.Power
import SplitTest.Proofs.Number.Floating

/-! Floating-point numbers that are equal as numbers. But for the two zeros they are the same, and
nothing that is computed from numbers tells the zeros apart, unless it asks for their text. -/
namespace SplitTest

variable {F G : Format}

/-- No value has two canonical ways to be written. -/
theorem Format.Canonical.eq_of_value_eq {m n : ℕ} {d e : ℤ} (hm : F.Canonical m d)
    (hn : F.Canonical n e) (h0 : m ≠ 0) (h : (m : ℚ) * 2 ^ d = n * 2 ^ e) : m = n ∧ d = e := by
  have hle : ∀ {m n : ℕ} {d e : ℤ}, F.Canonical m d → F.Canonical n e → m ≠ 0 →
      (m : ℚ) * 2 ^ d = n * 2 ^ e → e ≤ d := by
    intro m n d e hm hn h0 h
    by_contra hlt
    -- The mantissa at the larger exponent is full, so the other one would not fit.
    obtain ⟨k, rfl⟩ : ∃ k : ℕ, e = d + (k + 1 : ℕ) := ⟨(e - d - 1).toNat, by omega⟩
    have hpos : (0 : ℚ) < 2 ^ d := by positivity
    have hmn : m = n * 2 ^ (k + 1) := by
      rw [zpow_add₀ (by norm_num), mul_comm ((2 : ℚ) ^ d), ← mul_assoc, zpow_natCast] at h
      exact_mod_cast mul_right_cancel₀ hpos.ne' h
    have hfull : 2 ^ (F.precision - 1) ≤ n := by
      rcases hn.2.2.2 with hfull | hmin
      · exact hfull
      · have := hm.2.1
        omega
    have hfit : m < 2 ^ F.precision := hm.1
    have hpower : 2 ^ F.precision ≤ 2 ^ (F.precision - 1) * 2 ^ (k + 1) := by
      rw [← pow_add]
      exact Nat.pow_le_pow_right (by omega) (by omega)
    have := Nat.mul_le_mul_right (2 ^ (k + 1)) hfull
    omega
  have hn0 : n ≠ 0 := by
    rintro rfl
    have hpos : (0 : ℚ) < 2 ^ d := by positivity
    simp [h0, hpos.ne'] at h
  have hde : d = e := le_antisymm (hle hn hm hn0 h.symm) (hle hm hn h0 h)
  subst hde
  have hpos : (0 : ℚ) < 2 ^ d := by positivity
  exact ⟨by exact_mod_cast mul_right_cancel₀ hpos.ne' h, rfl⟩

theorem Finite.eq_of_toRat_eq {x y : Finite F} (h : x.toRat = y.toRat) (h0 : x.toRat ≠ 0) :
    x = y := by
  obtain ⟨s, m, d, hm⟩ := x
  obtain ⟨t, n, e, hn⟩ := y
  have hsize : (m : ℚ) * 2 ^ d = n * 2 ^ e := by
    have habs := congrArg abs h
    simpa only [abs_toRat, magnitude] using habs
  have hm0 : m ≠ 0 := by
    rintro rfl
    simp [toRat, magnitude] at h0
  obtain ⟨rfl, rfl⟩ := hm.eq_of_value_eq hn hm0 hsize
  have hpos : (0 : ℚ) < m * 2 ^ d := by positivity
  have hsign : s = t := by
    cases s <;> cases t <;> simp [toRat, magnitude] at h ⊢ <;> linarith
  rw [hsign]

theorem Finite.mantissa_eq_zero_iff {x : Finite F} : x.mantissa = 0 ↔ x.magnitude = 0 := by
  have hunit : (2 : ℚ) ^ x.exponent ≠ 0 := by positivity
  rw [magnitude, mul_eq_zero, or_iff_left hunit, Nat.cast_eq_zero]

/-- Sign and size tell a number. -/
theorem Finite.eq_of_magnitude_eq {x y : Finite F} (hsign : x.negative = y.negative)
    (h : x.magnitude = y.magnitude) : x = y := by
  have hparts : x.mantissa = y.mantissa ∧ x.exponent = y.exponent := by
    by_cases h0 : x.mantissa = 0
    · have h0' : y.mantissa = 0 := by rwa [mantissa_eq_zero_iff, ← h, ← mantissa_eq_zero_iff]
      have hleast : ∀ z : Finite F, z.mantissa = 0 → z.exponent = F.minExponent := by
        intro z hz
        have hfull : ¬ 2 ^ (F.precision - 1) ≤ z.mantissa := by
          have := Nat.two_pow_pos (F.precision - 1)
          omega
        exact z.canonical.2.2.2.resolve_left hfull
      exact ⟨h0.trans h0'.symm, (hleast x h0).trans (hleast y h0').symm⟩
    · exact x.canonical.eq_of_value_eq y.canonical h0 h
  cases x
  cases y
  simp only [mk.injEq]
  exact ⟨hsign, hparts.1, hparts.2⟩

namespace Floating

section Rounding

variable [F.Proper] {s : Bool}

/-- Sizes that are rounded to the same one make the same number. -/
theorem ofMagnitude_congr {x y : ℚ} (hx : 0 ≤ x) (hy : 0 ≤ y)
    (h : F.nearestSize x = F.nearestSize y) :
    (ofMagnitude s x : Floating F) = ofMagnitude s y := by
  have hrange : F.overflowThreshold ≤ x ↔ F.overflowThreshold ≤ y := by
    rw [← Format.limit_le_nearestSize_iff hx, h, Format.limit_le_nearestSize_iff hy]
  have hpos := Format.overflowThreshold_pos (F := F)
  rcases lt_or_ge x F.overflowThreshold with hlt | hge
  · have hlt' : y < F.overflowThreshold := by rwa [← not_le, ← hrange, not_le]
    obtain ⟨f, hf, hfs, hfm⟩ := exists_ofMagnitude_eq (F := F) s hx hlt
    obtain ⟨g, hg, hgs, hgm⟩ := exists_ofMagnitude_eq (F := F) s hy hlt'
    have hfg : f = g := Finite.eq_of_magnitude_eq (hfs.trans hgs.symm) (by rw [hfm, h, hgm])
    rw [hf, hg, hfg]
  · have hge' := hrange.mp hge
    rw [ofMagnitude_eq_infinity s (hpos.trans_le hge) hge,
      ofMagnitude_eq_infinity s (hpos.trans_le hge') hge']

theorem ofMagnitude_magnitude (x : Finite F) : ofMagnitude x.negative x.magnitude = finite x := by
  obtain ⟨f, hf, hs, hm⟩ := exists_ofMagnitude_eq (F := F) x.negative x.magnitude_nonneg
    x.magnitude_lt_overflowThreshold
  rw [hf, Finite.eq_of_magnitude_eq hs (hm.trans x.nearestSize_magnitude)]

end Rounding

variable {x y : Floating F}

theorem eq_iff : x.eq y = true ↔ (∃ s, x = infinity s ∧ y = infinity s) ∨
    ∃ f g : Finite F, x = finite f ∧ y = finite g ∧ f.toRat = g.toRat := by
  cases x <;> cases y <;> simp [eq, eq_comm]

theorem toInt?_congr (h : x.eq y = true) : x.toInt? = y.toInt? := by
  rcases eq_iff.mp h with ⟨s, rfl, rfl⟩ | ⟨f, g, rfl, rfl, hfg⟩
  · rfl
  · simp only [toInt?, hfg]

/-- Equal numbers that are no integers are the same. -/
theorem eq_of_toInt?_eq_none (h : x.eq y = true) (hn : x.toInt? = none) : x = y := by
  rcases eq_iff.mp h with ⟨s, rfl, rfl⟩ | ⟨f, g, rfl, rfl, hfg⟩
  · rfl
  · have h0 : f.toRat ≠ 0 := by
      intro h0
      simp [toInt?, h0] at hn
    rw [Finite.eq_of_toRat_eq hfg h0]

theorem convert_congr [G.Proper] (h : x.eq y = true) :
    (x.convert : Floating G).eq y.convert = true := by
  rcases eq_iff.mp h with ⟨s, rfl, rfl⟩ | ⟨f, g, rfl, rfl, hfg⟩
  · simp [convert, eq]
  · simp only [convert, hfg]
    rcases lt_or_ge |g.toRat| G.overflowThreshold with hlt | hge
    · obtain ⟨f', hf', hv⟩ := exists_ofRat_eq (F := G) f.negative hlt
      obtain ⟨g', hg', hw⟩ := exists_ofRat_eq (F := G) g.negative hlt
      rw [hf', hg']
      exact eq_iff.mpr (Or.inr ⟨f', g', rfl, rfl, hv.trans hw.symm⟩)
    · rw [ofRat_eq_infinity _ hge, ofRat_eq_infinity _ hge]
      simp [eq]

end Floating
end SplitTest
