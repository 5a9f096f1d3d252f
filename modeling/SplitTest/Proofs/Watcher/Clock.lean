import SplitTest.Proofs.Number.Floating
import SplitTest.Proofs.Watcher.Waiting

/-! The clock of the system: which sleeps it takes. A wait whose interval is positive and not too
long never stalls, as no sleep is longer than the interval. -/
namespace SplitTest

namespace Floating

variable {F : Format} {x y z : Floating F} {p q : ℚ}

theorem ltInt_iff_of_toRat? (hx : x.toRat? = some q) (n : ℤ) : x.ltInt n = true ↔ q < n := by
  obtain ⟨f, rfl, rfl⟩ := toRat?_eq_some_iff.mp hx
  simp [ltInt]

/-- What lies between finite numbers is finite. -/
theorem exists_toRat?_between (hx : x.toRat? = some p) (hz : z.toRat? = some q)
    (hlo : y.le x = false) (hhi : y.lt z = true) : ∃ r, y.toRat? = some r ∧ p < r ∧ r < q := by
  obtain ⟨f, rfl, rfl⟩ := toRat?_eq_some_iff.mp hx
  obtain ⟨g, rfl, rfl⟩ := toRat?_eq_some_iff.mp hz
  cases y with
  | nan => cases hhi
  | infinity s =>
    have hs : s = true := hhi
    subst hs
    cases hlo
  | finite h =>
    refine ⟨h.toRat, rfl, ?_, by simpa [lt] using hhi⟩
    have hle : ¬ (finite h : Floating F).le (finite f) = true := by simp [hlo]
    rwa [le_iff_of_toRat? rfl rfl, not_le] at hle

end Floating

namespace SleepError

theorem toRat?_billion : (Floating.ofInt 1000000000 : Double).toRat? = some 1000000000 := by
  simpa using Double.toRat?_ofInt (k := 1000000000) (by norm_num)

theorem nearest_two_pow_sixtyThree : binary64.nearest (2 ^ 63) = 2 ^ 63 := by
  have h := Format.nearest_of_mantissa (F := binary64) (k := 1) (e := 63) (by decide) (by decide)
  norm_num at h ⊢
  exact h

theorem limit_eq : limit = 2 ^ 63 := by decide

theorem ofSeconds?_eq_none_iff_ltInt (time : Double) : ofSeconds? time = none ↔
    time.isNaN = false ∧ (time.mul (.ofInt 1000000000)).ltInt limit = true ∧
      (time.mul (.ofInt 1000000000)).ltInt (-limit) = false ∧ time.ltInt 0 = false := by
  unfold ofSeconds?
  dsimp only
  generalize time.isNaN = unnumbered, time.ltInt 0 = backwards,
    (time.mul (.ofInt 1000000000)).ltInt limit = below,
    (time.mul (.ofInt 1000000000)).ltInt (-limit) = under
  cases unnumbered <;> cases backwards <;> cases below <;> cases under <;> simp

section

variable {f : Finite binary64}

theorem ltInt_zero_eq_false_iff : (Floating.finite f : Double).ltInt 0 = false ↔ 0 ≤ f.toRat := by
  have hx : (Floating.finite f : Double).toRat? = some f.toRat := rfl
  simpa using not_congr (Floating.ltInt_iff_of_toRat? hx 0)

theorem ofSeconds?_eq_none_iff_of_lt
    (h : |f.toRat * 1000000000| < binary64.overflowThreshold) : ofSeconds? (.finite f) = none ↔
      0 ≤ f.toRat ∧ binary64.nearest (f.toRat * 1000000000) < 2 ^ 63 := by
  have hproduct := Floating.toRat?_mul (x := .finite f) rfl toRat?_billion
  rw [if_pos h] at hproduct
  have hunder := not_congr (Floating.ltInt_iff_of_toRat? hproduct (-limit))
  rw [Bool.not_eq_true] at hunder
  have hnan : (Floating.finite f : Double).isNaN = false := rfl
  rw [ofSeconds?_eq_none_iff_ltInt, ltInt_zero_eq_false_iff,
    Floating.ltInt_iff_of_toRat? hproduct, hunder, hnan, limit_eq]
  push_cast
  constructor
  · rintro ⟨-, hhi, -, h0⟩
    exact ⟨h0, hhi⟩
  · rintro ⟨h0, hhi⟩
    have hnonneg : 0 ≤ binary64.nearest (f.toRat * 1000000000) :=
      Format.nearest_nonneg (by linarith)
    exact ⟨rfl, hhi, by linarith, h0⟩

theorem ofSeconds?_ne_none_of_overflow
    (h : binary64.overflowThreshold ≤ |f.toRat * 1000000000|) : ofSeconds? (.finite f) ≠ none := by
  obtain ⟨billion, hbillion, hvalue⟩ := Floating.toRat?_eq_some_iff.mp toRat?_billion
  rw [← hvalue] at h
  have hproduct : (Floating.finite f : Double).mul (.finite billion) =
      .infinity (decide (f.toRat * billion.toRat < 0)) := Floating.ofRat_eq_infinity _ h
  rw [Ne, ofSeconds?_eq_none_iff_ltInt, ltInt_zero_eq_false_iff, hbillion, hproduct, hvalue]
  rintro ⟨-, hhi, -, h0⟩
  have hpos : ¬ f.toRat * 1000000000 < 0 := by linarith
  simp [hpos, Floating.ltInt] at hhi

theorem two_pow_le_nearest_of_overflow {x : ℚ} (h : binary64.overflowThreshold ≤ x) :
    2 ^ 63 ≤ binary64.nearest x := by
  have hlarge : (2 : ℚ) ^ 63 ≤ x :=
    (le_abs_self _).trans ((Double.lt_overflowThreshold (by norm_num)).le.trans h)
  exact nearest_two_pow_sixtyThree.symm.trans_le (Format.nearest_mono hlarge)

end

/-- Sleeps are taken that are not negative and whose nanoseconds, rounded, can be counted. -/
theorem ofSeconds?_eq_none_iff (time : Double) : ofSeconds? time = none ↔
    ∃ x, time.toRat? = some x ∧ 0 ≤ x ∧ binary64.nearest (x * 1000000000) < 2 ^ 63 := by
  cases time with
  | nan => simp [ofSeconds?, Floating.isNaN, Floating.toRat?]
  | infinity s =>
    have hrefused : ofSeconds? (.infinity s) = some .outOfRange := by
      cases s <;> decide +kernel
    simp [hrefused, Floating.toRat?]
  | finite f =>
    simp only [Floating.toRat?, Option.some.injEq, exists_eq_left']
    rcases lt_or_ge |f.toRat * 1000000000| binary64.overflowThreshold with hfits | hover
    · exact ofSeconds?_eq_none_iff_of_lt hfits
    · refine iff_of_false (ofSeconds?_ne_none_of_overflow hover) ?_
      rintro ⟨h0, hhi⟩
      rw [abs_of_nonneg (by linarith)] at hover
      exact absurd hhi (two_pow_le_nearest_of_overflow hover).not_gt

example : SleepError.ofSeconds? (.ofInt 10000000000) = some .outOfRange := by decide +kernel

theorem ofSeconds?_of_le {time : Double} {x : ℚ} (hx : time.toRat? = some x) (h0 : 0 ≤ x)
    (h : x ≤ 2 ^ 33) : ofSeconds? time = none := by
  refine (ofSeconds?_eq_none_iff time).mpr ⟨x, hx, h0, ?_⟩
  have hbound : binary64.nearest (1000000000 * 2 ^ 33) = 1000000000 * 2 ^ 33 := by
    have h := Format.nearest_of_mantissa (F := binary64) (k := 1000000000) (e := 33)
      (by decide) (by decide)
    norm_num at h ⊢
    exact h
  calc binary64.nearest (x * 1000000000)
      ≤ binary64.nearest (1000000000 * 2 ^ 33) := Format.nearest_mono (by linarith)
    _ = 1000000000 * 2 ^ 33 := hbound
    _ < 2 ^ 63 := by norm_num

end SleepError

namespace WaitPlan

variable {plan : WaitPlan Double} {x : ℚ}

/-- No sleep is longer than the interval, and with a positive one none is negative. -/
theorem nextSleep?_bounds (hx : plan.interval.toRat? = some x) (h0 : 0 < x) {now time : Double}
    (h : plan.nextSleep? .double now = some time) :
    ∃ y, time.toRat? = some y ∧ 0 < y ∧ y ≤ x := by
  obtain ⟨interval, deadline⟩ := plan
  cases deadline with
  | none =>
    obtain rfl : interval = time := Option.some.inj h
    exact ⟨x, hx, h0, le_rfl⟩
  | some deadline =>
    have hzero : (Floating.ofInt 0 : Double).toRat? = some 0 := by
      simpa using Double.toRat?_ofInt (k := 0) (by norm_num)
    cases hover : (deadline.sub now).le (.ofInt 0) with
    | true => simp [nextSleep?, TimeScale.double, hover] at h
    | false =>
      cases hshort : (deadline.sub now).lt interval with
      | true =>
        obtain rfl : deadline.sub now = time := by
          simpa [nextSleep?, TimeScale.double, hover, hshort] using h
        obtain ⟨y, hy, hlo, hhi⟩ := Floating.exists_toRat?_between hzero hx hover hshort
        exact ⟨y, hy, hlo, hhi.le⟩
      | false =>
        obtain rfl : interval = time := by
          simpa [nextSleep?, TimeScale.double, hover, hshort] using h
        exact ⟨x, hx, h0, le_rfl⟩

theorem not_stalls_double (hx : plan.interval.toRat? = some x) (h0 : 0 < x) (h : x ≤ 2 ^ 33)
    (stat : WaitMoment Double → Except FileError Fingerprint) (m : WaitMoment Double) :
    ¬ plan.Stalls .double stat m := by
  rintro ⟨-, time, e, htime, hrefused⟩
  obtain ⟨y, hy, hpos, hle⟩ := nextSleep?_bounds hx h0 htime
  have htaken : SleepError.ofSeconds? time = none :=
    SleepError.ofSeconds?_of_le hy hpos.le (hle.trans h)
  cases htaken.symm.trans hrefused

end WaitPlan
end SplitTest
