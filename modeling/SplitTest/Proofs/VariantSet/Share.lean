import SplitTest.Bucket
import SplitTest.VariantSet
import SplitTest.Proofs.Number.Floating

/-! Shares of an experiment's thousand buckets, told by the rationals that sizes stand for: when a
size has a share, which one, and how shares compare. -/
namespace SplitTest

/-- The whole buckets in a fraction of a thousand. -/
def wholeBuckets (q : ℚ) : ℤ :=
  truncate (binary64.nearest (q * 1000))

/-- Whether a fraction of a thousand is in the range of doubles. -/
def ShareInRange (q : ℚ) : Prop :=
  |q * 1000| < binary64.overflowThreshold

instance (q : ℚ) : Decidable (ShareInRange q) :=
  inferInstanceAs (Decidable (_ < _))

theorem share_bucketCount (x : Double) : share x bucketCount = .ok (x.mul (.ofInt 1000)) := by
  have hcount : Double.ofInt? bucketCount = some (.ofInt 1000) := by decide +kernel
  unfold share
  rw [hcount]

theorem toRat?_mul_thousand {x : Double} {q : ℚ} (hx : x.toRat? = some q) :
    (x.mul (.ofInt 1000)).toRat? =
      if ShareInRange q then some (binary64.nearest (q * 1000)) else none := by
  have hcount : (Floating.ofInt 1000 : Double).toRat? = some ((1000 : ℤ) : ℚ) :=
    Double.toRat?_ofInt (by norm_num)
  rw [Int.cast_ofNat] at hcount
  exact Floating.toRat?_mul hx hcount

theorem wholeShare_of_inRange {x : Double} {q : ℚ} (hx : x.toRat? = some q)
    (h : ShareInRange q) : wholeShare x bucketCount = .ok (wholeBuckets q) := by
  have hr := toRat?_mul_thousand hx
  rw [if_pos h] at hr
  obtain ⟨f, hf, hv⟩ := Floating.toRat?_eq_some_iff.mp hr
  unfold wholeShare wholeBuckets
  rw [share_bucketCount, hf, ← hv]
  rfl

/-- Sizes whose product with the number of buckets overflows have no share. -/
theorem wholeShare_of_not_inRange {x : Double} {q : ℚ} (hx : x.toRat? = some q)
    (h : ¬ ShareInRange q) : wholeShare x bucketCount = .error .infinite := by
  have hcount : (Floating.ofInt 1000 : Double).toRat? = some ((1000 : ℤ) : ℚ) :=
    Double.toRat?_ofInt (by norm_num)
  obtain ⟨f, rfl, rfl⟩ := Floating.toRat?_eq_some_iff.mp hx
  obtain ⟨g, hg, hv⟩ := Floating.toRat?_eq_some_iff.mp hcount
  unfold wholeShare
  rw [share_bucketCount, hg]
  simp only [Floating.mul, hv]
  rw [Floating.ofRat_eq_infinity _ (by simpa [ShareInRange] using h)]
  rfl

/-- Only finite sizes have a share. -/
theorem toRat?_of_wholeShare {x : Double} {n : ℤ} (h : wholeShare x bucketCount = .ok n) :
    ∃ q, x.toRat? = some q ∧ ShareInRange q ∧ n = wholeBuckets q := by
  cases x with
  | nan =>
    have hnan : wholeShare .nan bucketCount = .error .nan := by decide +kernel
    rw [hnan] at h
    cases h
  | infinity s =>
    have hinf : wholeShare (.infinity s) bucketCount = .error .infinite := by
      cases s <;> decide +kernel
    rw [hinf] at h
    cases h
  | finite f =>
    by_cases hr : ShareInRange f.toRat
    · rw [wholeShare_of_inRange rfl hr] at h
      exact ⟨f.toRat, rfl, hr, (Except.ok.inj h).symm⟩
    · rw [wholeShare_of_not_inRange rfl hr] at h
      cases h

theorem wholeBuckets_mono {p q : ℚ} (h : p ≤ q) : wholeBuckets p ≤ wholeBuckets q :=
  truncate_mono (Format.nearest_mono (by linarith))

theorem pos_of_wholeBuckets_pos {q : ℚ} (h : 0 < wholeBuckets q) : 0 < q := by
  by_contra hq
  have hnone : wholeBuckets q ≤ 0 := truncate_nonpos (Format.nearest_nonpos (by linarith))
  omega

/-- A share has at most a thousandth of a bucket more than its size says. -/
theorem lt_of_le_wholeBuckets {q : ℚ} {k : ℤ} (hk : 0 < k) (hle : k ≤ 2 ^ 40)
    (h : k ≤ wholeBuckets q) : (k : ℚ) - 1 / 2 ^ 10 < q * 1000 := by
  by_contra hq
  rw [not_lt] at hq
  have hmantissa : (k * 2 ^ 10 - 1).natAbs ≤ 2 ^ 53 := by omega
  have hkeep := Format.nearest_of_mantissa (F := binary64) (e := -10) hmantissa (by decide)
  have hform : (k : ℚ) - 1 / 2 ^ 10 = ((k * 2 ^ 10 - 1 : ℤ) : ℚ) * 2 ^ (-10 : ℤ) := by
    push_cast
    norm_num
    ring
  rw [hform] at hq
  have hround := Format.nearest_mono (F := binary64) hq
  rw [hkeep, ← hform] at hround
  have := (le_truncate_iff hk).mp h
  linarith

theorem inRange_of_abs_le {q : ℚ} (h : |q| ≤ 2 ^ 180) : ShareInRange q := by
  refine Double.lt_overflowThreshold ?_
  rw [abs_mul]
  norm_num at h ⊢
  linarith

theorem inRange_of_unit {q : ℚ} (h0 : 0 ≤ q) (h1 : q ≤ 1) : ShareInRange q := by
  apply inRange_of_abs_le
  rw [abs_of_nonneg h0]
  exact h1.trans (by norm_num)

theorem inRange_of_abs_le_abs {p q : ℚ} (hq : ShareInRange q) (h : |p| ≤ |q|) :
    ShareInRange p := by
  unfold ShareInRange at *
  rw [abs_mul] at *
  refine lt_of_le_of_lt ?_ hq
  gcongr

end SplitTest
