import SplitTest.Proofs.VariantSet.Check

/-! Growing never reassigns: where shares of a rollout or of a pair grow, every bucket that has a
variant keeps it. Two slices that grow toward each other do not cross: their sum is checked. -/
namespace SplitTest

/-- The same variant with a size that is no smaller. -/
structure Variant.Grows (v w : Variant) : Prop where
  others : { w with size := v.size } = v
  size : v.size.le w.size = true

theorem Variant.Grows.name_eq {v w : Variant} (h : v.Grows w) : w.name = v.name := by
  rw [← h.others]

theorem toRat?_of_le {x y : Double} {p : ℚ} (hx : x.toRat? = some p) (h : x.le y = true) :
    (∃ q, y.toRat? = some q ∧ p ≤ q) ∨ y = .infinity false := by
  obtain ⟨f, rfl, rfl⟩ := Floating.toRat?_eq_some_iff.mp hx
  cases y with
  | nan => cases h
  | infinity s => cases s with
    | false => exact Or.inr rfl
    | true => cases h
  | finite g => exact Or.inl ⟨g.toRat, rfl, (Floating.le_iff_of_toRat? rfl rfl).mp h⟩

/-- Where the first of two sizes is finite, the checks leave no room for others that are not. -/
theorem finite_of_grows {v w v' w' : Variant} {p : ℚ} (hp : v.size.toRat? = some p)
    (hv : v.Grows v') (hw : w.Grows w')
    (h : VariantSet.unitShare (v.size.add w.size) = true)
    (h' : VariantSet.unitShare (v'.size.add w'.size) = true) :
    ∃ q p' q', w.size.toRat? = some q ∧ v'.size.toRat? = some p' ∧ w'.size.toRat? = some q' ∧
      p ≤ p' ∧ q ≤ q' := by
  have hle := hw.size
  obtain ⟨f, hf, rfl⟩ := Floating.toRat?_eq_some_iff.mp hp
  have hq : ∃ q, w.size.toRat? = some q := by
    cases hs : w.size with
    | nan =>
      rw [hs] at hle
      cases hle
    | infinity s =>
      rw [hf, hs] at h
      rw [Floating.add, unitShare_infinity] at h
      cases h
    | finite g => exact ⟨g.toRat, rfl⟩
  obtain ⟨q, hq⟩ := hq
  rcases toRat?_of_le hp hv.size with ⟨p', hp', hpp⟩ | hinf
  · rcases toRat?_of_le hq hle with ⟨q', hq', hqq⟩ | hinf'
    · exact ⟨q, p', q', hq, hp', hq', hpp, hqq⟩
    · obtain ⟨f', hf', rfl⟩ := Floating.toRat?_eq_some_iff.mp hp'
      rw [hf', hinf', Floating.add, unitShare_infinity] at h'
      cases h'
  · rw [hinf] at h'
    rcases toRat?_of_le hq hle with ⟨q', hq', -⟩ | hinf'
    · obtain ⟨g', hg', rfl⟩ := Floating.toRat?_eq_some_iff.mp hq'
      rw [hg', Floating.add, unitShare_infinity] at h'
      cases h'
    · rw [hinf', Floating.add, if_pos rfl, unitShare_infinity] at h'
      cases h'

/-- Two slices that pass the check of their sum have no bucket in common. -/
theorem wholeBuckets_add_le {p q : ℚ} (h : p + q ≤ 1 + sumSlack) {b : ℤ} (hb : 0 ≤ b)
    (hb' : b < 1000) (hq : 1000 - b ≤ wholeBuckets q) : wholeBuckets p ≤ b := by
  by_contra hp
  have hnext : b + 1 ≤ wholeBuckets p := by omega
  have hlo := lt_of_le_wholeBuckets (by omega) (by omega) hnext
  have hhi := lt_of_le_wholeBuckets (k := 1000 - b) (by omega) (by omega) hq
  push_cast at hlo hhi
  unfold sumSlack at h
  norm_num at *
  linarith

theorem sumSlack_le_half : sumSlack ≤ 1 / 2 := by
  unfold sumSlack
  norm_num

/-- A share stays in range where it grows and the other one is not negative. -/
theorem inRange_of_le_of_nonneg {p q : ℚ} {f : Finite binary64} (hp : ShareInRange p)
    (hle : p ≤ f.toRat) (hq : 0 ≤ q) (hsum : f.toRat + q ≤ 1 + sumSlack) :
    ShareInRange f.toRat := by
  have hslack := sumSlack_le_half
  rcases lt_or_ge f.toRat 0 with hneg | hnn
  · refine inRange_of_abs_le_abs hp ?_
    rw [abs_of_neg hneg, abs_of_neg (hle.trans_lt hneg)]
    linarith
  · refine inRange_of_abs_le ?_
    rw [abs_of_nonneg hnn]
    norm_num
    linarith

/-- A positive share is in range if the other one is and their sum is checked. -/
theorem inRange_of_sum_le {f g : Finite binary64} (hf : ShareInRange f.toRat) (hg : 0 < g.toRat)
    (hsum : f.toRat + g.toRat ≤ 1 + sumSlack) : ShareInRange g.toRat := by
  have hslack := sumSlack_le_half
  have hneg := neg_abs_le f.toRat
  refine inRange_of_le_add_two hf ?_
  rw [abs_of_pos hg]
  linarith

namespace VariantSet

/-- The position of a bucket between two finite sizes. -/
theorem pairPosition_of_toRat? {v w : Variant} {p q : ℚ} (hv : v.size.toRat? = some p)
    (hw : w.size.toRat? = some q) (b : ℤ) :
    pairPosition bucketCount b v w =
      if ShareInRange p then
        if b < wholeBuckets p then .ok (some 0)
        else if ShareInRange q then
          if 1000 - wholeBuckets q ≤ b then .ok (some 1) else .ok none
        else .error .infinite
      else .error .infinite := by
  unfold pairPosition
  by_cases hp : ShareInRange p
  · rw [wholeShare_of_inRange hv hp, if_pos hp]
    by_cases hlt : b < wholeBuckets p
    · simp [bind, Except.bind, hlt, pure, Except.pure]
    · by_cases hq : ShareInRange q
      · rw [wholeShare_of_inRange hw hq, if_neg hlt, if_pos hq]
        by_cases hle : 1000 - wholeBuckets q ≤ b <;>
          simp [bind, Except.bind, hlt, pure, Except.pure, bucketCount, hle]
      · rw [wholeShare_of_not_inRange hw hq, if_neg hlt, if_neg hq]
        simp [bind, Except.bind, hlt]
  · rw [wholeShare_of_not_inRange hv hp, if_neg hp]
    rfl

/-- A bucket between two variants keeps its position where both grow. -/
theorem pairPosition_of_grows {v w v' w' : Variant} (hv : v.Grows v') (hw : w.Grows w')
    (h : unitShare (v.size.add w.size) = true) (h' : unitShare (v'.size.add w'.size) = true)
    {b : ℤ} (hb : 0 ≤ b) (hb' : b < 1000) {i : ℕ}
    (hi : pairPosition bucketCount b v w = .ok (some i)) :
    pairPosition bucketCount b v' w' = .ok (some i) := by
  obtain ⟨n, hn, -⟩ := Except.bind_eq_ok_iff.mp hi
  obtain ⟨p, hp, hpr, -⟩ := toRat?_of_wholeShare hn
  obtain ⟨q, p', q', hq, hp', hq', hpp, hqq⟩ := finite_of_grows hp hv hw h h'
  obtain ⟨hsum, -⟩ := sum_bounds_of_unitShare hp hq h
  obtain ⟨-, hsum'⟩ := sum_bounds_of_unitShare hp' hq' h'
  rw [pairPosition_of_toRat? hp hq, if_pos hpr] at hi
  rw [pairPosition_of_toRat? hp' hq']
  obtain ⟨f, -, rfl⟩ := Floating.toRat?_eq_some_iff.mp hp
  obtain ⟨f', -, rfl⟩ := Floating.toRat?_eq_some_iff.mp hp'
  obtain ⟨g', -, rfl⟩ := Floating.toRat?_eq_some_iff.mp hq'
  split_ifs at hi with hlow hqr hhigh
  · -- The first slice grows away from bucket zero.
    have hpos : 0 < f.toRat := pos_of_wholeBuckets_pos (by omega)
    have hr' : ShareInRange f'.toRat := by
      have hslack := sumSlack_le_half
      refine inRange_of_le_add_two hpr ?_
      rw [abs_of_pos hpos, abs_of_pos (hpos.trans_le hpp)]
      linarith
    rw [if_pos hr', if_pos (hlow.trans_le (wholeBuckets_mono hpp))]
    exact hi
  · -- The second slice grows away from the last bucket, and the first one stops short of it.
    have hpos : 0 < q := pos_of_wholeBuckets_pos (by omega)
    have hpos' : 0 < g'.toRat := hpos.trans_le hqq
    have hr' : ShareInRange f'.toRat := inRange_of_le_of_nonneg hpr hpp hpos'.le hsum'
    have hs' : ShareInRange g'.toRat := inRange_of_sum_le hr' hpos' hsum'
    have hmono := wholeBuckets_mono hqq
    have hstop := wholeBuckets_add_le hsum' hb hb' (by omega)
    rw [if_pos hr', if_neg (by omega), if_pos hs', if_pos (by omega)]
    exact hi
  · cases hi

theorem stackedPosition_of_grows {v v' : Variant} (hv : v.Grows v')
    (h' : unitShare v'.size = true) {b : ℤ} {i : ℕ}
    (hi : stackedPosition bucketCount b 0 [v] = .ok (some i)) :
    stackedPosition bucketCount b 0 [v'] = .ok (some i) := by
  obtain ⟨n, hn, -⟩ := Except.bind_eq_ok_iff.mp hi
  obtain ⟨p, hp, -, rfl⟩ := toRat?_of_wholeShare hn
  rw [stackedPosition_singleton hn] at hi
  split_ifs at hi with hlow
  · rcases toRat?_of_le hp hv.size with ⟨p', hp', hpp⟩ | hinf
    · have hunit := (unitShare_iff hp').mp h'
      have hr' : ShareInRange p' := by
        refine inRange_of_abs_le ?_
        rw [abs_of_nonneg hunit.1]
        exact hunit.2.trans (by norm_num)
      have hmono := wholeBuckets_mono hpp
      rw [stackedPosition_singleton (wholeShare_of_inRange hp' hr'), if_pos (by omega)]
      exact hi
    · rw [hinf, unitShare_infinity] at h'
      cases h'
  · cases hi

theorem position?_of_grows {a : Arrangement} (ha : a = .rollout ∨ a = .single)
    {vs vs' : List Variant} (hg : List.Forall₂ Variant.Grows vs vs')
    (h : check bucketCount a vs = .ok ()) (h' : check bucketCount a vs' = .ok ())
    {b : ℤ} (hb : 0 ≤ b) (hb' : b < 1000) {i : ℕ}
    (hi : position? ⟨a, vs, bucketCount⟩ b = .ok (some i)) :
    position? ⟨a, vs', bucketCount⟩ b = .ok (some i) := by
  rcases ha with rfl | rfl
  · obtain ⟨v, rfl, -⟩ := check_rollout_iff.mp h
    obtain ⟨v', rfl, hunit⟩ := check_rollout_iff.mp h'
    cases hg with
    | cons hv _ => exact stackedPosition_of_grows hv hunit hi
  · obtain ⟨v, w, rfl, hunit⟩ := check_single_iff.mp h
    obtain ⟨v', w', rfl, hunit'⟩ := check_single_iff.mp h'
    cases hg with
    | cons hv hrest => cases hrest with
      | cons hw _ => exact pairPosition_of_grows hv hw hunit hunit' hb hb' hi

theorem choose_of_grows {a : Arrangement} (ha : a = .rollout ∨ a = .single)
    {vs vs' : List Variant} (hg : List.Forall₂ Variant.Grows vs vs')
    (h : check bucketCount a vs = .ok ()) (h' : check bucketCount a vs' = .ok ())
    {b : ℤ} (hb : 0 ≤ b) (hb' : b < 1000) {name : String} (hname : name ≠ "")
    (hc : choose ⟨a, vs, bucketCount⟩ b = .ok name) :
    choose ⟨a, vs', bucketCount⟩ b = .ok name := by
  unfold choose at hc ⊢
  obtain ⟨found, hfound, hn⟩ := Except.bind_eq_ok_iff.mp hc
  cases found with
  | none => exact absurd (Except.ok.inj hn).symm hname
  | some i =>
    have hnames : vs'.map (·.name) = vs.map (·.name) := by
      clear h h' hc hfound hn
      induction hg with
      | nil => rfl
      | cons hv _ ih => rw [List.map_cons, List.map_cons, hv.name_eq, ih]
    have hi : vs'[i]?.map (·.name) = vs[i]?.map (·.name) := by
      rw [← List.getElem?_map, ← List.getElem?_map, hnames]
    rw [position?_of_grows ha hg h h' hb hb' hfound, ← hn]
    simp only [Except.ok_bind]
    rw [hi]

end VariantSet
end SplitTest
