import Mathlib
import SplitTest.Proofs.VariantSet.Growth
import SplitTest.Proofs.VariantSet.Total

/-! Where slices lie. Variants without negative sizes that pass their check own disjoint stretches
of buckets, each as long as the whole buckets in its share. -/
namespace SplitTest

theorem stackedSize_cons (v : Variant) (vs : List Variant) :
    stackedSize (v :: vs) = v.size.boundary + stackedSize vs := by
  simp [stackedSize]

theorem stackedSize_nonneg {vs : List Variant} (h : ∀ v ∈ vs, 0 ≤ v.size.boundary) :
    0 ≤ stackedSize vs :=
  List.sum_nonneg (List.forall_mem_map.mpr h)

theorem stackedSize_take_le {vs : List Variant} (h : ∀ v ∈ vs, 0 ≤ v.size.boundary) {i : ℕ}
    {v : Variant} (hi : vs[i]? = some v) :
    stackedSize (vs.take i) + v.size.boundary ≤ stackedSize vs := by
  induction vs generalizing i with
  | nil => cases hi
  | cons w rest ih =>
    rw [List.forall_mem_cons] at h
    cases i with
    | zero =>
      obtain rfl := Option.some.inj hi
      have := stackedSize_nonneg h.2
      rw [stackedSize_cons, List.take_zero]
      simpa [stackedSize] using this
    | succ k =>
      have := ih h.2 hi
      rw [List.take_succ_cons, stackedSize_cons, stackedSize_cons]
      omega

namespace VariantSet

/-- Each position has a stretch of the buckets, from its start on and as long as the whole buckets
in its share, and every bucket has an answer. -/
structure LaidOut (set : VariantSet) (start : ℕ → ℤ) : Prop where
  room : ∀ i v, set.variants[i]? = some v → v.size.HasShare ∧ 0 ≤ v.size.boundary ∧ 0 ≤ start i ∧
    start i + v.size.boundary ≤ bucketCount
  owns : ∀ b, 0 ≤ b → b < bucketCount → ∀ i, set.position? b = .ok (some i) ↔
    ∃ v, set.variants[i]? = some v ∧ start i ≤ b ∧ b < start i + v.size.boundary
  answered : ∀ b, 0 ≤ b → b < bucketCount → ∃ found, set.position? b = .ok found

section Stacked

variable {b offset : ℤ} {vs : List Variant}

theorem stackedPosition_eq_some_iff (hshare : ∀ v ∈ vs, v.size.HasShare)
    (hnn : ∀ v ∈ vs, 0 ≤ v.size.boundary) {i : ℕ} (hb : offset ≤ b) :
    stackedPosition bucketCount b offset vs = .ok (some i) ↔ ∃ v, vs[i]? = some v ∧
      offset + stackedSize (vs.take i) ≤ b ∧
      b < offset + stackedSize (vs.take i) + v.size.boundary := by
  induction vs generalizing offset i with
  | nil => simp [stackedPosition]
  | cons v rest ih =>
    rw [List.forall_mem_cons] at hshare hnn
    rw [stackedPosition, wholeShare_of_hasShare hshare.1, Except.ok_bind]
    by_cases hlt : b < offset + v.size.boundary
    · rw [if_pos hlt]
      cases i with
      | zero => simpa [stackedSize] using ⟨hb, hlt⟩
      | succ k =>
        have hrest := stackedSize_nonneg fun w hw => hnn.2 w (List.mem_of_mem_take (i := k) hw)
        rw [List.take_succ_cons, stackedSize_cons]
        refine iff_of_false (by simp) ?_
        rintro ⟨w, -, hlo, -⟩
        omega
    · rw [if_neg hlt]
      cases i with
      | zero =>
        have hnext : ∀ found : Option ℕ, found.map (· + 1) ≠ some 0 := by simp
        refine iff_of_false ?_ (by simpa [stackedSize] using fun _ => not_lt.mp hlt)
        simp [Except.bind_eq_ok_iff, hnext]
      | succ k =>
        rw [List.take_succ_cons, stackedSize_cons, ← add_assoc, List.getElem?_cons_succ,
          ← ih hshare.2 hnn.2 (not_lt.mp hlt)]
        simp [Except.bind_eq_ok_iff]

theorem exists_stackedPosition (hshare : ∀ v ∈ vs, v.size.HasShare) (hb : offset ≤ b) :
    ∃ found, stackedPosition bucketCount b offset vs = .ok found := by
  cases h : stackedPosition bucketCount b offset vs with
  | ok found => exact ⟨found, rfl⟩
  | error e =>
    obtain ⟨before, v, after, hvs, -, -, hv⟩ := (stackedPosition_error_iff hb).mp ⟨e, h⟩
    exact absurd (hshare v (by simp [hvs])) hv

/-- Slices that follow one another start where those in front of them end. -/
theorem laidOut_stacked {set : VariantSet}
    (hp : ∀ b, set.position? b = stackedPosition bucketCount b 0 set.variants)
    (hshare : ∀ v ∈ set.variants, v.size.HasShare) (hnn : ∀ v ∈ set.variants, 0 ≤ v.size.boundary)
    (hle : stackedSize set.variants ≤ bucketCount) :
    set.LaidOut fun i => stackedSize (set.variants.take i) := by
  constructor
  · intro i v hi
    have hv := List.mem_of_getElem? hi
    have htake := stackedSize_take_le hnn hi
    exact ⟨hshare v hv, hnn v hv,
      stackedSize_nonneg fun w hw => hnn w (List.mem_of_mem_take hw), by omega⟩
  · intro b hb _ i
    rw [hp, stackedPosition_eq_some_iff hshare hnn hb]
    simp
  · intro b hb _
    rw [hp]
    exact exists_stackedPosition hshare hb

end Stacked

theorem pairPosition_of_hasShare {v w : Variant} (hv : v.size.HasShare) (hw : w.size.HasShare)
    (b : ℤ) : pairPosition bucketCount b v w = .ok (if b < v.size.boundary then some 0
      else if bucketCount - w.size.boundary ≤ b then some 1 else none) := by
  unfold pairPosition
  rw [wholeShare_of_hasShare hv, wholeShare_of_hasShare hw]
  simp only [Except.ok_bind]
  split_ifs <;> rfl

/-- The first slice of a pair starts with the first bucket, the second one ends with the last. -/
theorem laidOut_pair {v w : Variant} (hv : v.size.HasShare) (hw : w.size.HasShare)
    (hv0 : 0 ≤ v.size.boundary) (hw0 : 0 ≤ w.size.boundary)
    (hle : v.size.boundary + w.size.boundary ≤ bucketCount) :
    LaidOut ⟨.single, [v, w], bucketCount⟩
      (fun i => if i = 0 then 0 else bucketCount - w.size.boundary) := by
  have hp : ∀ b, position? ⟨.single, [v, w], bucketCount⟩ b =
      .ok (if b < v.size.boundary then some 0
        else if bucketCount - w.size.boundary ≤ b then some 1 else none) :=
    pairPosition_of_hasShare hv hw
  constructor
  · intro i u hi
    rcases i with _ | _ | i
    · obtain rfl := Option.some.inj hi
      refine ⟨hv, hv0, ?_⟩
      simp only [if_true]
      omega
    · obtain rfl := Option.some.inj hi
      refine ⟨hw, hw0, ?_⟩
      simp only [Nat.add_eq_zero_iff, one_ne_zero, and_false, if_false]
      omega
    · cases hi
  · intro b hb hb' i
    rw [hp]
    rcases i with _ | _ | i
    · simp only [if_true]
      split_ifs <;> simp <;> omega
    · simp only [Nat.add_eq_zero_iff, one_ne_zero, and_false, if_false]
      split_ifs <;> simp <;> omega
    · refine iff_of_false (by split_ifs <;> simp) ?_
      rintro ⟨u, hu, -⟩
      cases hu
  · intro b _ _
    exact ⟨_, hp b⟩

/-- A share of at most all buckets, up to one rounding, is not rounded past them. -/
theorem wholeBuckets_le {q : ℚ} (h : q ≤ 1 + sumSlack) : wholeBuckets q ≤ bucketCount := by
  by_contra hgt
  have hlo := lt_of_le_wholeBuckets (q := q) (k := 1001) (by norm_num) (by norm_num)
    (by unfold bucketCount at hgt; omega)
  unfold sumSlack at h
  norm_num at *
  linarith

/-- The whole buckets in two shares that add up to at most all of them do so too. -/
theorem wholeBuckets_add_le_bucketCount {p q : ℚ} (hp : 0 ≤ p) (hq : 0 ≤ q)
    (h : p + q ≤ 1 + sumSlack) : wholeBuckets p + wholeBuckets q ≤ bucketCount := by
  have hp1 : wholeBuckets p ≤ 1000 := wholeBuckets_le (by linarith)
  have hq1 : wholeBuckets q ≤ 1000 := wholeBuckets_le (by linarith)
  rcases le_or_gt (wholeBuckets q) 0 with hnone | hsome
  · have : wholeBuckets p + wholeBuckets q ≤ 1000 := by omega
    exact this
  · have hstop := wholeBuckets_add_le (b := 1000 - wholeBuckets q) h (by omega) (by omega)
      (by omega)
    have : wholeBuckets p + wholeBuckets q ≤ 1000 := by omega
    exact this

theorem check_multi_iff {vs : List Variant} : check bucketCount .multi vs = .ok () ↔
    3 ≤ vs.length ∧ ∃ total, totalShare bucketCount (.ofInt 0) vs = .ok total ∧
      total.gtInt bucketCount = false := by
  match vs with
  | [] => simp [check]
  | v :: rest =>
    simp only [check]
    by_cases hlen : (v :: rest).length < 3
    · rw [if_pos hlen]
      exact iff_of_false (by simp) fun h => by omega
    · rw [if_neg hlen, and_iff_right (not_lt.mp hlen)]
      cases totalShare bucketCount (.ofInt 0) (v :: rest) with
      | error e => simp
      | ok total => cases htotal : total.gtInt bucketCount <;> simp [htotal]

/-- Variants of a set that is no set of ranges, none of them with a negative size. -/
theorem exists_laidOut {a : Arrangement} {vs : List Variant} (ha : a ≠ .range)
    (hvs : ∀ v ∈ vs, v.Nonneg) (h : check bucketCount a vs = .ok ()) :
    ∃ start, LaidOut ⟨a, vs, bucketCount⟩ start := by
  have hnn : ∀ v ∈ vs, 0 ≤ v.size.boundary := fun v hv => boundary_nonneg (hvs v hv)
  cases a with
  | range => exact absurd rfl ha
  | multi =>
    obtain ⟨-, total, htotal, hle⟩ := check_multi_iff.mp h
    have hzero : (Floating.ofInt 0 : Double).toRat? = some 0 := by
      simpa using Double.toRat?_ofInt (k := 0) (by norm_num)
    obtain ⟨s, hs, -, hshare, hroom⟩ :=
      stackedSize_of_totalShare hvs (Or.inr ⟨0, hzero, le_rfl⟩) htotal hle
    obtain rfl := Option.some.inj (hzero.symm.trans hs)
    have hsize := hroom 0 le_rfl (by norm_num)
    exact ⟨_, laidOut_stacked (fun _ => rfl) hshare hnn (by simpa using hsize)⟩
  | rollout =>
    obtain ⟨v, rfl, hunit⟩ := check_rollout_iff.mp h
    obtain ⟨q, hq, hq0⟩ := hvs v (by simp)
    have hq1 := ((unitShare_iff hq).mp hunit).2
    have hshare : v.size.HasShare := ⟨q, hq, inRange_of_abs_le (by
      rw [abs_of_nonneg hq0]
      exact hq1.trans (by norm_num))⟩
    have hsize : stackedSize [v] ≤ bucketCount := by
      have hslack : 0 ≤ sumSlack := by unfold sumSlack; positivity
      have := wholeBuckets_le (q := q) (by linarith)
      simpa [stackedSize, Double.boundary, hq] using this
    exact ⟨_, laidOut_stacked (fun _ => rfl) (by simpa using hshare) hnn hsize⟩
  | single =>
    obtain ⟨v, w, rfl, hunit⟩ := check_single_iff.mp h
    obtain ⟨p, hp, hp0⟩ := hvs v (by simp)
    obtain ⟨q, hq, hq0⟩ := hvs w (by simp)
    have hsum := (sum_bounds_of_unitShare hp hq hunit).2
    have hslack := sumSlack_le_half
    have hv : v.size.HasShare := ⟨p, hp, inRange_of_abs_le (by
      rw [abs_of_nonneg hp0]
      linarith)⟩
    have hw : w.size.HasShare := ⟨q, hq, inRange_of_abs_le (by
      rw [abs_of_nonneg hq0]
      linarith)⟩
    have hsize : v.size.boundary + w.size.boundary ≤ bucketCount := by
      simpa [Double.boundary, hp, hq] using wholeBuckets_add_le_bucketCount hp0 hq0 hsum
    exact ⟨_, laidOut_pair hv hw (hnn v (by simp)) (hnn w (by simp)) hsize⟩

/-- All buckets there are. -/
def allBuckets : Finset ℤ :=
  (Finset.range bucketCount.toNat).map Nat.castEmbedding

theorem mem_allBuckets_iff {b : ℤ} : b ∈ allBuckets ↔ 0 ≤ b ∧ b < bucketCount := by
  simp only [allBuckets, Finset.mem_map, Finset.mem_range, Nat.castEmbedding_apply]
  constructor
  · rintro ⟨k, hk, rfl⟩
    omega
  · intro ⟨hb, hb'⟩
    exact ⟨b.toNat, by omega, Int.toNat_of_nonneg hb⟩

/-- The buckets that get their answer from a position. -/
def slice (set : VariantSet) (i : ℕ) : Finset ℤ :=
  allBuckets.filter fun b => set.position? b = .ok (some i)

theorem mem_slice_iff {set : VariantSet} {i : ℕ} {b : ℤ} : b ∈ set.slice i ↔
    (0 ≤ b ∧ b < bucketCount) ∧ set.position? b = .ok (some i) := by
  rw [slice, Finset.mem_filter, mem_allBuckets_iff]

theorem disjoint_slice (set : VariantSet) {i j : ℕ} (h : i ≠ j) :
    Disjoint (set.slice i) (set.slice j) := by
  refine Finset.disjoint_left.mpr fun b hi hj => h ?_
  have hposition := (mem_slice_iff.mp hi).2.symm.trans (mem_slice_iff.mp hj).2
  simpa using hposition

/-- No bucket is counted twice. -/
theorem sum_card_slice_le (set : VariantSet) (n : ℕ) :
    ∑ i ∈ Finset.range n, (set.slice i).card ≤ 1000 := by
  rw [← Finset.card_biUnion fun i _ j _ hij => set.disjoint_slice hij]
  have hsubset : (Finset.range n).biUnion set.slice ⊆ allBuckets :=
    Finset.biUnion_subset.mpr fun i _ => Finset.filter_subset _ _
  have hcard : allBuckets.card = 1000 := by
    rw [allBuckets, Finset.card_map, Finset.card_range]
    rfl
  exact (Finset.card_le_card hsubset).trans_eq hcard

section

variable {set : VariantSet} {start : ℕ → ℤ} {i : ℕ} {v : Variant} {b : ℤ}

theorem LaidOut.mem_slice (h : set.LaidOut start) (hi : set.variants[i]? = some v) :
    b ∈ set.slice i ↔ start i ≤ b ∧ b < start i + v.size.boundary := by
  obtain ⟨-, -, hlo, hhi⟩ := h.room i v hi
  rw [mem_slice_iff]
  constructor
  · rintro ⟨⟨hb, hb'⟩, hposition⟩
    obtain ⟨w, hw, hstretch⟩ := (h.owns b hb hb' i).mp hposition
    obtain rfl := Option.some.inj (hi.symm.trans hw)
    exact hstretch
  · intro hstretch
    have hb : 0 ≤ b ∧ b < bucketCount := by omega
    exact ⟨hb, (h.owns b hb.1 hb.2 i).mpr ⟨v, hi, hstretch⟩⟩

theorem card_of_stretch {s : Finset ℤ} {lower upper : ℤ} (hle : lower ≤ upper)
    (h : ∀ b, b ∈ s ↔ lower ≤ b ∧ b < upper) : (s.card : ℤ) = upper - lower := by
  have hstretch : s = Finset.Ico lower upper := by
    ext b
    rw [h, Finset.mem_Ico]
  rw [hstretch, Int.card_Ico]
  omega

theorem LaidOut.card_slice (h : set.LaidOut start) (hi : set.variants[i]? = some v) :
    (set.slice i).card = v.size.boundary := by
  obtain ⟨-, hn, -, -⟩ := h.room i v hi
  have hcard := card_of_stretch (by omega) fun b => h.mem_slice hi (b := b)
  rwa [add_sub_cancel_left] at hcard

theorem choose_of_mem_slice (hi : set.variants[i]? = some v) (hb : b ∈ set.slice i) :
    set.choose b = .ok v.name := by
  rw [choose, (mem_slice_iff.mp hb).2, Except.ok_bind]
  simp [hi]

/-- A bucket outside of all slices has no variant. -/
theorem LaidOut.choose_of_not_mem (h : set.LaidOut start) (hb : 0 ≤ b) (hb' : b < bucketCount)
    (hnone : ∀ i < set.variants.length, b ∉ set.slice i) : set.choose b = .ok "" := by
  obtain ⟨found, hfound⟩ := h.answered b hb hb'
  rw [choose, hfound, Except.ok_bind]
  cases found with
  | none => rfl
  | some i =>
    obtain ⟨v, hi, -⟩ := (h.owns b hb hb' i).mp hfound
    have hlen := (List.getElem?_eq_some_iff.mp hi).1
    exact absurd (mem_slice_iff.mpr ⟨⟨hb, hb'⟩, hfound⟩) (hnone i hlen)

end

theorem ofName?_ne_range {type : String} {a : Arrangement}
    (ht : type ∈ ["single_variant", "multi_variant", "feature_rollout"])
    (ha : Arrangement.ofName? type = some a) : a ≠ .range := by
  rintro rfl
  have hname : Arrangement.range.name = type := by simpa using List.find?_some ha
  subst hname
  revert ht
  decide

/-- Variants that are accepted, and none of which has a negative size, get exactly the whole buckets
in their shares, in stretches that have no bucket in common. -/
theorem ofType_slices {type : String} {vs : List Variant} {set : VariantSet}
    (ht : type ∈ ["single_variant", "multi_variant", "feature_rollout"])
    (hvs : ∀ v ∈ vs, v.Nonneg) (h : ofType type vs bucketCount = .ok set) :
    (∀ i v, vs[i]? = some v → ∃ n lower : ℤ, wholeShare v.size bucketCount = .ok n ∧
      (∀ b, b ∈ set.slice i ↔ lower ≤ b ∧ b < lower + n) ∧ (set.slice i).card = n) ∧
    (∀ i j, i ≠ j → Disjoint (set.slice i) (set.slice j)) ∧
    ∑ i ∈ Finset.range vs.length, (set.slice i).card ≤ 1000 ∧
    ∀ b, 0 ≤ b → b < bucketCount →
      (∀ i v, vs[i]? = some v → b ∈ set.slice i → set.choose b = .ok v.name) ∧
      ((∀ i < vs.length, b ∉ set.slice i) → set.choose b = .ok "") := by
  obtain ⟨a, ha, hcheck, rfl⟩ := ofType_eq_ok_iff.mp h
  obtain ⟨start, hlaid⟩ := exists_laidOut (ofName?_ne_range ht ha) hvs hcheck
  refine ⟨fun i v hi => ?_, fun i j => disjoint_slice _, sum_card_slice_le _ _,
    fun b hb hb' => ⟨fun i v hi => choose_of_mem_slice hi, hlaid.choose_of_not_mem hb hb'⟩⟩
  obtain ⟨hshare, hn, -, -⟩ := hlaid.room i v hi
  exact ⟨v.size.boundary, start i, wholeShare_of_hasShare hshare, fun b => hlaid.mem_slice hi,
    hlaid.card_slice hi⟩

/-- Three shares that are cut to 333 buckets each, though their rounded sum is all of them. -/
def threeThirds : List Variant :=
  ["a", "b", "c"].map fun name => ⟨name, .ofRat false (1 / 3), .ofInt 0, .ofInt 0⟩

theorem threeThirds_nonneg : ∀ v ∈ threeThirds, v.Nonneg := by
  have hsmall : |(1 / 3 : ℚ)| ≤ 2 ^ 200 := by norm_num
  have hthird : (Floating.ofRat false (1 / 3) : Double).toRat? =
      some (binary64.nearest (1 / 3)) := by
    rw [Floating.toRat?_ofRat, if_pos (Double.lt_overflowThreshold hsmall)]
  intro v hv
  obtain ⟨name, -, rfl⟩ := List.mem_map.mp hv
  exact ⟨_, hthird, Format.nearest_nonneg (by norm_num)⟩

theorem ofType_slices_threeThirds :
    ofType "multi_variant" threeThirds bucketCount = .ok ⟨.multi, threeThirds, bucketCount⟩ ∧
      (slice ⟨.multi, threeThirds, bucketCount⟩ 1).card = 333 := by
  have hset : ofType "multi_variant" threeThirds bucketCount =
      .ok ⟨.multi, threeThirds, bucketCount⟩ := by decide +kernel
  have hthird : wholeShare (.ofRat false (1 / 3)) bucketCount = .ok 333 := by decide +kernel
  obtain ⟨hslices, -⟩ := ofType_slices (by decide) threeThirds_nonneg hset
  obtain ⟨n, -, hn, -, hcard⟩ := hslices 1 _ rfl
  obtain rfl := Except.ok.inj (hthird.symm.trans hn)
  exact ⟨hset, by exact_mod_cast hcard⟩

end VariantSet
end SplitTest
