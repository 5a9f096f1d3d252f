import SplitTest.Proofs.VariantSet.Boundary

/-! The rounded sum of shares, none of which is negative. It is no smaller than the sum of the whole
buckets in them, although each of those is rounded on its own. -/
namespace SplitTest

namespace Floating

variable {F : Format} {x y : Floating F}

/-- Zero, above it, or past all finite numbers. -/
def Nonneg (x : Floating F) : Prop :=
  x = infinity false ∨ ∃ q, x.toRat? = some q ∧ 0 ≤ q

theorem nonneg_ofRat [F.Proper] (s : Bool) {q : ℚ} (h : 0 ≤ q) :
    (ofRat s q : Floating F).Nonneg := by
  rcases lt_or_ge |q| F.overflowThreshold with hlt | hge
  · obtain ⟨f, hf, hv⟩ := exists_ofRat_eq (F := F) s hlt
    refine Or.inr ⟨F.nearest q, ?_, Format.nearest_nonneg h⟩
    rw [hf, toRat?, hv]
  · left
    rw [ofRat_eq_infinity s hge, decide_eq_false (not_lt.mpr h)]

theorem Nonneg.add [F.Proper] (hx : x.Nonneg) (hy : y.Nonneg) : (x.add y).Nonneg := by
  rcases hx with rfl | ⟨p, hp, hp0⟩
  · rcases hy with rfl | ⟨q, hq, -⟩
    · exact Or.inl rfl
    · obtain ⟨g, rfl, -⟩ := toRat?_eq_some_iff.mp hq
      exact Or.inl rfl
  · obtain ⟨f, rfl, rfl⟩ := toRat?_eq_some_iff.mp hp
    rcases hy with rfl | ⟨q, hq, hq0⟩
    · exact Or.inl rfl
    · obtain ⟨g, rfl, rfl⟩ := toRat?_eq_some_iff.mp hq
      exact nonneg_ofRat _ (add_nonneg hp0 hq0)

/-- A finite sum comes from finite terms. -/
theorem Nonneg.exists_terms [F.Proper] (hx : x.Nonneg) (hy : y.Nonneg) {s : ℚ}
    (h : (x.add y).toRat? = some s) : ∃ p q, x.toRat? = some p ∧ y.toRat? = some q ∧ 0 ≤ p ∧
      0 ≤ q ∧ s = F.nearest (p + q) := by
  rcases hx with rfl | ⟨p, hp, hp0⟩
  · rcases hy with rfl | ⟨q, hq, -⟩
    · cases h
    · obtain ⟨g, rfl, -⟩ := toRat?_eq_some_iff.mp hq
      cases h
  · rcases hy with rfl | ⟨q, hq, hq0⟩
    · obtain ⟨f, rfl, -⟩ := toRat?_eq_some_iff.mp hp
      cases h
    · refine ⟨p, q, hp, hq, hp0, hq0, ?_⟩
      rw [toRat?_add hp hq] at h
      split_ifs at h
      exact (Option.some.inj h).symm

theorem nearest_of_toRat? [F.Proper] {q : ℚ} (h : x.toRat? = some q) : F.nearest q = q := by
  obtain ⟨f, -, rfl⟩ := toRat?_eq_some_iff.mp h
  exact f.nearest_toRat

end Floating

theorem bucketCount_eq : bucketCount = 1000 := rfl

/-- A size that is finite and not below zero. -/
def Variant.Nonneg (v : Variant) : Prop :=
  ∃ q, v.size.toRat? = some q ∧ 0 ≤ q

namespace VariantSet

variable {v : Variant} {vs : List Variant} {start total : Double}

theorem nonneg_mul_thousand (h : v.Nonneg) : (v.size.mul (.ofInt 1000)).Nonneg := by
  obtain ⟨q, hq, hq0⟩ := h
  obtain ⟨f, hf, rfl⟩ := Floating.toRat?_eq_some_iff.mp hq
  have hcount : (Floating.ofInt 1000 : Double).toRat? = some ((1000 : ℤ) : ℚ) :=
    Double.toRat?_ofInt (by norm_num)
  obtain ⟨g, hg, hv⟩ := Floating.toRat?_eq_some_iff.mp hcount
  rw [hf, hg]
  refine Floating.nonneg_ofRat _ (mul_nonneg hq0 ?_)
  rw [hv]
  norm_num

theorem boundary_nonneg (h : v.Nonneg) : 0 ≤ v.size.boundary := by
  obtain ⟨q, hq, hq0⟩ := h
  rw [Double.boundary, hq, Option.getD_some]
  exact truncate_nonneg (Format.nearest_nonneg (by positivity))

/-- The whole buckets in a share are no more than the share. -/
theorem boundary_le_share {x : Double} {q s : ℚ} (hq : x.toRat? = some q) (hq0 : 0 ≤ q)
    (hs : (x.mul (.ofInt 1000)).toRat? = some s) : x.HasShare ∧ (x.boundary : ℚ) ≤ s := by
  rw [toRat?_mul_thousand hq] at hs
  split_ifs at hs with hr
  obtain rfl := Option.some.inj hs
  refine ⟨⟨q, hq, hr⟩, ?_⟩
  have hn : 0 ≤ binary64.nearest (q * 1000) := Format.nearest_nonneg (by positivity)
  rw [Double.boundary, hq, Option.getD_some, wholeBuckets, truncate_of_nonneg hn]
  exact Int.floor_le _

/-- What a sum that leaves room says of its terms: all are finite, and the whole buckets in them fit
beside those that the sum starts with. -/
theorem stackedSize_of_totalShare (hvs : ∀ v ∈ vs, v.Nonneg) (hstart : start.Nonneg)
    (h : totalShare bucketCount start vs = .ok total) (hle : total.gtInt bucketCount = false) :
    ∃ s, start.toRat? = some s ∧ s ≤ 1000 ∧ (∀ v ∈ vs, v.size.HasShare) ∧
      ∀ k : ℤ, 0 ≤ k → (k : ℚ) ≤ s → k + stackedSize vs ≤ bucketCount := by
  induction vs generalizing start with
  | nil =>
    obtain rfl := Except.ok.inj h
    rcases hstart with rfl | ⟨s, hs, -⟩
    · cases hle
    · obtain ⟨f, rfl, rfl⟩ := Floating.toRat?_eq_some_iff.mp hs
      have hs1000 : f.toRat ≤ 1000 := by simpa [Floating.gtInt, bucketCount] using hle
      refine ⟨f.toRat, rfl, hs1000, by simp, fun k _ hk => ?_⟩
      have hk1000 : k ≤ bucketCount := by
        rw [bucketCount_eq]
        exact_mod_cast hk.trans hs1000
      simpa [stackedSize] using hk1000
  | cons v rest ih =>
    rw [List.forall_mem_cons] at hvs
    obtain ⟨hv, hrest⟩ := hvs
    have hpart := nonneg_mul_thousand hv
    rw [totalShare, share_bucketCount, Except.ok_bind] at h
    obtain ⟨s', hs', hs1000, hshares, hroom⟩ := ih hrest (hstart.add hpart) h
    obtain ⟨s, x, hs, hx, hs0, hx0, rfl⟩ := hstart.exists_terms hpart hs'
    obtain ⟨q, hq, hq0⟩ := hv
    obtain ⟨hshare, hn⟩ := boundary_le_share hq hq0 hx
    have hsle : s ≤ binary64.nearest (s + x) :=
      (Floating.nearest_of_toRat? hs).ge.trans (Format.nearest_mono (by linarith))
    have hxle : x ≤ binary64.nearest (s + x) :=
      (Floating.nearest_of_toRat? hx).ge.trans (Format.nearest_mono (by linarith))
    refine ⟨s, hs, hsle.trans hs1000, List.forall_mem_cons.mpr ⟨hshare, hshares⟩, ?_⟩
    intro k hk0 hk
    have hn0 := boundary_nonneg ⟨q, hq, hq0⟩
    have hk1000 : k ≤ 1000 := by exact_mod_cast (hk.trans hsle).trans hs1000
    have hn1000 : v.size.boundary ≤ 1000 := by exact_mod_cast (hn.trans hxle).trans hs1000
    -- Whole numbers of buckets are added without rounding.
    have hexact := Format.nearest_intCast (F := binary64) (k := k + v.size.boundary)
      (by change _ ≤ 2 ^ 53; omega) (by decide)
    have hsum : ((k + v.size.boundary : ℤ) : ℚ) ≤ binary64.nearest (s + x) := by
      refine hexact.ge.trans (Format.nearest_mono ?_)
      push_cast
      linarith
    have := hroom (k + v.size.boundary) (by omega) hsum
    simpa [stackedSize, add_assoc] using this

end VariantSet
end SplitTest
