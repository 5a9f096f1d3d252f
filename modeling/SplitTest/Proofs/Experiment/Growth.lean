import SplitTest.Proofs.Experiment.Compiled
import SplitTest.Proofs.Experiment.Decision
import SplitTest.Proofs.VariantSet.Growth

/-! Growing the variants of an experiment never takes a request's variant away. -/
namespace SplitTest

/-- The same configuration with sizes that are no smaller. -/
structure Configuration.Grows (c d : Configuration) : Prop where
  others : { d with definition := { d.definition with variants := c.definition.variants } } = c
  variants : List.Forall₂ Variant.Grows c.definition.variants d.definition.variants

namespace Experiment

variable {x : Experiment} {set : VariantSet} {v : String}

theorem place_of_choose
    (hc : ∀ b, 0 ≤ b → b < 1000 → x.variantSet.choose b = .ok v → set.choose b = .ok v)
    {key : Value} {a : Assignment} (ha : a.variant = v) (h : x.place key = .ok a) :
    ({ x with variantSet := set } : Experiment).place key = .ok a := by
  unfold place at h ⊢
  split at h
  · next k =>
    obtain ⟨name, hname, rfl⟩ := Except.map_eq_ok_iff.mp h
    obtain rfl : name = v := ha
    rw [Except.mapError_eq_ok_iff] at hname
    have hkept := hc _ (x.bucket_nonneg k) (x.bucket_lt k) hname
    exact Except.map_eq_ok_iff.mpr ⟨name, Except.mapError_eq_ok_iff.mpr hkept, rfl⟩
  · cases h

/-- A request keeps its name when the variants change, if each bucket with that name keeps it. -/
theorem variant_of_choose
    (hc : ∀ b, 0 ≤ b → b < 1000 → x.variantSet.choose b = .ok v → set.choose b = .ok v)
    {now : Double} {args : Arguments} (h : x.variant now args = .ok v) :
    ({ x with variantSet := set } : Experiment).variant now args = .ok v := by
  obtain ⟨a, ha, hv⟩ := Except.map_eq_ok_iff.mp h
  refine Except.map_eq_ok_iff.mpr ⟨a, ?_, hv⟩
  -- Nothing that is settled without the bucket depends on the variants.
  have hsame : ({ x with variantSet := set } : Experiment).progress now args =
      x.progress now args := rfl
  rw [assign_eq_finish] at ha ⊢
  rw [hsame]
  cases hp : x.progress now args with
  | settled outcome =>
    rw [hp] at ha
    exact ha
  | toPlace key =>
    rw [hp] at ha
    exact place_of_choose hc hv ha

/-- Of two configurations of which one grew, the experiments differ in their variants alone. -/
theorem Compiled.eq_of_grows {c c' : Configuration} {x x' : Experiment} (h : Compiled c x)
    (hg : c.Grows c') (h' : Compiled c' x') : { x with variantSet := x'.variantSet } = x' := by
  rw [← hg.others] at h
  have hseed : x.bucketSeed = x'.bucketSeed := Except.ok.inj (h.seed.symm.trans h'.seed)
  have htargeting : x.targeting = x'.targeting :=
    Except.ok.inj (h.targeting.symm.trans h'.targeting)
  have hoverrides : x.overrides = x'.overrides :=
    Except.ok.inj (h.overrides.symm.trans h'.overrides)
  exact Experiment.ext (h.id.trans h'.id.symm) (h.name.trans h'.name.symm)
    (h.bucketKey.trans h'.bucketKey.symm) hseed (h.enabled.trans h'.enabled.symm)
    (h.startTs.trans h'.startTs.symm) (h.stopTs.trans h'.stopTs.symm) rfl htargeting hoverrides

private theorem rollout_ofName? : Arrangement.ofName? "feature_rollout" = some .rollout :=
  VariantSet.ofName?_name .rollout

private theorem single_ofName? : Arrangement.ofName? "single_variant" = some .single :=
  VariantSet.ofName?_name .single

/-- A request with a variant keeps it in a configuration that grew. -/
theorem variant_of_grows {c c' : Configuration} {x x' : Experiment}
    (hc : compile c = .ok x) (hc' : compile c' = .ok x')
    (ht : c.type = "feature_rollout" ∨ c.type = "single_variant") (hg : c.Grows c')
    (now : Double) (args : Arguments) {v : String} (hv : v ≠ "")
    (h : x.variant now args = .ok v) : x'.variant now args = .ok v := by
  rw [compile_eq_ok_iff] at hc hc'
  obtain ⟨a, ha, hcheck, hset⟩ := hc.exists_arrangement
  obtain ⟨a', ha', hcheck', hset'⟩ := hc'.exists_arrangement
  have htype : c'.type = c.type := by rw [← hg.others]
  obtain rfl : a' = a := by
    rw [htype, ha] at ha'
    exact (Option.some.inj ha').symm
  have hplace : a' = .rollout ∨ a' = .single := by
    rcases ht with h | h <;> rw [h] at ha
    · exact Or.inl (Option.some.inj (ha.symm.trans rollout_ofName?))
    · exact Or.inr (Option.some.inj (ha.symm.trans single_ofName?))
  rw [← hc.eq_of_grows hg hc']
  refine variant_of_choose (fun b hb hb' hname => ?_) h
  rw [hset] at hname
  rw [hset']
  exact VariantSet.choose_of_grows hplace hg.variants hcheck hcheck' hb hb' hv hname

/-- Two variants that grow toward each other. -/
def samplePair (first second : ℚ) : Configuration :=
  ⟨7, "banner", "", none, "", "single_variant", .ofInt 0, .ofInt 100,
    { Definition.empty with
      bucketSeed := "s"
      variants := [⟨"on", .ofRat false first, .zero, .zero⟩,
        ⟨"off", .ofRat false second, .zero, .zero⟩] }⟩

theorem variant_of_grows_samplePair :
    ∃ x x', compile (samplePair (1 / 10) (2 / 10)) = .ok x ∧
      compile (samplePair (3 / 10) (7 / 10)) = .ok x' ∧
      x.variant (.ofInt 5) [("user_id", .text "2")] = .ok "off" ∧
      x'.variant (.ofInt 5) [("user_id", .text "2")] = .ok "off" := by
  have ha : Except.Yields (·.variant (.ofInt 5) [("user_id", .text "2")] = .ok "off")
      (compile (samplePair (1 / 10) (2 / 10))) := by decide +kernel
  have hb : Except.Yields (fun _ => True) (compile (samplePair (3 / 10) (7 / 10))) := by
    decide +kernel
  obtain ⟨x, hx, hv⟩ := Except.yields_iff.mp ha
  obtain ⟨x', hx', -⟩ := Except.yields_iff.mp hb
  have hfirst : (Floating.ofRat false (1 / 10) : Double).le (.ofRat false (3 / 10)) = true := by
    decide +kernel
  have hsecond : (Floating.ofRat false (2 / 10) : Double).le (.ofRat false (7 / 10)) = true := by
    decide +kernel
  have hg : (samplePair (1 / 10) (2 / 10)).Grows (samplePair (3 / 10) (7 / 10)) :=
    ⟨rfl, .cons ⟨rfl, hfirst⟩ (.cons ⟨rfl, hsecond⟩ .nil)⟩
  exact ⟨x, x', hx, hx', hv, variant_of_grows hx hx' (Or.inr rfl) hg _ _ (by decide) hv⟩

end Experiment
end SplitTest
