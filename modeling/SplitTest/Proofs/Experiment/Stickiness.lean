import SplitTest.Proofs.Experiment.Compiled
import SplitTest.Proofs.Experiment.Decision

/-! Sticky assignments: whatever else is changed in an experiment, a request that has a variant by
its bucket before and after has the same one. -/
namespace SplitTest.Experiment

/-- A variant that no override forces is the one of the bucket. -/
theorem choose_of_variant {x : Experiment} {now : Double} {args : Arguments} {key v : String}
    (hkey : args.lowered.get x.bucketKey = .text key)
    (hfree : ∀ forced, x.overrideFor args.lowered ≠ .ok (some forced))
    (h : x.variant now args = .ok v) (hv : v ≠ "") :
    x.variantSet.choose (x.bucket key) = .ok v := by
  obtain ⟨a, ha, rfl⟩ := Except.map_eq_ok_iff.mp h
  have hdecided := x.assign_decided now args
  rw [ha] at hdecided
  cases hdecided with
  | off | missed => exact absurd rfl hv
  | forced _ _ ho => exact absurd ho (hfree _)
  | placed _ _ _ _ hp =>
    rw [hkey] at hp
    obtain ⟨name, hname, rfl⟩ := Except.map_eq_ok_iff.mp hp
    exact Except.mapError_eq_ok_iff.mp hname

/-- Of two experiments with the same seed, bucketing key, type and variants, both give a request
with the same key the same variant, if each gives it one and no override forces it. -/
theorem variant_sticky {c c' : Configuration} {x x' : Experiment} (hc : compile c = .ok x)
    (hc' : compile c' = .ok x') (hseed : x.bucketSeed = x'.bucketSeed)
    (hbucket : x.bucketKey = x'.bucketKey) (htype : c.type = c'.type)
    (hvariants : c.definition.variants = c'.definition.variants)
    {now now' : Double} {args args' : Arguments} {key v v' : String}
    (hkey : args.lowered.get x.bucketKey = .text key)
    (hkey' : args'.lowered.get x.bucketKey = .text key)
    (hfree : ∀ forced, x.overrideFor args.lowered ≠ .ok (some forced))
    (hfree' : ∀ forced, x'.overrideFor args'.lowered ≠ .ok (some forced))
    (h : x.variant now args = .ok v) (h' : x'.variant now' args' = .ok v')
    (hv : v ≠ "") (hv' : v' ≠ "") : v = v' := by
  have hset : x.variantSet = x'.variantSet := by
    have hx := (compile_eq_ok_iff.mp hc).variantSet
    have hx' := (compile_eq_ok_iff.mp hc').variantSet
    rw [htype, hvariants] at hx
    exact Except.ok.inj (hx.symm.trans hx')
  have hsame : x.bucket key = x'.bucket key := by
    unfold bucket
    rw [hseed]
  rw [hbucket] at hkey'
  have hchoose := choose_of_variant hkey hfree h hv
  have hchoose' := choose_of_variant hkey' hfree' h' hv'
  rw [hset, hsame] at hchoose
  exact Except.ok.inj (hchoose.symm.trans hchoose')

/-- Two halves, with a targeting and a window that may be edited. -/
def halves (targeting : Value) (start stop : Int) : Configuration :=
  ⟨7, "banner", "", none, "", "single_variant", .ofInt start, .ofInt stop,
    { Definition.empty with
      bucketSeed := "s"
      variants := [⟨"on", .ofRat false (1 / 2), .zero, .zero⟩,
        ⟨"off", .ofRat false (1 / 2), .zero, .zero⟩]
      targeting }⟩

def onlyGermans : Value :=
  .object [(.text "EQ", .object [(.text "field", .text "country"), (.text "value", .text "DE")])]

theorem variant_sticky_retargeted :
    ∃ x x', compile (halves .null 0 100) = .ok x ∧ compile (halves onlyGermans 50 200) = .ok x' ∧
      x.variant (.ofInt 5) [("user_id", .text "2")] = .ok "off" ∧
      x'.variant (.ofInt 150) [("Country", .text "DE"), ("USER_ID", .text "2")] = .ok "off" := by
  have hplain : Except.Yields (fun x => x.bucketSeed = "s" ∧ x.bucketKey = "user_id" ∧
      x.overrideFor (Arguments.lowered [("user_id", .text "2")]) = .ok none ∧
      x.variant (.ofInt 5) [("user_id", .text "2")] = .ok "off")
      (compile (halves .null 0 100)) := by decide +kernel
  have hedited : Except.Yields (fun x => x.bucketSeed = "s" ∧ x.bucketKey = "user_id" ∧
      x.overrideFor (Arguments.lowered [("Country", .text "DE"), ("USER_ID", .text "2")]) =
        .ok none ∧
      Except.Yields (· ≠ "")
        (x.variant (.ofInt 150) [("Country", .text "DE"), ("USER_ID", .text "2")]))
      (compile (halves onlyGermans 50 200)) := by decide +kernel
  obtain ⟨x, hx, hseed, hbucket, ho, hv⟩ := Except.yields_iff.mp hplain
  obtain ⟨x', hx', hseed', hbucket', ho', hv'⟩ := Except.yields_iff.mp hedited
  obtain ⟨v', hv', hne⟩ := Except.yields_iff.mp hv'
  have hkey : (Arguments.lowered [("user_id", .text "2")]).get x.bucketKey = .text "2" := by
    rw [hbucket]
    rfl
  have hkey' : (Arguments.lowered [("Country", .text "DE"), ("USER_ID", .text "2")]).get
      x.bucketKey = .text "2" := by
    rw [hbucket]
    rfl
  have hsame : "off" = v' := variant_sticky hx hx' (hseed.trans hseed'.symm)
    (hbucket.trans hbucket'.symm) rfl rfl hkey hkey' (by simp [ho]) (by simp [ho']) hv hv'
    (by decide) hne
  exact ⟨x, x', hx, hx', hv, hsame ▸ hv'⟩

end SplitTest.Experiment
