import SplitTest.Proofs.Experiment.Service

/-! Which decision settles a request: first the window, then the key of the request, the overrides
in the order of the document, the targeting, and last the bucket. Nothing behind it is looked at. -/
namespace SplitTest

/-- What the predicate of a document answers for a request. -/
def Predicate.Says (document : Value) (args : Arguments) (answer : Except EvaluationError Bool) :
    Prop :=
  ∃ p, compile document = .ok p ∧ p.matchesRequest args = answer

namespace Configuration

variable (c : Configuration) (now : Double) (args : Arguments)

/-- The experiment is enabled, and the moment is in its window. -/
def On : Prop :=
  c.isEnabled = true ∧ c.startTs.le now = true ∧ now.lt c.stopTs = true

/-- The override documents of all entries, in order. -/
def overrides : List (String × Value) :=
  c.definition.overrides.flatten

/-- The value that places a request. -/
def keyIn : Value :=
  args.lowered.get (Experiment.bucketKeyOf c)

/-- What the targeting answers for a request; none, or an empty one, takes everyone. -/
def TargetingSays (answer : Except EvaluationError Bool) : Prop :=
  ∃ p, Experiment.targetingOf c.definition.targeting = .ok p ∧ p.matchesRequest args = answer

/-- Overrides that answer no, and then one with a name and an answer. -/
def FirstOverride (answer : Except EvaluationError Bool) (name : String) : Prop :=
  Reached (fun o => Predicate.Says o.2 args (.ok false))
    (fun o => o.1 = name ∧ Predicate.Says o.2 args answer) c.overrides

/-- What a key that is left to place gets: only texts have a bucket. -/
inductive Places (key : Value) : Except RequestError String → Prop
  | keyType (h : ∀ text, key ≠ .text text) : Places key (.error (.keyType key.typeName))
  | bucket {text seed : String} {set : VariantSet} (hkey : key = .text text)
      (hseed : Experiment.seedOf c = .ok seed)
      (hset : VariantSet.ofType c.type c.definition.variants bucketCount = .ok set) :
      Places key ((set.choose (bucketOf seed text)).mapError .share)

/-- What a request gets by the targeting, or else by its key. -/
inductive Targets : Except RequestError String → Prop
  | failed {e : EvaluationError} (h : c.TargetingSays args (.error e)) :
      Targets (.error (.evaluation e))
  | missed (h : c.TargetingSays args (.ok false)) : Targets (.ok "")
  | hit {outcome : Except RequestError String} (h : c.TargetingSays args (.ok true))
      (hplaces : c.Places (c.keyIn args) outcome) : Targets outcome

/-- What a request gets by an override, or else by what comes behind all of them. -/
inductive Overrides : Except RequestError String → Prop
  | failed {name : String} {e : EvaluationError} (h : c.FirstOverride args (.error e) name) :
      Overrides (.error (.evaluation e))
  | forced {name : String} (h : c.FirstOverride args (.ok true) name) : Overrides (.ok name)
  | free {outcome : Except RequestError String}
      (h : ∀ o ∈ c.overrides, Predicate.Says o.2 args (.ok false))
      (htargets : c.Targets args outcome) : Overrides outcome

/-- What a request gets at a moment. -/
inductive Decides : Except RequestError String → Prop
  | off (h : ¬ c.On now) : Decides (.ok "")
  | keyMissing (h : c.On now) (hkey : (c.keyIn args).isMissing = true) :
      Decides (.error (.missingKey c.name (Experiment.bucketKeyOf c)))
  | keyed {outcome : Except RequestError String} (h : c.On now)
      (hkey : (c.keyIn args).isMissing = false) (hoverrides : c.Overrides args outcome) :
      Decides outcome

end Configuration

namespace Experiment

variable {c : Configuration} {x : Experiment} {now : Double} {args : Arguments}

theorem firstMatch_eq_some_iff {overrides : List Override} {name : String} :
    firstMatch args overrides = .ok (some name) ↔
      Reached (fun o => o.2.evaluate args = .ok false)
        (fun o => o.1 = name ∧ o.2.evaluate args = .ok true) overrides := by
  induction overrides with
  | nil => exact iff_of_false (by simp [firstMatch]) not_reached_nil
  | cons o rest ih =>
    rw [reached_cons_iff, ← ih, firstMatch]
    cases o.2.evaluate args with
    | error e => simp
    | ok hit => cases hit <;> simp

theorem firstMatch_eq_error_iff {overrides : List Override} {e : EvaluationError} :
    firstMatch args overrides = .error e ↔
      Reached (fun o => o.2.evaluate args = .ok false) (fun o => o.2.evaluate args = .error e)
        overrides := by
  induction overrides with
  | nil => exact iff_of_false (by simp [firstMatch]) not_reached_nil
  | cons o rest ih =>
    rw [reached_cons_iff, ← ih, firstMatch]
    cases o.2.evaluate args with
    | error e' => simp
    | ok hit => cases hit <;> simp

namespace Compiled

/-- Overrides are compiled one by one, and their order is kept. -/
theorem forall₂_overrides (h : Compiled c x) :
    List.Forall₂ (fun entry o => entry.1 = o.1 ∧ Predicate.compile entry.2 = .ok o.2)
      c.overrides x.overrides.flatten := by
  have hentries := (forall₂_of_mapM h.overrides).imp fun _ _ => forall₂_of_mapM
  refine (List.rel_flatten hentries).imp fun entry o ho => ?_
  obtain ⟨p, hp, ho⟩ := Except.bind_eq_ok_iff.mp ho
  obtain rfl := Except.ok.inj ho
  exact ⟨rfl, hp⟩

theorem says_iff {document : Value} {p : Predicate} (h : Predicate.compile document = .ok p)
    {answer : Except EvaluationError Bool} :
    Predicate.Says document args answer ↔ p.evaluate args.lowered = answer :=
  Except.exists_ok_iff h

theorem targetingSays_iff (h : Compiled c x) {answer : Except EvaluationError Bool} :
    c.TargetingSays args answer ↔ x.targeting.evaluate args.lowered = answer :=
  Except.exists_ok_iff h.targeting

theorem unforced_iff (h : Compiled c x) : x.overrideFor args.lowered = .ok none ↔
    ∀ o ∈ c.overrides, Predicate.Says o.2 args (.ok false) := by
  unfold overrideFor
  rw [firstMatch_none_iff]
  exact (forall_iff_of_forall₂ h.forall₂_overrides fun _ _ ho => says_iff ho.2).symm

theorem firstOverride_iff (h : Compiled c x) {answer : Except EvaluationError Bool}
    {name : String} : c.FirstOverride args answer name ↔
      Reached (fun o => o.2.evaluate args.lowered = .ok false)
        (fun o => o.1 = name ∧ o.2.evaluate args.lowered = answer) x.overrides.flatten := by
  apply reached_iff_of_forall₂ h.forall₂_overrides
  · intro _ _ ho
    exact says_iff ho.2
  · intro _ _ ho
    rw [ho.1, says_iff ho.2]

theorem forced_iff (h : Compiled c x) {name : String} :
    x.overrideFor args.lowered = .ok (some name) ↔ c.FirstOverride args (.ok true) name := by
  unfold overrideFor
  rw [firstMatch_eq_some_iff, h.firstOverride_iff]

theorem overrideFailed_iff (h : Compiled c x) {e : EvaluationError} :
    x.overrideFor args.lowered = .error e ↔ ∃ name, c.FirstOverride args (.error e) name := by
  unfold overrideFor
  simp only [firstMatch_eq_error_iff, h.firstOverride_iff, exists_reached_iff]

theorem on_iff (h : Compiled c x) : x.isEnabled now = true ↔ c.On now := by
  unfold isEnabled Configuration.On
  rw [h.enabled, h.startTs, h.stopTs, Bool.and_eq_true, Bool.and_eq_true, and_assoc]

theorem keyIn_eq (h : Compiled c x) : args.lowered.get x.bucketKey = c.keyIn args := by
  rw [h.bucketKey, Configuration.keyIn]

theorem place_text (x : Experiment) (text : String) : (x.place (.text text)).map (·.variant) =
    (x.variantSet.choose (x.bucket text)).mapError .share := by
  show Except.map _ (Except.map _ _) = _
  cases x.variantSet.choose (x.bucket text) <;> rfl

theorem place_of_ne_text {key : Value} (hkey : ∀ text, key ≠ .text text) :
    x.place key = .error (.keyType key.typeName) := by
  unfold place
  split
  · next text => exact absurd rfl (hkey text)
  · rfl

/-- A key is placed by the seed and the variants of the configuration. -/
theorem places_iff (h : Compiled c x) {key : Value} {outcome : Except RequestError String} :
    (x.place key).map (·.variant) = outcome ↔ c.Places key outcome := by
  constructor
  · rintro rfl
    by_cases htext : ∃ text, key = .text text
    · obtain ⟨text, rfl⟩ := htext
      rw [place_text]
      exact .bucket rfl h.seed h.variantSet
    · have hkey := not_exists.mp htext
      rw [place_of_ne_text hkey]
      exact .keyType hkey
  · intro hplaces
    cases hplaces with
    | keyType hkey =>
      rw [place_of_ne_text hkey]
      rfl
    | bucket hkey hseed hset =>
      obtain rfl := Except.ok.inj (h.seed.symm.trans hseed)
      obtain rfl := Except.ok.inj (h.variantSet.symm.trans hset)
      rw [hkey, place_text]
      rfl

theorem targets_iff (h : Compiled c x) (hn : x.overrideFor args.lowered = .ok none)
    {outcome : Except RequestError String} :
    (x.assignFor args.lowered (c.keyIn args)).map (·.variant) = outcome ↔
      c.Targets args outcome := by
  rw [assignFor_eq_finish, progressFor, hn]
  constructor
  · rintro rfl
    cases ht : x.targeting.evaluate args.lowered with
    | error e => exact .failed (h.targetingSays_iff.mpr ht)
    | ok hit =>
      have hsays := h.targetingSays_iff.mpr ht
      cases hit with
      | false => exact .missed hsays
      | true => exact .hit hsays (h.places_iff.mp rfl)
  · intro htargets
    cases htargets with
    | failed hsays => rw [h.targetingSays_iff.mp hsays]; rfl
    | missed hsays => rw [h.targetingSays_iff.mp hsays]; rfl
    | hit hsays hplaces =>
      rw [h.targetingSays_iff.mp hsays]
      exact h.places_iff.mpr hplaces

theorem overrides_iff (h : Compiled c x) {outcome : Except RequestError String} :
    (x.assignFor args.lowered (c.keyIn args)).map (·.variant) = outcome ↔
      c.Overrides args outcome := by
  constructor
  · rintro rfl
    cases ho : x.overrideFor args.lowered with
    | error e =>
      obtain ⟨name, hname⟩ := h.overrideFailed_iff.mp ho
      rw [assignFor_eq_finish, progressFor, ho]
      exact .failed hname
    | ok found =>
      cases found with
      | none => exact .free (h.unforced_iff.mp ho) ((h.targets_iff ho).mp rfl)
      | some name =>
        rw [assignFor_eq_finish, progressFor, ho]
        exact .forced (h.forced_iff.mp ho)
  · intro hoverrides
    cases hoverrides with
    | failed hname =>
      rw [assignFor_eq_finish, progressFor, h.overrideFailed_iff.mpr ⟨_, hname⟩]
      rfl
    | forced hname =>
      rw [assignFor_eq_finish, progressFor, h.forced_iff.mpr hname]
      rfl
    | free hfree htargets => exact (h.targets_iff (h.unforced_iff.mpr hfree)).mpr htargets

theorem decides_iff (h : Compiled c x) {outcome : Except RequestError String} :
    x.variant now args = outcome ↔ c.Decides now args outcome := by
  rw [variant, assign_eq_finish, progress, h.keyIn_eq]
  constructor
  · rintro rfl
    split_ifs with hon hkey
    · rw [h.name, h.bucketKey]
      exact .keyMissing (h.on_iff.mp hon) hkey
    · rw [← assignFor_eq_finish]
      exact .keyed (h.on_iff.mp hon) (Bool.eq_false_of_not_eq_true hkey) (h.overrides_iff.mp rfl)
    · exact .off (fun hc => hon (h.on_iff.mpr hc))
  · intro hdecides
    cases hdecides with
    | off hoff =>
      have hon := h.on_iff.not.mpr hoff
      rw [if_neg hon]
      rfl
    | keyMissing hon hkey =>
      rw [if_pos (h.on_iff.mpr hon), if_pos hkey, h.name, h.bucketKey]
      rfl
    | keyed hon hkey hoverrides =>
      rw [if_pos (h.on_iff.mpr hon), hkey, ← h.overrides_iff.mpr hoverrides,
        assignFor_eq_finish]
      rfl

end Compiled

/-- A name that a bucket gets is that of a variant. -/
theorem exists_variant_of_choose {set : VariantSet} {b : Int} {name : String}
    (h : set.choose b = .ok name) (hname : name ≠ "") : ∃ v ∈ set.variants, v.name = name := by
  unfold VariantSet.choose at h
  obtain ⟨found, -, h⟩ := Except.bind_eq_ok_iff.mp h
  cases found with
  | none =>
    obtain rfl := Except.ok.inj h
    exact absurd rfl hname
  | some i =>
    obtain rfl := Except.ok.inj h
    cases hi : set.variants[i]? with
    | none =>
      rw [hi] at hname
      exact absurd rfl hname
    | some v => exact ⟨v, List.mem_of_getElem? hi, by simp⟩

/-- A name that a request gets is that of its first override, or that of a declared variant. -/
theorem name_of_decides {name : String} (h : c.Decides now args (.ok name)) (hname : name ≠ "") :
    c.FirstOverride args (.ok true) name ∨ ∃ v ∈ c.definition.variants, v.name = name := by
  cases h with
  | off => exact absurd rfl hname
  | keyed _ _ hoverrides =>
    cases hoverrides with
    | forced h => exact Or.inl h
    | free _ htargets =>
      right
      cases htargets with
      | missed => exact absurd rfl hname
      | hit _ hplaces =>
        generalize houtcome : Except.ok name = outcome at hplaces
        cases hplaces with
        | keyType => cases houtcome
        | bucket _ _ hset =>
          obtain ⟨_, _, _, rfl⟩ := VariantSet.ofType_eq_ok_iff.mp hset
          exact exists_variant_of_choose (Except.mapError_eq_ok_iff.mp houtcome.symm) hname

/-- A request gets what the first decision that applies to it says. What comes behind that one has
no part in it: not even an override that cannot be evaluated. -/
theorem variant_eq_iff_decides (h : compile c = .ok x) (now : Double) (args : Arguments) :
    (∀ outcome, x.variant now args = outcome ↔ c.Decides now args outcome) ∧
      ∀ name, x.variant now args = .ok name → name ≠ "" →
        c.FirstOverride args (.ok true) name ∨ ∃ v ∈ c.definition.variants, v.name = name := by
  have hc := compile_eq_ok_iff.mp h
  constructor
  · intro outcome
    exact hc.decides_iff
  · intro name hvariant hname
    exact name_of_decides (hc.decides_iff.mp hvariant) hname

/-- A test on the field `n` with a threshold that is past all doubles. -/
def testPastDoubles : Value :=
  .object [(.text "GT", .object [(.text "field", .text "n"), (.text "value", .int (10 ^ 400))])]

/-- Three overrides, one that never holds, one that always does, and one that fails on numbers. -/
def threeOverrides : Configuration :=
  ⟨7, "banner", "", none, "", "feature_rollout", .ofInt 0, .ofInt 100,
    { Definition.empty with
      variants := [⟨"on", .ofRat false (1 / 2), .zero, .zero⟩]
      targeting := testPastDoubles
      overrides := [[("never", .object [(.text "OVERRIDE", .bool false)]),
        ("always", .object [(.text "OVERRIDE", .bool true)])], [("broken", testPastDoubles)]] }⟩

/-- The key of the request is no text, and its number cannot be compared. -/
theorem variant_eq_iff_decides_threeOverrides :
    ∃ x, compile threeOverrides = .ok x ∧
      threeOverrides.Decides (.ofInt 5) [("user_id", .int 1), ("n", .int 1)] (.ok "always") ∧
      threeOverrides.FirstOverride [("user_id", .int 1), ("n", .int 1)] (.ok true) "always" := by
  have hvariant : Except.Yields
      (fun x => x.variant (.ofInt 5) [("user_id", .int 1), ("n", .int 1)] = .ok "always")
      (compile threeOverrides) := by decide +kernel
  obtain ⟨x, hx, hv⟩ := Except.yields_iff.mp hvariant
  obtain ⟨hdecides, hname⟩ :=
    variant_eq_iff_decides hx (.ofInt 5) [("user_id", .int 1), ("n", .int 1)]
  refine ⟨x, hx, (hdecides _).mp hv, (hname _ hv (by decide)).resolve_right ?_⟩
  decide

end Experiment
end SplitTest
