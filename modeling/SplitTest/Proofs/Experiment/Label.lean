import SplitTest.Proofs.Assoc
import SplitTest.Proofs.Experiment.Compiled
import SplitTest.Proofs.Text.Lowercase

/-! Labels of requests. A label looks for the argument that places a request under the key as it is
spelled in the experiment, while variants are chosen by names in lower case: the two come to the
same argument if the value that is matched stands under the key itself. -/
namespace SplitTest

/-- All values are texts. -/
def Arguments.AreTexts (args : Arguments) : Prop :=
  ∀ arg ∈ args, ∃ s, arg.2 = .text s

theorem Arguments.exists_of_find?_lowered {args : Arguments} {key : String} {v : Value}
    (h : Assoc.find? key args.lowered = some v) :
    ∃ arg ∈ args, lowercase arg.1 = key ∧ arg.2 = v := by
  rw [lowered, Assoc.find?_ofList] at h
  have hmem := List.mem_reverse.mp (Assoc.mem_of_find? h)
  obtain ⟨arg, harg, heq⟩ := List.mem_map.mp hmem
  exact ⟨arg, harg, Prod.mk.inj heq⟩

theorem Arguments.find?_lowered_eq_none {args : Arguments} {key : String}
    (h : Assoc.find? key args.lowered = none) : ∀ arg ∈ args, lowercase arg.1 ≠ key := by
  intro arg harg heq
  have hkeys : key ∉ args.lowered.map (·.1) := by
    rw [← Assoc.find?_isSome_iff, h]
    simp
  apply hkeys
  rw [lowered, Assoc.keys_ofList, List.mem_eraseDups, List.map_map]
  exact List.mem_map.mpr ⟨arg, harg, heq⟩

namespace Experiment

variable {c : Configuration} {x : Experiment} {args : Arguments}

theorem Compiled.lowercase_bucketKey (h : Compiled c x) : lowercase x.bucketKey = x.bucketKey := by
  rw [h.bucketKey, bucketKeyOf, lowercase_lowercase]

/-- The text of a label. -/
def labelText (x : Experiment) (s : String) : String :=
  x.name ++ ":" ++ x.bucketKey ++ ":" ++ s

theorem labelText_injective (x : Experiment) : Function.Injective x.labelText := fun s t h => by
  unfold labelText at h
  simpa using h

theorem labelText_ne_empty (x : Experiment) (s : String) : x.labelText s ≠ "" := by
  unfold labelText
  simp

/-- A label tells the argument that a variant is chosen by: its name and value after the name of the
experiment, or nothing if there is no such argument. -/
structure Labels (x : Experiment) (args : Arguments) (label : String) : Prop where
  found : ∀ s, Assoc.find? x.bucketKey args.lowered = some (.text s) → label = x.labelText s
  missing : Assoc.find? x.bucketKey args.lowered = none → label = ""

/-- The label of a request is given by the argument under the key itself. -/
theorem requestLabel_of_areTexts (htexts : args.AreTexts) :
    (∃ s, (x.bucketKey, .text s) ∈ args ∧ x.requestLabel args = .ok (x.labelText s)) ∨
      (∀ arg ∈ args, arg.1 ≠ x.bucketKey) ∧ x.requestLabel args = .ok "" := by
  unfold requestLabel
  cases hfind : Assoc.find? x.bucketKey args with
  | none =>
    right
    refine ⟨fun arg harg heq => ?_, rfl⟩
    have hsome := Assoc.find?_isSome_iff.mpr (List.mem_map.mpr ⟨arg, harg, heq⟩)
    simp [hfind] at hsome
  | some v =>
    left
    have hmem := Assoc.mem_of_find? hfind
    obtain ⟨s, rfl⟩ : ∃ s, v = .text s := htexts _ hmem
    exact ⟨s, hmem, rfl⟩

/-- The value of the argument that a variant is chosen by stands under the key itself. -/
def Spelled (x : Experiment) (args : Arguments) : Prop :=
  ∀ v, Assoc.find? x.bucketKey args.lowered = some v → (x.bucketKey, v) ∈ args

theorem spelled_of_names
    (h : ∀ arg ∈ args, lowercase arg.1 = x.bucketKey → arg.1 = x.bucketKey) : x.Spelled args := by
  intro v hv
  obtain ⟨arg, harg, hkey, rfl⟩ := Arguments.exists_of_find?_lowered hv
  rwa [← h arg harg hkey]

theorem exists_text_of_find?_lowered (htexts : args.AreTexts) {v : Value}
    (h : Assoc.find? x.bucketKey args.lowered = some v) : ∃ s, v = .text s := by
  obtain ⟨arg, harg, -, rfl⟩ := Arguments.exists_of_find?_lowered h
  exact htexts arg harg

theorem labels_labelText_iff (hkey : lowercase x.bucketKey = x.bucketKey) (htexts : args.AreTexts)
    (hnodup : (args.map (·.1)).Nodup) {s : String} (hs : (x.bucketKey, .text s) ∈ args) :
    x.Labels args (x.labelText s) ↔ x.Spelled args := by
  constructor
  · intro h v hv
    obtain ⟨t, rfl⟩ := exists_text_of_find?_lowered htexts hv
    rwa [← x.labelText_injective (h.found t hv)]
  · intro h
    constructor
    · intro t ht
      have hfind := (Assoc.find?_eq_some_iff hnodup).mpr hs
      have hfind' := (Assoc.find?_eq_some_iff hnodup).mpr (h _ ht)
      have hsame : s = t := by simpa [Value.text] using hfind.symm.trans hfind'
      rw [hsame]
    · intro hmissing
      exact absurd hkey (Arguments.find?_lowered_eq_none hmissing _ hs)

theorem labels_empty_iff (htexts : args.AreTexts) (hnone : ∀ arg ∈ args, arg.1 ≠ x.bucketKey) :
    x.Labels args "" ↔ x.Spelled args := by
  constructor
  · intro h v hv
    obtain ⟨t, rfl⟩ := exists_text_of_find?_lowered htexts hv
    exact absurd (h.found t hv).symm (x.labelText_ne_empty t)
  · intro h
    exact ⟨fun t ht => absurd rfl (hnone _ (h _ ht)), fun _ => rfl⟩

/-- The label of a request with texts tells the argument that a variant is chosen by exactly if the
value of that argument stands under the key as it is, in lower case. So it does whenever no name is
the key in other letters. -/
theorem requestLabel_labels_iff (hx : compile c = .ok x) (htexts : args.AreTexts)
    (hnodup : (args.map (·.1)).Nodup) :
    ∃ label, x.requestLabel args = .ok label ∧ (x.Labels args label ↔ x.Spelled args) ∧
      ((∀ arg ∈ args, lowercase arg.1 = x.bucketKey → arg.1 = x.bucketKey) →
        x.Labels args label) := by
  have hkey := (compile_eq_ok_iff.mp hx).lowercase_bucketKey
  obtain ⟨label, hlabel, hiff⟩ : ∃ label, x.requestLabel args = .ok label ∧
      (x.Labels args label ↔ x.Spelled args) := by
    rcases requestLabel_of_areTexts htexts with ⟨s, hs, hlabel⟩ | ⟨hnone, hlabel⟩
    · exact ⟨_, hlabel, labels_labelText_iff hkey htexts hnodup hs⟩
    · exact ⟨_, hlabel, labels_empty_iff htexts hnone⟩
  exact ⟨label, hlabel, hiff, fun h => hiff.mpr (spelled_of_names h)⟩

/-- An offer for everyone, placed by an argument with capital letters in its name. -/
def memberOffer : Configuration :=
  ⟨7, "offer", "", none, "", "feature_rollout", .ofInt 0, .ofInt 100,
    { Definition.empty with
      bucketKey := "User_ID"
      variants := [⟨"shown", .ofInt 1, .zero, .zero⟩] }⟩

/-- Names that are equal in lower case; the last one counts, and it is the key itself. -/
def twiceNamed : Arguments :=
  [("User_ID", .text "u2"), ("user_id", .text "u1")]

theorem requestLabel_labels_iff_twiceNamed : twiceNamed.AreTexts ∧
    (twiceNamed.map (·.1)).Nodup ∧ ∃ x, compile memberOffer = .ok x ∧
      x.requestLabel twiceNamed = .ok "offer:user_id:u1" ∧
      x.Labels twiceNamed "offer:user_id:u1" := by
  have htexts : twiceNamed.AreTexts := by
    simp [Arguments.AreTexts, twiceNamed, Value.text]
  have hnodup : (twiceNamed.map (·.1)).Nodup := by decide
  have hcompiled : Except.Yields (fun x => x.bucketKey = "user_id" ∧
      x.requestLabel twiceNamed = .ok "offer:user_id:u1") (compile memberOffer) := by
    decide +kernel
  obtain ⟨x, hx, hkey, htext⟩ := Except.yields_iff.mp hcompiled
  obtain ⟨label, hlabel, hiff, -⟩ := requestLabel_labels_iff hx htexts hnodup
  obtain rfl := Except.ok.inj (htext.symm.trans hlabel)
  have hspelled : x.Spelled twiceNamed := by
    intro v hv
    rw [hkey] at hv ⊢
    have hlast : Assoc.find? "user_id" twiceNamed.lowered = some (.text "u1") := rfl
    obtain rfl := Option.some.inj (hlast.symm.trans hv)
    exact List.mem_cons_of_mem _ (List.mem_singleton_self _)
  exact ⟨htexts, hnodup, x, hx, hlabel, hiff.mpr hspelled⟩

/-- A request that names the argument as the configuration does gets a variant, but no label. -/
theorem not_labels_namedAsConfigured : ∃ x, compile memberOffer = .ok x ∧
    x.variant (.ofInt 5) [("User_ID", .text "u1")] = .ok "shown" ∧
    x.requestLabel [("User_ID", .text "u1")] = .ok "" ∧
    ¬ x.Labels [("User_ID", .text "u1")] "" := by
  have hcompiled : Except.Yields (fun x => x.bucketKey = "user_id" ∧
      x.variant (.ofInt 5) [("User_ID", .text "u1")] = .ok "shown" ∧
      x.requestLabel [("User_ID", .text "u1")] = .ok "") (compile memberOffer) := by
    decide +kernel
  obtain ⟨x, hx, hkey, hvariant, hlabel⟩ := Except.yields_iff.mp hcompiled
  refine ⟨x, hx, hvariant, hlabel, fun h => ?_⟩
  have hmatched : Assoc.find? x.bucketKey (Arguments.lowered [("User_ID", .text "u1")]) =
      some (.text "u1") := by
    rw [hkey]
    rfl
  exact x.labelText_ne_empty "u1" (h.found "u1" hmatched).symm

end Experiment
end SplitTest
