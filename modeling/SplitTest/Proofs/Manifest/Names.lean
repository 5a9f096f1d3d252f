import SplitTest.Proofs.Manifest.Isolation

/-! The names of a manifest. A document has each text once for a key, so a manifest has under a name
what the one entry of that name is validated to. -/
namespace SplitTest

/-- No two keys are the same text. -/
def DistinctTexts (entries : Entries) : Prop :=
  entries.Pairwise fun e e' => ∀ s, e.1 = .text s → e'.1 ≠ .text s

theorem Json.distinctTexts_objectOf (ms : List (String × Value)) :
    DistinctTexts (Json.objectOf ms) := by
  have hkeys := List.pairwise_map.mp (Assoc.nodup_keys_ofList ms)
  refine List.pairwise_map.mpr (hkeys.imp fun hne s hs hs' => hne ?_)
  exact (Scalar.text.inj hs).trans (Scalar.text.inj hs').symm

namespace Yaml.Evaluation

variable {e : Evaluation} {entries : Entries}

theorem keep_run (id : NodeId) (v : Value) (whole : Bool) (memory : Memory) :
    ((keep id v whole).run memory).1.1 = v := by
  cases whole <;> rfl

theorem exists_pairs_of_value (h : e.value = .object entries) :
    ∃ (pairs : List (NodeId × NodeId)) (parts : List (Value × Bool)),
      entries = ((e.entries pairs).zip parts).map fun ((key, _), v, _) => (key.scalar, v) := by
  -- The root is no part of another collection, so nothing is remembered or left out.
  have hempty : (Array.replicate e.graph.nodes.size (none : Option Value)).getD e.graph.root none =
      none := by
    simp [Array.getD]
  rw [value, valueWithin.eq_2] at h
  simp only [StateT.run_bind, StateT.run_get, pure_bind, hempty] at h
  split at h
  · cases h
  · next heq _ => cases heq
  · exact absurd ((keep_run _ _ _ _).symm.trans h) nofun
  · next pairs _ _ _ =>
    exact ⟨pairs, _, (Value.object.inj ((keep_run _ _ _ _).symm.trans h)).symm⟩
  · cases h

/-- A key that is a text does not depend on where it is written. -/
theorem origin_keyOf {id : NodeId} {s : String} (h : (e.keyOf id).scalar = .text s) :
    (e.keyOf id).origin = none := by
  have hnan : ((e.keyOf id).scalar == .float .nan) = false := by rw [h]; rfl
  simp only [keyOf] at hnan ⊢
  simp only [hnan, Bool.false_and, Bool.false_eq_true, if_false]

theorem same_of_texts {a b : Key} {s : String} (ha : a.scalar = .text s) (hb : b.scalar = .text s)
    (ha' : a.origin = none) (hb' : b.origin = none) : Key.same a b = true := by
  simp [Key.same, ha, hb, ha', hb', sameKey, keyNumber?]

theorem pairwise_zip {α β : Type} {R : α → α → Prop} {as : List α} (h : as.Pairwise R)
    (bs : List β) : (as.zip bs).Pairwise fun x y => R x.1 y.1 := by
  induction h generalizing bs with
  | nil => exact .nil
  | cons hfirst _ ih =>
    cases bs with
    | nil => exact .nil
    | cons b bs => exact .cons (fun x hx => hfirst _ (List.of_mem_zip hx).1) (ih bs)

theorem distinctTexts_value (h : e.value = .object entries) : DistinctTexts entries := by
  obtain ⟨pairs, parts, rfl⟩ := exists_pairs_of_value h
  have horigin : ∀ key ∈ (e.entries pairs).map (·.1), ∀ s, key.scalar = .text s →
      key.origin = none := by
    intro key hkey s hs
    have hwritten := Assoc.mem_keys_ofListBy hkey
    simp only [List.map_map, List.mem_map] at hwritten
    obtain ⟨pair, -, rfl⟩ := hwritten
    exact origin_keyOf hs
  have hdistinct : ((e.entries pairs).map (·.1)).Pairwise fun a b =>
      ∀ s, a.scalar = .text s → b.scalar ≠ .text s := by
    refine (Assoc.nodupBy_ofListBy Key.same _).imp_of_mem fun ha hb hne s hs hs' => ?_
    rw [same_of_texts hs hs' (horigin _ ha s hs) (horigin _ hb s hs')] at hne
    cases hne
  exact List.pairwise_map.mpr (pairwise_zip (List.pairwise_map.mp hdistinct) parts)

end Yaml.Evaluation

theorem Yaml.distinctTexts_parseChars {text : List Char} {entries : Entries}
    (h : Yaml.parseChars text = .ok (.object entries)) : DistinctTexts entries := by
  unfold Yaml.parseChars at h
  dsimp only at h
  split_ifs at h
  · cases h
  obtain ⟨g?, -, h⟩ := Except.bind_eq_ok_iff.mp h
  cases g? with
  | none => cases h
  | some g =>
    obtain ⟨e, -, h⟩ := Except.bind_eq_ok_iff.mp h
    exact Yaml.Evaluation.distinctTexts_value (Except.ok.inj h)

theorem ManifestFormat.distinctTexts_decode {format : ManifestFormat} {content : Content}
    {entries : Entries} (h : format.decode content = .ok (.object entries)) :
    DistinctTexts entries := by
  cases format with
  | json =>
    obtain ⟨ms, -, rfl⟩ := Content.decode_object_iff.mp h
    exact Json.distinctTexts_objectOf ms
  | yaml =>
    cases content with
    | text s => exact Yaml.distinctTexts_parseChars (Except.mapError_eq_ok_iff.mp h)
    | bytes bytes =>
      obtain ⟨cs, -, h⟩ := Except.bind_eq_ok_iff.mp (Except.mapError_eq_ok_iff.mp h)
      exact Yaml.distinctTexts_parseChars h

/-- The entries of experiments: those under texts that are no names of the system. -/
def experimentEntries (entries : Entries) : List (String × Value) :=
  entries.filterMap fun
    | (.text name, v) => if isSystemName name then none else some (name, v)
    | _ => none

/-- The configuration of an entry with its name, if it is one. -/
def configured? (e : String × Value) : Option (String × Configuration) :=
  match Configuration.ofDocument e.2 with
  | .ok c => some (e.1, c)
  | .error _ => none

theorem configured?_eq_some_iff {e : String × Value} {named : String × Configuration} :
    configured? e = some named ↔ e.1 = named.1 ∧ Configuration.ofDocument e.2 = .ok named.2 := by
  obtain ⟨name, c⟩ := named
  unfold configured?
  constructor
  · intro h
    split at h
    · next hv =>
      obtain ⟨rfl, rfl⟩ := Prod.mk.inj (Option.some.inj h)
      exact ⟨rfl, hv⟩
    · cases h
  · rintro ⟨rfl, hv⟩
    rw [hv]
    rfl

namespace Manifest

variable {entries : Entries} {name : String} {c : Configuration}

/-- The manifest that the entries of a document make. -/
def ofEntries (entries : Entries) : Manifest :=
  ManifestReading.manifest ⟨entries.filterMap ManifestEntry.ofPair?⟩

theorem ofEntries_eq : ofEntries entries = (experimentEntries entries).filterMap configured? := by
  rw [ofEntries, ManifestReading.manifest, experimentEntries, List.filterMap_filterMap,
    List.filterMap_filterMap]
  refine List.filterMap_congr fun e _ => ?_
  obtain ⟨key, v⟩ := e
  cases key with
  | text name =>
    simp only [ManifestEntry.ofPair?]
    split_ifs
    · rfl
    · cases hv : Configuration.ofDocument v <;> simp [configured?, hv]
  | _ => rfl

theorem mem_ofEntries_iff : (name, c) ∈ ofEntries entries ↔
    ∃ v, (name, v) ∈ experimentEntries entries ∧ Configuration.ofDocument v = .ok c := by
  rw [ofEntries_eq, List.mem_filterMap]
  constructor
  · rintro ⟨⟨_, v⟩, hmem, h⟩
    obtain ⟨rfl, hv⟩ := configured?_eq_some_iff.mp h
    exact ⟨v, hmem, hv⟩
  · rintro ⟨v, hmem, hv⟩
    exact ⟨_, hmem, configured?_eq_some_iff.mpr ⟨rfl, hv⟩⟩

end Manifest

end SplitTest
