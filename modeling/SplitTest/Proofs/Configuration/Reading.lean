import SplitTest.Manifest
import SplitTest.Proofs.Outcome
import SplitTest.Proofs.VariantSet.Boundary

/-! What is known of a configuration once it is read: all its numbers are finite. -/
namespace SplitTest

namespace Checked

variable {α β : Type}

theorem ok_inj {a b : α} : ok a = ok b ↔ a = b :=
  Except.ok.injEq a b ▸ Iff.rfl

theorem seq_eq_ok_iff {f : Checked (α → β)} {x : Checked α} {b : β} :
    f <*> x = .ok b ↔ ∃ g a, f = .ok g ∧ x = .ok a ∧ g a = b := by
  constructor
  · intro h
    match f, x with
    | .ok g, .ok a => exact ⟨g, a, rfl, rfl, ok_inj.mp h⟩
    | .ok _, .error _ => cases h
    | .error _, .ok _ => cases h
    | .error _, .error _ => cases h
  · rintro ⟨g, a, rfl, rfl, rfl⟩
    rfl

theorem map_eq_ok_iff {f : α → β} {x : Checked α} {b : β} :
    f <$> x = .ok b ↔ ∃ a, x = .ok a ∧ f a = b := by
  constructor
  · intro h
    match x with
    | .ok a => exact ⟨a, rfl, ok_inj.mp h⟩
    | .error _ => cases h
  · rintro ⟨a, rfl, rfl⟩
    rfl

end Checked

namespace FieldReader

variable {α : Type} {read : FieldReader α} {P : α → Prop} {default a : α} {path : Path}
  {entries : Entries} {name : String}

/-- Whatever a reader gives has a property. -/
def Gives (read : FieldReader α) (P : α → Prop) : Prop :=
  ∀ path v a, read path v = .ok a → P a

theorem Gives.optional (h : read.Gives P) (hd : P default)
    (ha : optional read default path entries name = .ok a) : P a := by
  unfold SplitTest.optional at ha
  split at ha
  · exact Except.ok.inj ha ▸ hd
  · exact h _ _ _ ha

theorem Gives.nullable (h : read.Gives P) (hd : P default)
    (ha : nullable read default path entries name = .ok a) : P a := by
  unfold SplitTest.nullable at ha
  split at ha
  · exact Except.ok.inj ha ▸ hd
  · exact Except.ok.inj ha ▸ hd
  · exact h _ _ _ ha

theorem Gives.itemsFrom (h : read.Gives P) {items : List Value} {as : List α} {i : Nat}
    (ha : itemsFrom read path i items = .ok as) : ∀ a ∈ as, P a := by
  induction items generalizing i as with
  | nil =>
    obtain rfl := Except.ok.inj ha
    simp
  | cons v rest ih =>
    obtain ⟨_, others, hmap, hrest, rfl⟩ := Checked.seq_eq_ok_iff.mp ha
    obtain ⟨first, hfirst, rfl⟩ := Checked.map_eq_ok_iff.mp hmap
    exact List.forall_mem_cons.mpr ⟨h _ _ _ hfirst, ih hrest⟩

theorem Gives.listField (h : read.Gives P) : (listField read).Gives fun as => ∀ a ∈ as, P a := by
  intro path v as ha
  unfold SplitTest.listField at ha
  split at ha
  · exact h.itemsFrom ha
  · cases ha

end FieldReader

theorem finiteField_gives : finiteField.Gives fun x => x.isFinite = true := by
  intro path v x hx
  unfold finiteField at hx
  split at hx
  · split_ifs at hx with hfinite
    · exact Except.ok.inj hx ▸ hfinite
    · cases hx
  · cases hx

/-- All numbers of a configuration are finite. -/
structure Configuration.Finite (c : Configuration) : Prop where
  startTs : c.startTs.isFinite = true
  stopTs : c.stopTs.isFinite = true
  variants : ∀ v ∈ c.definition.variants, v.Finite

theorem Double.zero_isFinite : Double.zero.isFinite = true := by decide +kernel

theorem objectField_eq_ok_iff {α : Type} {read : Path → Entries → Checked α} {path : Path}
    {w : Value} {a : α} : objectField read path w = .ok a ↔
      ∃ entries, w = .object entries ∧ read path entries = .ok a := by
  constructor
  · intro h
    unfold objectField at h
    split at h
    · exact ⟨_, rfl, h⟩
    · cases h
  · rintro ⟨entries, rfl, h⟩
    exact h

section Fields

variable (path : Path) (entries : Entries)

/-- A variant whose fields are what the entries of an object give. -/
structure Variant.ReadFrom (v : Variant) : Prop where
  name : required textField path entries "name" = .ok v.name
  size : optional finiteField Double.zero path entries "size" = .ok v.size
  rangeStart : optional finiteField Double.zero path entries "range_start" = .ok v.rangeStart
  rangeEnd : optional finiteField Double.zero path entries "range_end" = .ok v.rangeEnd

structure Definition.ReadFrom (d : Definition) : Prop where
  experimentVersion : optional intField 0 path entries "experiment_version" =
    .ok d.experimentVersion
  shuffleVersion : optional intField 0 path entries "shuffle_version" = .ok d.shuffleVersion
  bucketKey : nullable textField "" path entries "bucket_val" = .ok d.bucketKey
  variants : nullable (listField variantField) [] path entries "variants" = .ok d.variants
  bucketSeed : nullable textField "" path entries "bucket_seed" = .ok d.bucketSeed
  targeting : optional anyField .null path entries "targeting" = .ok d.targeting
  overrides : nullable (listField dictField) [] path entries "overrides" = .ok d.overrides

structure Configuration.ReadFrom (c : Configuration) : Prop where
  id : optional intField 0 path entries "id" = .ok c.id
  name : nullable textField "" path entries "name" = .ok c.name
  owner : nullable textField "" path entries "owner" = .ok c.owner
  enabled : nullable (fun path v => some <$> boolField path v) none path entries "enabled" =
    .ok c.enabled
  version : nullable textField "" path entries "version" = .ok c.version
  type : nullable textField "" path entries "type" = .ok c.type
  startTs : nullable finiteField Double.zero path entries "start_ts" = .ok c.startTs
  stopTs : nullable finiteField Double.zero path entries "stop_ts" = .ok c.stopTs
  definition : nullable definitionField Definition.empty path entries "experiment" =
    .ok c.definition

end Fields

section Objects

variable {path : Path} {w : Value}

theorem variantField_eq_ok_iff {v : Variant} : variantField path w = .ok v ↔
    ∃ entries, w = .object entries ∧ v.ReadFrom path entries := by
  unfold variantField
  rw [objectField_eq_ok_iff]
  refine exists_congr fun entries => and_congr_right fun _ => ⟨fun h => ?_, fun h => ?_⟩
  · obtain ⟨_, rangeEnd, h1, hend, rfl⟩ := Checked.seq_eq_ok_iff.mp h
    obtain ⟨_, rangeStart, h2, hstart, rfl⟩ := Checked.seq_eq_ok_iff.mp h1
    obtain ⟨_, size, h3, hsize, rfl⟩ := Checked.seq_eq_ok_iff.mp h2
    obtain ⟨name, hname, rfl⟩ := Checked.map_eq_ok_iff.mp h3
    exact ⟨hname, hsize, hstart, hend⟩
  · rw [h.name, h.size, h.rangeStart, h.rangeEnd]
    rfl

theorem definitionField_eq_ok_iff {d : Definition} : definitionField path w = .ok d ↔
    ∃ entries, w = .object entries ∧ d.ReadFrom path entries := by
  unfold definitionField
  rw [objectField_eq_ok_iff]
  refine exists_congr fun entries => and_congr_right fun _ => ⟨fun h => ?_, fun h => ?_⟩
  · obtain ⟨_, overrides, h1, hoverrides, rfl⟩ := Checked.seq_eq_ok_iff.mp h
    obtain ⟨_, targeting, h2, htargeting, rfl⟩ := Checked.seq_eq_ok_iff.mp h1
    obtain ⟨_, seed, h3, hseed, rfl⟩ := Checked.seq_eq_ok_iff.mp h2
    obtain ⟨_, variants, h4, hvariants, rfl⟩ := Checked.seq_eq_ok_iff.mp h3
    obtain ⟨_, key, h5, hkey, rfl⟩ := Checked.seq_eq_ok_iff.mp h4
    obtain ⟨_, shuffle, h6, hshuffle, rfl⟩ := Checked.seq_eq_ok_iff.mp h5
    obtain ⟨version, hversion, rfl⟩ := Checked.map_eq_ok_iff.mp h6
    exact ⟨hversion, hshuffle, hkey, hvariants, hseed, htargeting, hoverrides⟩
  · rw [h.experimentVersion, h.shuffleVersion, h.bucketKey, h.variants, h.bucketSeed, h.targeting,
      h.overrides]
    rfl

theorem configField_eq_ok_iff {c : Configuration} : configField path w = .ok c ↔
    ∃ entries, w = .object entries ∧ c.ReadFrom path entries := by
  unfold configField
  rw [objectField_eq_ok_iff]
  refine exists_congr fun entries => and_congr_right fun _ => ⟨fun h => ?_, fun h => ?_⟩
  · obtain ⟨_, definition, h1, hdefinition, rfl⟩ := Checked.seq_eq_ok_iff.mp h
    obtain ⟨_, stop, h2, hstop, rfl⟩ := Checked.seq_eq_ok_iff.mp h1
    obtain ⟨_, start, h3, hstart, rfl⟩ := Checked.seq_eq_ok_iff.mp h2
    obtain ⟨_, type, h4, htype, rfl⟩ := Checked.seq_eq_ok_iff.mp h3
    obtain ⟨_, version, h5, hversion, rfl⟩ := Checked.seq_eq_ok_iff.mp h4
    obtain ⟨_, enabled, h6, henabled, rfl⟩ := Checked.seq_eq_ok_iff.mp h5
    obtain ⟨_, owner, h7, howner, rfl⟩ := Checked.seq_eq_ok_iff.mp h6
    obtain ⟨_, name, h8, hname, rfl⟩ := Checked.seq_eq_ok_iff.mp h7
    obtain ⟨id, hid, rfl⟩ := Checked.map_eq_ok_iff.mp h8
    exact ⟨hid, hname, howner, henabled, hversion, htype, hstart, hstop, hdefinition⟩
  · rw [h.id, h.name, h.owner, h.enabled, h.version, h.type, h.startTs, h.stopTs, h.definition]
    rfl

end Objects

theorem variantField_gives : variantField.Gives Variant.Finite := by
  intro path w v hv
  obtain ⟨entries, -, h⟩ := variantField_eq_ok_iff.mp hv
  exact ⟨finiteField_gives.optional Double.zero_isFinite h.size,
    finiteField_gives.optional Double.zero_isFinite h.rangeStart,
    finiteField_gives.optional Double.zero_isFinite h.rangeEnd⟩

theorem definitionField_gives :
    definitionField.Gives fun d => ∀ v ∈ d.variants, v.Finite := by
  intro path w d hd
  obtain ⟨entries, -, h⟩ := definitionField_eq_ok_iff.mp hd
  have hnone : ∀ v ∈ ([] : List Variant), v.Finite := by simp
  exact variantField_gives.listField.nullable hnone h.variants

theorem configField_gives : configField.Gives Configuration.Finite := by
  intro path w c hc
  obtain ⟨entries, -, h⟩ := configField_eq_ok_iff.mp hc
  have hempty : ∀ v ∈ Definition.empty.variants, v.Finite := by simp [Definition.empty]
  exact ⟨finiteField_gives.nullable Double.zero_isFinite h.startTs,
    finiteField_gives.nullable Double.zero_isFinite h.stopTs,
    definitionField_gives.nullable hempty h.definition⟩

/-- An entry with a configuration has it from a document. -/
theorem ManifestEntry.exists_document {pair : Scalar × Value} {entry : ManifestEntry}
    {name : String} {c : Configuration} (h : ofPair? pair = some entry)
    (hc : entry = accepted name c) : ∃ v, Configuration.ofDocument v = .ok c := by
  subst hc
  unfold ofPair? at h
  split at h
  · next key v =>
    split_ifs at h
    split at h
    · next d hd =>
      obtain ⟨-, rfl⟩ := by simpa using h
      exact ⟨v, hd⟩
    · cases h
  · cases h

/-- All configurations of a manifest that is read have finite numbers. -/
theorem ManifestReading.finite_of_parse {format : ManifestFormat} {content : Content}
    {r : ManifestReading} (h : parse format content = .ok r) {name : String} {c : Configuration}
    (hc : (name, c) ∈ r.manifest) : c.Finite := by
  obtain ⟨v, -, hv⟩ := Except.bind_eq_ok_iff.mp h
  unfold ofValue at hv
  split at hv
  · next entries =>
    obtain rfl := Except.ok.inj hv
    obtain ⟨entry, hentry, hname⟩ := List.mem_filterMap.mp hc
    obtain ⟨pair, -, hpair⟩ := List.mem_filterMap.mp hentry
    have haccepted : entry = .accepted name c := by
      cases entry <;> simp_all
    obtain ⟨w, hw⟩ := ManifestEntry.exists_document hpair haccepted
    exact configField_gives _ _ _ hw
  · cases hv

end SplitTest
