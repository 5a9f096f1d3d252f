import SplitTest.Proofs.Configuration.Reading
import SplitTest.Proofs.Manifest.Names

/-! Only finite numbers enter a manifest: an entry in which a number is not finite is left out. -/
namespace SplitTest

/-- The number that a value stands for, as the nearest double. -/
inductive Value.Denotes : Value → Double → Prop
  | float (x : Double) : Denotes (.float x) x
  | bool (b : Bool) : Denotes (.bool b) (.ofInt (if b then 1 else 0))
  | int (n : ℤ) : Denotes (.int n) (.ofInt n)
  | text {s : String} {x : Double} (h : readDouble? s = some x) : Denotes (.text s) x

theorem Value.Denotes.unique {v : Value} {x y : Double} (hx : v.Denotes x) (hy : v.Denotes y) :
    x = y := by
  cases hx with
  | text h =>
    cases hy with
    | text h' => exact Option.some.inj (h.symm.trans h')
  | _ => cases hy; rfl

theorem Double.ofInt_of_ofInt? {n : ℤ} {x : Double} (h : Double.ofInt? n = some x) :
    .ofInt n = x := by
  unfold Double.ofInt? at h
  split at h
  · cases h
  · exact Option.some.inj h

theorem denotes_of_floatField {path : Path} {v : Value} {x : Double}
    (h : floatField path v = .ok x) : v.Denotes x := by
  unfold floatField at h
  split at h
  · exact Checked.ok_inj.mp h ▸ .float _
  · exact Checked.ok_inj.mp h ▸ .bool _
  · split at h
    · next hn => exact Checked.ok_inj.mp h ▸ Double.ofInt_of_ofInt? hn ▸ .int _
    · cases h
  · split at h
    · next hs => exact Checked.ok_inj.mp h ▸ .text hs
    · cases h
  · cases h

theorem denotes_of_finiteField {path : Path} {v : Value} {x : Double}
    (h : finiteField path v = .ok x) : v.Denotes x := by
  unfold finiteField at h
  split at h
  · next hv =>
    split_ifs at h
    · exact Checked.ok_inj.mp h ▸ denotes_of_floatField hv
    · cases h
  · cases h

/-- The entry of an object under a name holds a number that is not finite as a double. -/
def Entries.NonfiniteAt (entries : Entries) (name : String) : Prop :=
  ∃ v x, entries.find? name = some v ∧ v.Denotes x ∧ x.isFinite = false

/-- The document of a variant with a number that is not finite. -/
inductive Value.NonfiniteVariant : Value → Prop
  | field {entries : Entries} {name : String} (hname : name ∈ ["size", "range_start", "range_end"])
      (h : entries.NonfiniteAt name) : NonfiniteVariant (.object entries)

/-- The document of a configuration with a number that is not finite: one of its moments, or one
of a variant. -/
inductive Value.NonfiniteConfiguration : Value → Prop
  | moment {entries : Entries} {name : String} (hname : name ∈ ["start_ts", "stop_ts"])
      (h : entries.NonfiniteAt name) : NonfiniteConfiguration (.object entries)
  | variant {entries definition : Entries} {variants : List Value} {v : Value}
      (hdefinition : entries.find? "experiment" = some (.object definition))
      (hvariants : definition.find? "variants" = some (.list variants)) (hv : v ∈ variants)
      (h : v.NonfiniteVariant) : NonfiniteConfiguration (.object entries)

section Fields

variable {path : Path} {entries : Entries} {name : String} {default x : Double}

theorem finiteField_of_nonfinite {v : Value} {y : Double} (hv : v.Denotes y)
    (hy : y.isFinite = false) : finiteField path v ≠ .ok x := by
  intro h
  have hx : x.isFinite = true := finiteField_gives _ _ _ h
  rw [(denotes_of_finiteField h).unique hv, hy] at hx
  cases hx

theorem optional_of_nonfiniteAt (h : entries.NonfiniteAt name) :
    optional finiteField default path entries name ≠ .ok x := by
  obtain ⟨v, y, hv, hdenotes, hy⟩ := h
  rw [optional, hv]
  exact finiteField_of_nonfinite hdenotes hy

theorem nullable_of_find? {v : Value} (hv : entries.find? name = some v) (hne : v ≠ .null) :
    nullable finiteField default path entries name = finiteField (path ++ [.field name]) v := by
  unfold nullable
  rw [hv]
  split
  · cases ‹some v = none›
  · exact absurd (Option.some.inj ‹_›) hne
  · rw [Option.some.inj ‹some v = some _›]

theorem nullable_of_nonfiniteAt (h : entries.NonfiniteAt name) :
    nullable finiteField default path entries name ≠ .ok x := by
  obtain ⟨v, y, hv, hdenotes, hy⟩ := h
  have hne : v ≠ .null := by
    rintro rfl
    cases hdenotes
  rw [nullable_of_find? hv hne]
  exact finiteField_of_nonfinite hdenotes hy

end Fields

theorem FieldReader.exists_of_itemsFrom {α : Type} {read : FieldReader α} {path : Path}
    {items : List Value} {as : List α} {i : ℕ} (h : itemsFrom read path i items = .ok as) :
    ∀ v ∈ items, ∃ step a, read (path ++ [step]) v = .ok a := by
  induction items generalizing i as with
  | nil => simp
  | cons v rest ih =>
    obtain ⟨_, others, hmap, hrest, -⟩ := Checked.seq_eq_ok_iff.mp h
    obtain ⟨first, hfirst, -⟩ := Checked.map_eq_ok_iff.mp hmap
    exact List.forall_mem_cons.mpr ⟨⟨_, first, hfirst⟩, ih hrest⟩

theorem variantField_of_nonfinite {path : Path} {w : Value} {v : Variant}
    (h : w.NonfiniteVariant) : variantField path w ≠ .ok v := by
  intro hv
  obtain ⟨entries, rfl, hread⟩ := variantField_eq_ok_iff.mp hv
  cases h with
  | field hname hfield =>
    simp only [List.mem_cons, List.not_mem_nil, or_false] at hname
    rcases hname with rfl | rfl | rfl
    · exact optional_of_nonfiniteAt hfield hread.size
    · exact optional_of_nonfiniteAt hfield hread.rangeStart
    · exact optional_of_nonfiniteAt hfield hread.rangeEnd

theorem configField_of_nonfinite {path : Path} {w : Value} {c : Configuration}
    (h : w.NonfiniteConfiguration) : configField path w ≠ .ok c := by
  intro hc
  obtain ⟨entries, rfl, hread⟩ := configField_eq_ok_iff.mp hc
  cases h with
  | moment hname hfield =>
    simp only [List.mem_cons, List.not_mem_nil, or_false] at hname
    rcases hname with rfl | rfl
    · exact nullable_of_nonfiniteAt hfield hread.startTs
    · exact nullable_of_nonfiniteAt hfield hread.stopTs
  | variant hdefinition hvariants hv hnonfinite =>
    have hd := hread.definition
    rw [nullable, hdefinition] at hd
    obtain ⟨_, hobject, hfields⟩ := definitionField_eq_ok_iff.mp hd
    obtain rfl := Value.object.inj hobject
    have hvs := hfields.variants
    rw [nullable, hvariants] at hvs
    obtain ⟨step, variant, hvariant⟩ := FieldReader.exists_of_itemsFrom hvs _ hv
    exact variantField_of_nonfinite hnonfinite hvariant

theorem DistinctTexts.eq_of_mem {entries : Entries} (h : DistinctTexts entries) {name : String}
    {v w : Value} (hv : (.text name, v) ∈ entries) (hw : (.text name, w) ∈ entries) : v = w := by
  have : Std.Symm fun e e' : Scalar × Value => ∀ s, e.1 = .text s → e'.1 ≠ .text s :=
    ⟨fun e e' hdistinct s hs hs' => hdistinct s hs' hs⟩
  by_contra hne
  have hpairs : (Scalar.text name, v) ≠ (.text name, w) := by simpa using hne
  exact h.forall hv hw hpairs name rfl rfl

theorem mem_of_mem_experimentEntries {entries : Entries} {name : String} {v : Value}
    (h : (name, v) ∈ experimentEntries entries) : (.text name, v) ∈ entries := by
  obtain ⟨e, hmem, hkey⟩ := List.mem_filterMap.mp h
  split at hkey
  · split_ifs at hkey
    obtain ⟨rfl, rfl⟩ := Prod.mk.inj (Option.some.inj hkey)
    exact hmem
  · cases hkey

namespace ManifestReading

variable {format : ManifestFormat} {content : Content} {r : ManifestReading}

theorem exists_entries (h : parse format content = .ok r) :
    ∃ entries, format.decode content = .ok (.object entries) ∧
      r.manifest = Manifest.ofEntries entries := by
  obtain ⟨v, hdecode, hv⟩ := Except.bind_eq_ok_iff.mp h
  unfold ofValue at hv
  split at hv
  · obtain rfl := Except.ok.inj hv
    exact ⟨_, hdecode, rfl⟩
  · cases hv

/-- All numbers of a manifest are finite, whatever the document holds, and an entry with a number
that would not be is not in the manifest. -/
theorem parse_finite (h : parse format content = .ok r) :
    (∀ name c, (name, c) ∈ r.manifest → c.Finite) ∧
    ∃ entries, format.decode content = .ok (.object entries) ∧
      ∀ name v, (.text name, v) ∈ entries → v.NonfiniteConfiguration →
        name ∉ r.manifest.map (·.1) := by
  obtain ⟨entries, hdecode, hmanifest⟩ := exists_entries h
  refine ⟨fun name c => finite_of_parse h, entries, hdecode, fun name v hv hnonfinite hmem => ?_⟩
  obtain ⟨⟨_, c⟩, hc, rfl⟩ := List.mem_map.mp hmem
  rw [hmanifest] at hc
  obtain ⟨w, hw, hread⟩ := Manifest.mem_ofEntries_iff.mp hc
  obtain rfl := (ManifestFormat.distinctTexts_decode hdecode).eq_of_mem hv
    (mem_of_mem_experimentEntries hw)
  exact configField_of_nonfinite hnonfinite hread

/-- A start that is past all doubles, next to one that is not. -/
def endlessStart : String :=
  "\x7b\"late\": \x7b\"start_ts\": \"1e999\"\x7d, \"soon\": \x7b\"start_ts\": \"1e9\"\x7d\x7d"

def startingAt (start : String) : Value :=
  .object [(.text "start_ts", .text start)]

def endlessStartMembers : List (String × Value) :=
  [("late", startingAt "1e999"), ("soon", startingAt "1e9")]

theorem endlessStart_spells : Content.Spells (.text endlessStart) endlessStartMembers := by
  have hmembers : Json.MembersText (fun s v => Json.parseChars s = .ok v)
      ("\"late\"".toList ++ ':' :: (" \x7b\"start_ts\": \"1e999\"\x7d".toList ++ ',' ::
        (" \"soon\"".toList ++ ':' :: " \x7b\"start_ts\": \"1e9\"\x7d".toList)))
      endlessStartMembers :=
    .more (by cbv) (by cbv) (.last (by cbv) (by cbv))
  exact .text (.members Json.blank_nil hmembers Json.blank_nil)

theorem startingAt_nonfinite : (startingAt "1e999").NonfiniteConfiguration := by
  have hread : readDouble? "1e999" = some (.infinity false) := by decide +kernel
  exact .moment (List.mem_cons_self ..) ⟨_, _, rfl, .text hread, rfl⟩

theorem parse_finite_endlessStart : ∃ r, parse .json (.text endlessStart) = .ok r ∧
    r.manifest.map (·.1) = ["soon"] ∧ (∀ name c, (name, c) ∈ r.manifest → c.Finite) ∧
    "late" ∉ r.manifest.map (·.1) := by
  have hparse := parse_spells endlessStart_spells
  obtain ⟨hfinite, entries, hdecode, habsent⟩ := parse_finite hparse
  have hentries := Content.decode_object_iff.mpr ⟨_, endlessStart_spells, rfl⟩
  obtain rfl := Value.object.inj (Except.ok.inj (hentries.symm.trans hdecode))
  have hnames : (manifest ⟨(experimentNames endlessStartMembers).filterMap
      (entryUnder endlessStartMembers)⟩).map (·.1) = ["soon"] := by decide +kernel
  exact ⟨_, hparse, hnames, hfinite,
    habsent "late" _ (List.mem_cons_self ..) startingAt_nonfinite⟩

end ManifestReading
end SplitTest
