import SplitTest.Manifest
import SplitTest.Proofs.Assoc
import SplitTest.Proofs.Json.Members

/-! Manifests of JSON, name by name. What a manifest holds under a name, and whether there is a
notice of it, is told by the last value under that name. -/
namespace SplitTest

/-- A content that is a text of an object of JSON with these members. -/
inductive Content.Spells : Content → List (String × Value) → Prop
  | text {s : String} {ms : List (String × Value)} (h : Json.ObjectText s.toList ms) :
      Spells (.text s) ms
  | bytes {bytes : List UInt8} {cs : List Char} {ms : List (String × Value)}
      (hbytes : Json.decodeBytes bytes = .ok cs) (h : Json.ObjectText cs ms) :
      Spells (.bytes bytes) ms

theorem Content.parseBytes_object_iff {bytes : List UInt8} {entries : Entries} :
    Json.parseBytes bytes = .ok (.object entries) ↔
      ∃ ms, Content.Spells (.bytes bytes) ms ∧ Json.objectOf ms = entries := by
  unfold Json.parseBytes
  constructor
  · intro h
    split at h
    · cases h
    · next cs hcs =>
      obtain ⟨ms, hms, hentries⟩ := Json.parseChars_object_iff.mp h
      exact ⟨ms, .bytes hcs hms, hentries⟩
  · rintro ⟨ms, hms, hentries⟩
    cases hms with
    | bytes hbytes hms =>
      rw [hbytes]
      exact Json.parseChars_object_iff.mpr ⟨ms, hms, hentries⟩

theorem Content.decode_object_iff {content : Content} {entries : Entries} :
    ManifestFormat.json.decode content = .ok (.object entries) ↔
      ∃ ms, content.Spells ms ∧ Json.objectOf ms = entries := by
  cases content with
  | text s =>
    simp only [ManifestFormat.decode, Except.mapError_eq_ok_iff, Json.parse_object_iff]
    constructor
    · rintro ⟨ms, hms, hentries⟩
      exact ⟨ms, .text hms, hentries⟩
    · rintro ⟨ms, hms, hentries⟩
      cases hms with
      | text hms => exact ⟨ms, hms, hentries⟩
  | bytes bytes =>
    simp only [ManifestFormat.decode, Except.mapError_eq_ok_iff, Content.parseBytes_object_iff]

section Members

variable (ms : List (String × Value)) (name : String)

def lastValue? : Option Value :=
  Assoc.find? name ms.reverse

/-- The configuration that the last value under a name is, if it is one. -/
def lastConfiguration? : Option Configuration :=
  match (lastValue? ms name).map Configuration.ofDocument with
  | some (.ok config) => some config
  | _ => none

/-- The problems of the last value under a name, if it is no configuration. -/
def lastProblems? : Option (List Problem) :=
  match (lastValue? ms name).map Configuration.ofDocument with
  | some (.error problems) => some problems
  | _ => none

/-- The names of members that are no names of the system, in the order of their first places. -/
def experimentNames : List String :=
  (ms.map (·.1)).eraseDups.filter fun name => !isSystemName name

/-- The entry that the last value under a name makes. -/
def entryUnder : Option ManifestEntry :=
  (lastValue? ms name).bind fun v => ManifestEntry.ofPair? (.text name, v)

theorem entryUnder_of_system (h : isSystemName name = true) : entryUnder ms name = none := by
  unfold entryUnder
  cases lastValue? ms name <;> simp [ManifestEntry.ofPair?, h]

theorem entries_objectOf : (Json.objectOf ms).filterMap ManifestEntry.ofPair? =
    (experimentNames ms).filterMap (entryUnder ms) := by
  have hkeys := Assoc.eq_filterMap_keys (Assoc.nodup_keys_ofList ms)
  rw [Assoc.keys_ofList] at hkeys
  unfold Json.objectOf
  rw [hkeys, experimentNames, List.filterMap_map, List.filterMap_filterMap, List.filterMap_filter]
  refine List.filterMap_congr fun name _ => ?_
  rw [Assoc.find?_ofList, Option.bind_map]
  split_ifs with hsystem
  · rfl
  · exact entryUnder_of_system ms name (by simpa using hsystem)

end Members

namespace ManifestReading

variable {content : Content} {ms : List (String × Value)}

theorem parse_spells (h : content.Spells ms) : parse .json content =
    .ok ⟨(experimentNames ms).filterMap (entryUnder ms)⟩ := by
  have hdecode := Content.decode_object_iff.mpr ⟨ms, h, rfl⟩
  rw [parse, hdecode, ← entries_objectOf]
  rfl

theorem manifest_of_members : manifest ⟨(experimentNames ms).filterMap (entryUnder ms)⟩ =
    (experimentNames ms).filterMap fun name => (lastConfiguration? ms name).map (name, ·) := by
  rw [manifest, List.filterMap_filterMap]
  refine List.filterMap_congr fun name hname => ?_
  have hsystem : isSystemName name = false := by simpa using (List.mem_filter.mp hname).2
  unfold entryUnder lastConfiguration?
  cases lastValue? ms name with
  | none => rfl
  | some v => cases hv : Configuration.ofDocument v <;> simp [ManifestEntry.ofPair?, hsystem, hv]

theorem notices_of_members : notices ⟨(experimentNames ms).filterMap (entryUnder ms)⟩ =
    (experimentNames ms).filterMap fun name =>
      (lastProblems? ms name).map fun problems => .skipped name problems.length := by
  rw [notices, List.filterMap_filterMap]
  refine List.filterMap_congr fun name hname => ?_
  have hsystem : isSystemName name = false := by simpa using (List.mem_filter.mp hname).2
  unfold entryUnder lastProblems?
  cases lastValue? ms name with
  | none => rfl
  | some v => cases hv : Configuration.ofDocument v <;> simp [ManifestEntry.ofPair?, hsystem, hv]

theorem find?_manifest_of_members (name : String) :
    (manifest ⟨(experimentNames ms).filterMap (entryUnder ms)⟩).find? name =
      if isSystemName name then none else lastConfiguration? ms name := by
  rw [manifest_of_members, Manifest.find?, Assoc.find?_filterMap_keys]
  by_cases hname : name ∈ ms.map (·.1)
  · cases hsystem : isSystemName name <;> simp [experimentNames, hname, hsystem]
  · have hnone : lastValue? ms name = none := by
      rw [lastValue?, ← Option.not_isSome_iff_eq_none, Assoc.find?_isSome_iff]
      simpa using hname
    simp [experimentNames, hname, lastConfiguration?, hnone]

/-- A manifest is read for every text of an object, whatever its members are. It holds the names
whose last values are configurations, in the order of their first places, and there is a notice for
each other name; a last value that two texts share makes the same of its name in both. -/
theorem parse_isolated {entries : Entries}
    (h : ManifestFormat.json.decode content = .ok (.object entries)) :
    (∃ ms, content.Spells ms) ∧ ∀ ms, content.Spells ms → ∃ r, parse .json content = .ok r ∧
      r.manifest = (experimentNames ms).filterMap
        (fun name => (lastConfiguration? ms name).map (name, ·)) ∧
      r.notices = (experimentNames ms).filterMap (fun name =>
        (lastProblems? ms name).map fun problems => .skipped name problems.length) ∧
      (∀ notice ∈ r.notices, notice.severity = .warning) ∧
      ∀ other others, Content.Spells other others → ∃ r', parse .json other = .ok r' ∧
        ∀ name, lastValue? ms name = lastValue? others name →
          r.manifest.find? name = r'.manifest.find? name := by
  obtain ⟨ms, hms, -⟩ := Content.decode_object_iff.mp h
  refine ⟨⟨ms, hms⟩, fun ms hms => ⟨_, parse_spells hms, manifest_of_members, notices_of_members,
    fun notice hnotice => ?_, fun other others hothers => ⟨_, parse_spells hothers, ?_⟩⟩⟩
  · rw [notices_of_members, List.mem_filterMap] at hnotice
    obtain ⟨name, -, hproblems⟩ := hnotice
    obtain ⟨problems, -, rfl⟩ := Option.map_eq_some_iff.mp hproblems
    rfl
  · intro name hlast
    rw [find?_manifest_of_members, find?_manifest_of_members, lastConfiguration?, hlast]
    rfl

/-- A configuration whose name comes again with a value that is none. -/
def replacedOld : String :=
  "\x7b\"old\": \x7b\x7d, \"$groups\": true, \"offer\": \x7b\x7d, \"old\": null\x7d"

def replacedOldMembers : List (String × Value) :=
  [("old", .object []), ("$groups", .bool true), ("offer", .object []), ("old", .null)]

theorem replacedOld_spells : Content.Spells (.text replacedOld) replacedOldMembers := by
  have hmembers : Json.MembersText (fun s v => Json.parseChars s = .ok v)
      ("\"old\"".toList ++ ':' :: (" \x7b\x7d".toList ++ ',' ::
        (" \"$groups\"".toList ++ ':' :: (" true".toList ++ ',' ::
        (" \"offer\"".toList ++ ':' :: (" \x7b\x7d".toList ++ ',' ::
        (" \"old\"".toList ++ ':' :: " null".toList))))))) replacedOldMembers :=
    .more (by cbv) (by cbv) (.more (by cbv) (by cbv) (.more (by cbv) (by cbv)
      (.last (by cbv) (by cbv))))
  exact .text (.members Json.blank_nil hmembers Json.blank_nil)

theorem parse_isolated_replacedOld : ∃ r, parse .json (.text replacedOld) = .ok r ∧
    r.manifest.map (·.1) = ["offer"] ∧ r.notices = [.skipped "old" 1] := by
  have hdecode : ManifestFormat.json.decode (.text replacedOld) =
      .ok (.object (Json.objectOf replacedOldMembers)) :=
    Content.decode_object_iff.mpr ⟨_, replacedOld_spells, rfl⟩
  obtain ⟨r, hr, hmanifest, hnotices, -⟩ := (parse_isolated hdecode).2 _ replacedOld_spells
  refine ⟨r, hr, ?_, ?_⟩
  · rw [hmanifest]
    rfl
  · rw [hnotices]
    rfl

end ManifestReading
end SplitTest
