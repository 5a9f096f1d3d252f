import SplitTest.Configuration.Basic
import SplitTest.Proofs.Assoc

/-! Absence: a field of a configuration that holds null is read as if it were not there. -/
namespace SplitTest

theorem Assoc.find?_filter_keys {α β : Type} [BEq α] [LawfulBEq α] (keep : α → Bool) (key : α)
    (entries : List (α × β)) :
    find? key (entries.filter fun entry => keep entry.1) =
      if keep key then find? key entries else none := by
  induction entries with
  | nil => simp
  | cons entry rest ih =>
    obtain ⟨k, v⟩ := entry
    rw [List.filter_cons, find?_cons]
    by_cases hk : k = key
    · subst hk
      cases hkeep : keep k with
      | false => simp [ih, hkeep]
      | true => simp [find?_cons]
    · cases hkeep : keep k with
      | false => simp [ih, hk]
      | true => simp [ih, hk, find?_cons]

namespace Entries

variable {entries : Entries} {names : List String}

/-- Whether null stands under a name. -/
def holdsNull (entries : Entries) (name : String) : Bool :=
  entries.find? name matches some .null

theorem find?_of_holdsNull {name : String} (h : entries.holdsNull name = true) :
    entries.find? name = some .null := by
  unfold holdsNull at h
  split at h
  · next hfind => exact hfind
  · cases h

/-- Entries without those fields among `names` that hold null. -/
def withoutNulls (names : List String) (entries : Entries) : Entries :=
  entries.filter fun entry =>
    !names.any fun name => entry.1 == .text name && entries.holdsNull name

/-- Entries with the value under a name changed. -/
def mapAt (name : String) (f : Value → Value) (entries : Entries) : Entries :=
  entries.map fun entry => (entry.1, if entry.1 = .text name then f entry.2 else entry.2)

theorem find?_withoutNulls (name : String) : (entries.withoutNulls names).find? name =
    if name ∈ names ∧ entries.holdsNull name = true then none else entries.find? name := by
  have hkeep : (!names.any fun other =>
      Scalar.text name == .text other && entries.holdsNull other) = true ↔
        ¬ (name ∈ names ∧ entries.holdsNull name = true) := by
    simp only [Bool.not_eq_true', List.any_eq_false, Bool.and_eq_true, beq_iff_eq,
      Scalar.text.injEq]
    exact ⟨fun h ⟨hmem, hnull⟩ => h name hmem ⟨rfl, hnull⟩,
      fun h other hmem ⟨hname, hnull⟩ => h ⟨hname ▸ hmem, hname ▸ hnull⟩⟩
  have hfilter := Assoc.find?_filter_keys (fun key => !names.any fun other =>
    key == .text other && entries.holdsNull other) (.text name) entries
  refine hfilter.trans ?_
  simp only [hkeep, ite_not]
  rfl

theorem find?_mapAt (name other : String) (f : Value → Value) :
    (entries.mapAt name f).find? other =
      if other = name then (entries.find? other).map f else entries.find? other := by
  induction entries with
  | nil => simp [mapAt, find?, Assoc.findBy?]
  | cons entry rest ih =>
    obtain ⟨key, v⟩ := entry
    unfold mapAt find? at ih ⊢
    rw [List.map_cons, Assoc.findBy?, Assoc.findBy?, ih]
    by_cases hkey : key = .text other
    · subst hkey
      by_cases hname : other = name <;> simp [hname]
    · simp [hkey]

end Entries

/-- An object with other entries; what is no object stays. -/
def Value.mapEntries (f : Entries → Entries) : Value → Value
  | .object entries => .object (f entries)
  | v => v

section Fields

variable {α : Type} {read : FieldReader α} {default : α} {path : Path} {entries : Entries}
  {names : List String} {name : String}

theorem nullable_withoutNulls : nullable read default path (entries.withoutNulls names) name =
    nullable read default path entries name := by
  unfold nullable
  rw [Entries.find?_withoutNulls]
  split_ifs with h
  · rw [Entries.find?_of_holdsNull h.2]
  · rfl

/-- So is a field whose reader takes null for the default. -/
theorem optional_withoutNulls (h : name ∈ names → ∀ path, read path .null = .ok default) :
    optional read default path (entries.withoutNulls names) name =
      optional read default path entries name := by
  unfold optional
  rw [Entries.find?_withoutNulls]
  split_ifs with hnull
  · rw [Entries.find?_of_holdsNull hnull.2]
    exact (h hnull.1 _).symm
  · rfl

theorem optional_mapAt {other : String} (h : name ≠ other) (f : Value → Value) :
    optional read default path (entries.mapAt other f) name =
      optional read default path entries name := by
  unfold optional
  rw [Entries.find?_mapAt, if_neg h]

theorem nullable_mapAt {other : String} (h : name ≠ other) (f : Value → Value) :
    nullable read default path (entries.mapAt other f) name =
      nullable read default path entries name := by
  unfold nullable
  rw [Entries.find?_mapAt, if_neg h]

/-- A change of entries that their reader does not see. -/
theorem nullable_mapAt_self {f : Entries → Entries}
    (h : ∀ path v, read path (Value.mapEntries f v) = read path v) :
    nullable read default path (entries.mapAt name (.mapEntries f)) name =
      nullable read default path entries name := by
  unfold nullable
  rw [Entries.find?_mapAt, if_pos rfl]
  cases entries.find? name with
  | none => rfl
  | some v =>
    cases v with
    | scalar s => cases s <;> rfl
    | list items => rfl
    | object inner => exact h _ (.object inner)

end Fields

/-- The fields of a definition that may hold null. -/
def Definition.nullableFields : List String :=
  ["bucket_val", "bucket_seed", "variants", "targeting", "overrides"]

namespace Configuration

/-- The fields of a configuration that may hold null. -/
def nullableFields : List String :=
  ["name", "owner", "enabled", "version", "type", "start_ts", "stop_ts", "experiment"]

/-- A document without those fields of its own among `outer` that hold null, and without those among
`inner` of the definition in it. -/
def withoutNulls (outer inner : List String) : Value → Value :=
  .mapEntries fun entries =>
    (entries.mapAt "experiment" (.mapEntries (Entries.withoutNulls inner))).withoutNulls outer

variable {outer inner : List String}

theorem definitionField_withoutNulls (hi : inner ⊆ Definition.nullableFields) (path : Path)
    (v : Value) :
    definitionField path (v.mapEntries (Entries.withoutNulls inner)) = definitionField path v := by
  cases v with
  | scalar s => rfl
  | list items => rfl
  | object entries =>
    have hexperiment : "experiment_version" ∉ inner := fun h => absurd (hi h) (by decide)
    have hshuffle : "shuffle_version" ∉ inner := fun h => absurd (hi h) (by decide)
    have htargeting : ∀ path, anyField path .null = .ok .null := fun _ => rfl
    simp only [Value.mapEntries, definitionField, objectField, nullable_withoutNulls]
    rw [optional_withoutNulls fun h => absurd h hexperiment,
      optional_withoutNulls fun h => absurd h hshuffle,
      optional_withoutNulls fun _ => htargeting]

/-- Whichever fields that hold null are taken out of a document, of the configuration or of its
definition: it describes the same configuration, or it has the same problems in the same order. -/
theorem ofDocument_withoutNulls (ho : outer ⊆ nullableFields)
    (hi : inner ⊆ Definition.nullableFields) (v : Value) :
    ofDocument (withoutNulls outer inner v) = ofDocument v := by
  cases v with
  | scalar s => rfl
  | list items => rfl
  | object entries =>
    have hid : "id" ∉ outer := fun h => absurd (ho h) (by decide)
    simp only [ofDocument, withoutNulls, Value.mapEntries, configField, objectField,
      nullable_withoutNulls]
    rw [optional_withoutNulls fun h => absurd h hid,
      nullable_mapAt_self (definitionField_withoutNulls hi)]
    simp (disch := decide) only [optional_mapAt, nullable_mapAt]

/-- A document with null in some fields and problems in others. -/
def halfNull : Value :=
  .object [(.text "name", .null), (.text "type", .int 5), (.text "stop_ts", .null),
    (.text "experiment", .object [(.text "variants", .null), (.text "overrides", .int 3),
      (.text "targeting", .null)])]

/-- The same document without its null fields but one. -/
def halfAbsent : Value :=
  .object [(.text "type", .int 5),
    (.text "experiment", .object [(.text "overrides", .int 3), (.text "targeting", .null)])]

theorem ofDocument_withoutNulls_halfNull :
    ["name", "stop_ts"] ⊆ nullableFields ∧ ["variants"] ⊆ Definition.nullableFields ∧
    withoutNulls ["name", "stop_ts"] ["variants"] halfNull = halfAbsent ∧
    ofDocument halfAbsent = ofDocument halfNull ∧
    ofDocument halfNull = Except.error [⟨[.field "type"], .stringType⟩,
      ⟨[.field "experiment", .field "overrides"], .listType⟩] := by
  have ho : ["name", "stop_ts"] ⊆ nullableFields := by decide
  have hi : ["variants"] ⊆ Definition.nullableFields := by decide
  have hsame := ofDocument_withoutNulls ho hi halfNull
  exact ⟨ho, hi, rfl, hsame, rfl⟩

end Configuration
end SplitTest
