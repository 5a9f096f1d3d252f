import Mathlib.Data.List.TakeWhile
import SplitTest.Proofs.Json.Front

/-! Texts of objects and their members. A text is read as an object exactly when it is made of
braces, commas and colons around texts that are read on their own. -/
namespace SplitTest.Json

variable {s : List Char} {v : Value}

theorem skipBlanks_eq_nil_iff : skipBlanks s = [] ↔ Blank s :=
  List.dropWhile_eq_nil_iff

theorem parseChars_iff_reads : parseChars s = .ok v ↔
    ∃ rest, Reads (readValue (skipBlanks s)) v rest ∧ Blank rest := by
  unfold parseChars readWhole
  rw [Except.mapError_eq_ok_iff, Except.bind_eq_ok_iff]
  constructor
  · rintro ⟨⟨w, rest, hr⟩, hw, h⟩
    dsimp only at h
    split at h
    · next hblank =>
      obtain rfl := Except.ok.inj h
      exact ⟨rest, ⟨hr, hw⟩, skipBlanks_eq_nil_iff.mp hblank⟩
    · cases h
  · rintro ⟨rest, ⟨hr, hv⟩, hblank⟩
    refine ⟨_, hv, ?_⟩
    simp only [skipBlanks_eq_nil_iff.mpr hblank]
    rfl

theorem parseChars_iff_padded : parseChars s = .ok v ↔ Padded s v := by
  rw [parseChars_iff_reads]
  constructor
  · rintro ⟨after, hread, hafter⟩
    obtain ⟨before, t, hbefore, rfl, ht⟩ := (fronts s).value _ _ hread
    exact .mk hbefore ht hafter
  · intro h
    obtain ⟨after, hread, hafter⟩ := h.reads [] stopsNumber_nil
    rw [List.append_nil] at hread
    exact ⟨after, hread, skipBlanks_eq_nil_iff.mp hafter⟩

theorem parsed_eq_padded : (fun s v => parseChars s = .ok v) = Padded := by
  funext s v
  exact propext parseChars_iff_padded

/-- A text of an object with the members that it spells, in the order of the text: names and values
are texts of JSON in their own right. -/
inductive ObjectText : List Char → List (String × Value) → Prop
  | empty {before inner after : List Char} (hbefore : Blank before) (hinner : Blank inner)
      (hafter : Blank after) : ObjectText (before ++ '\x7b' :: (inner ++ '\x7d' :: after)) []
  | members {before t after : List Char} {ms : List (String × Value)} (hbefore : Blank before)
      (ht : MembersText (fun s v => parseChars s = .ok v) t ms) (hafter : Blank after) :
      ObjectText (before ++ '\x7b' :: (t ++ '\x7d' :: after)) ms

theorem ObjectText.parse {ms : List (String × Value)} (h : ObjectText s ms) :
    parseChars s = .ok (.object (objectOf ms)) := by
  rw [parseChars_iff_reads]
  cases h with
  | @empty before inner after hbefore hinner hafter =>
    refine ⟨after, ?_, hafter⟩
    have hclose : skipBlanks (inner ++ '\x7d' :: after) = '\x7d' :: after := by
      rw [skipBlanks_append hinner, skipBlanks_cons rfl]
    rw [skipBlanks_append hbefore, skipBlanks_cons rfl]
    exact readValue_emptyObject hclose
  | @members before t after _ hbefore ht hafter =>
    rw [parsed_eq_padded] at ht
    refine ⟨after, ?_, hafter⟩
    rw [skipBlanks_append hbefore, skipBlanks_cons rfl]
    exact readValue_object (ht.reads after)

theorem exists_objectText {entries : Entries} (h : parseChars s = .ok (.object entries)) :
    ∃ ms, ObjectText s ms ∧ objectOf ms = entries := by
  obtain ⟨rest, hread, hrest⟩ := parseChars_iff_reads.mp h
  obtain ⟨before, hbefore, hs⟩ := exists_blanks (s := s) rfl
  generalize hv : Value.object entries = v at hread
  generalize skipBlanks s = opened at hread hs
  cases valueForm_of_reads hread with
  | quoted | emptyList | list => cases hv
  | emptyObject hclose =>
    cases hv
    obtain ⟨inner, hinner, rfl⟩ := exists_blanks hclose
    exact ⟨[], hs ▸ .empty hbefore hinner hrest, rfl⟩
  | @object opened _ ms hms =>
    cases hv
    obtain ⟨t, rfl, ht⟩ := (fronts opened).members _ _ hms
    rw [← parsed_eq_padded] at ht
    exact ⟨ms, hs ▸ .members hbefore ht hrest, rfl⟩
  | word _ hword =>
    subst hv
    exact (bare_of_word? (hword [])).elim
  | positive _ h | negative _ h =>
    subst hv
    exact (bare_of_readNumber h).elim

/-- A text is read as an object exactly when it is a text of one. -/
theorem parseChars_object_iff {entries : Entries} : parseChars s = .ok (.object entries) ↔
    ∃ ms, ObjectText s ms ∧ objectOf ms = entries := by
  constructor
  · exact exists_objectText
  · rintro ⟨ms, hms, rfl⟩
    exact hms.parse

theorem ObjectText.not_marked {ms : List (String × Value)} (h : ObjectText s ms) :
    s.head? ≠ some '\ufeff' := by
  obtain ⟨before, hbefore, t, rfl⟩ :
      ∃ before, Blank before ∧ ∃ t, s = before ++ '\x7b' :: t := by
    cases h with
    | empty hbefore => exact ⟨_, hbefore, _, rfl⟩
    | members hbefore => exact ⟨_, hbefore, _, rfl⟩
  cases before with
  | nil => simp
  | cons b before =>
    intro hmark
    obtain rfl : b = '\ufeff' := Option.some.inj hmark
    exact absurd (hbefore '\ufeff' (by simp)) (by decide)

theorem parse_object_iff {text : String} {entries : Entries} :
    parse text = .ok (.object entries) ↔
      ∃ ms, ObjectText text.toList ms ∧ objectOf ms = entries := by
  unfold parse
  split
  · next cs heq =>
    constructor
    · nofun
    · rintro ⟨ms, hms, -⟩
      rw [heq] at hms
      exact absurd rfl hms.not_marked
  · exact parseChars_object_iff

end SplitTest.Json
