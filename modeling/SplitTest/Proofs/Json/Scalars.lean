import SplitTest.Json.Document
import SplitTest.Proofs.Assoc
import SplitTest.Proofs.Number.Numeral
import SplitTest.Proofs.Outcome

/-! The scalars in documents that are read from JSON: their integers have numerals. -/
namespace SplitTest

/-- All scalars in a value, keys of objects among them, have a property. -/
inductive Value.Every (P : Scalar → Prop) : Value → Prop
  | scalar {s : Scalar} (h : P s) : Every P (.scalar s)
  | list {items : List Value} (h : ∀ v ∈ items, Every P v) : Every P (.list items)
  | object {entries : Entries} (hk : ∀ e ∈ entries, P e.1) (hv : ∀ e ∈ entries, Every P e.2) :
      Every P (.object entries)

theorem Value.Every.of_mem_list {P : Scalar → Prop} {items : List Value} {v : Value}
    (h : Value.Every P (.list items)) (hv : v ∈ items) : v.Every P := by
  cases h with
  | list hitems => exact hitems v hv

theorem Value.Every.of_mem_object {P : Scalar → Prop} {entries : Entries} {e : Scalar × Value}
    (h : Value.Every P (.object entries)) (he : e ∈ entries) : e.2.Every P := by
  cases h with
  | object _ hv => exact hv e he

namespace Json

/-- What a scalar of JSON may be. -/
inductive Writable : Scalar → Prop
  | null : Writable .null
  | bool (b : Bool) : Writable (.bool b)
  | int (n : Int) (h : hasLongNumeral n = false) : Writable (.int n)
  | float (x : Double) : Writable (.float x)
  | text (s : String) : Writable (.text s)

theorem not_pow_le_ofDecimalDigits {cs : List Char} {k : Nat} (h : cs.length ≤ k) :
    ¬ Nat.pow 10 k ≤ ofDecimalDigits cs := by
  have hmono : 10 ^ cs.length ≤ 10 ^ k := Nat.pow_le_pow_right (by omega) h
  exact not_le.mpr ((ofDecimalDigits_lt cs).trans_le hmono)

theorem hasLongNumeral_of_digits {n : Int} {cs : List Char} (hn : n.natAbs = ofDecimalDigits cs)
    (h : cs.length ≤ numeralLimit) : hasLongNumeral n = false := by
  rw [hasLongNumeral, hn]
  exact decide_eq_false (not_pow_le_ofDecimalDigits h)

theorem numberOf_every {negative : Bool} {whole fraction : List Char}
    {exponent : Option (Bool × List Char)} {v : Value}
    (h : numberOf negative whole fraction exponent = .ok v) : v.Every Writable := by
  unfold numberOf at h
  split at h
  · split at h
    · cases h
    · next hlong =>
      obtain rfl := Except.ok.inj h
      refine .scalar (.int _ (hasLongNumeral_of_digits ?_ (not_lt.mp hlong)))
      split_ifs <;> simp
  · obtain rfl := Except.ok.inj h
    exact .scalar (.float _)

theorem readNumber_every {start : List Char} {negative : Bool} {s : List Char} {v : Value}
    {r : Rest s.length} (h : readNumber start negative s = .ok (v, r)) : v.Every Writable := by
  unfold readNumber at h
  split at h
  · cases h
  · split at h
    · obtain ⟨w, hw, h⟩ := Except.bind_eq_ok_iff.mp h
      obtain ⟨rfl, -⟩ := Prod.mk.inj (Except.ok.inj h)
      exact numberOf_every hw
    · cases h

theorem word?_every {s : List Char} {w : List Char} {v : Value} (h : word? s = some (w, v)) :
    v.Every Writable := by
  have hmem := List.mem_of_find?_eq_some h
  simp only [words, List.mem_cons, Prod.mk.injEq, List.not_mem_nil, or_false] at hmem
  rcases hmem with ⟨-, rfl⟩ | ⟨-, rfl⟩ | ⟨-, rfl⟩ | ⟨-, rfl⟩ | ⟨-, rfl⟩ | ⟨-, rfl⟩
  · exact .scalar .null
  all_goals first | exact .scalar (.bool _) | exact .scalar (.float _)

/-- What the readers give on one text has writable scalars only. -/
structure ReadsWritable (s : List Char) : Prop where
  value : ∀ v r, readValue s = .ok (v, r) → v.Every Writable
  items : ∀ vs r, readItems s = .ok (vs, r) → ∀ v ∈ vs, v.Every Writable
  members : ∀ ms r, readMembers s = .ok (ms, r) → ∀ m ∈ ms, m.2.Every Writable

theorem objectOf_every {members : List (String × Value)} (h : ∀ m ∈ members, m.2.Every Writable) :
    Value.Every Writable (.object (objectOf members)) := by
  unfold objectOf
  refine .object ?_ ?_
  · intro e he
    obtain ⟨⟨name, v⟩, -, rfl⟩ := List.mem_map.mp he
    exact .text name
  · intro e he
    obtain ⟨⟨name, v⟩, hm, rfl⟩ := List.mem_map.mp he
    exact Assoc.forall_mem_ofList h _ hm

theorem readValue_every {s : List Char} (ih : ∀ t, t.length < s.length → ReadsWritable t)
    {v : Value} {r : Rest s.length} (h : readValue s = .ok (v, r)) : v.Every Writable := by
  unfold readValue at h
  split at h
  · cases h
  · next c rest =>
    have hrest : (skipBlanks rest).length < (c :: rest).length :=
      Nat.lt_succ_of_le (length_skipBlanks_le rest)
    split at h
    · obtain ⟨⟨cs, after⟩, -, h⟩ := Except.bind_eq_ok_iff.mp h
      obtain ⟨rfl, -⟩ := Prod.mk.inj (Except.ok.inj h)
      exact .scalar (.text _)
    · split at h
      · split at h
        · obtain ⟨rfl, -⟩ := Prod.mk.inj (Except.ok.inj h)
          exact .list (by simp)
        · obtain ⟨⟨items, after⟩, hitems, h⟩ := Except.bind_eq_ok_iff.mp h
          obtain ⟨rfl, -⟩ := Prod.mk.inj (Except.ok.inj h)
          exact .list ((ih _ hrest).items _ _ hitems)
      · split at h
        · split at h
          · obtain ⟨rfl, -⟩ := Prod.mk.inj (Except.ok.inj h)
            exact .object (by simp) (by simp)
          · obtain ⟨⟨members, after⟩, hmembers, h⟩ := Except.bind_eq_ok_iff.mp h
            obtain ⟨rfl, -⟩ := Prod.mk.inj (Except.ok.inj h)
            exact objectOf_every ((ih _ hrest).members _ _ hmembers)
        · split at h
          · next hword =>
            obtain ⟨rfl, -⟩ := Prod.mk.inj (Except.ok.inj h)
            exact word?_every hword
          · split at h
            · obtain ⟨⟨w, after⟩, hw, h⟩ := Except.bind_eq_ok_iff.mp h
              obtain ⟨rfl, -⟩ := Prod.mk.inj (Except.ok.inj h)
              exact readNumber_every hw
            · exact readNumber_every h

theorem readItems_every {s : List Char} (ih : ∀ t, t.length < s.length → ReadsWritable t)
    (hvalue : ∀ v r, readValue s = .ok (v, r) → v.Every Writable) {vs : List Value}
    {r : Rest s.length} (h : readItems s = .ok (vs, r)) : ∀ v ∈ vs, v.Every Writable := by
  unfold readItems at h
  obtain ⟨⟨v, rest, hr⟩, hv, h⟩ := Except.bind_eq_ok_iff.mp h
  have hfirst := hvalue _ _ hv
  dsimp only at h
  split at h
  · obtain ⟨rfl, -⟩ := Prod.mk.inj (Except.ok.inj h)
    simpa using hfirst
  · next more hb =>
    have hmore : (skipBlanks more).length < s.length := by
      have h1 := length_skipBlanks_le rest
      have h2 := length_skipBlanks_le more
      rw [hb] at h1
      simp only [List.length_cons] at h1
      omega
    obtain ⟨⟨items, after⟩, hitems, h⟩ := Except.bind_eq_ok_iff.mp h
    obtain ⟨rfl, -⟩ := Prod.mk.inj (Except.ok.inj h)
    exact List.forall_mem_cons.mpr ⟨hfirst, (ih _ hmore).items _ _ hitems⟩
  · cases h

theorem readMembers_every {s : List Char} (ih : ∀ t, t.length < s.length → ReadsWritable t)
    {ms : List (String × Value)} {r : Rest s.length} (h : readMembers s = .ok (ms, r)) :
    ∀ m ∈ ms, m.2.Every Writable := by
  unfold readMembers at h
  split at h
  · next opened =>
    obtain ⟨⟨key, afterKey, hk⟩, -, h⟩ := Except.bind_eq_ok_iff.mp h
    dsimp only at h
    split at h
    · next afterColon hc =>
      have hcolon : (skipBlanks afterColon).length < opened.length := by
        have h1 := length_skipBlanks_le afterKey
        have h2 := length_skipBlanks_le afterColon
        rw [hc] at h1
        simp only [List.length_cons] at h1
        omega
      obtain ⟨⟨v, rest, hr⟩, hv, h⟩ := Except.bind_eq_ok_iff.mp h
      have hfirst := (ih _ (Nat.lt_succ_of_lt hcolon)).value _ _ hv
      dsimp only at h
      split at h
      · obtain ⟨rfl, -⟩ := Prod.mk.inj (Except.ok.inj h)
        simpa using hfirst
      · next more hb =>
        have hmore : (skipBlanks more).length < opened.length := by
          have h1 := length_skipBlanks_le rest
          have h2 := length_skipBlanks_le more
          rw [hb] at h1
          simp only [List.length_cons] at h1
          omega
        obtain ⟨⟨members, after⟩, hmembers, h⟩ := Except.bind_eq_ok_iff.mp h
        obtain ⟨rfl, -⟩ := Prod.mk.inj (Except.ok.inj h)
        exact List.forall_mem_cons.mpr
          ⟨hfirst, (ih _ (Nat.lt_succ_of_lt hmore)).members _ _ hmembers⟩
      · cases h
    · cases h
  · cases h

theorem readsWritable (s : List Char) : ReadsWritable s := by
  induction hn : s.length using Nat.strong_induction_on generalizing s with
  | _ n ih =>
    have ih' : ∀ t, t.length < s.length → ReadsWritable t := fun t ht => ih _ (hn ▸ ht) t rfl
    have hvalue : ∀ v r, readValue s = .ok (v, r) → v.Every Writable := fun _ _ =>
      readValue_every ih'
    exact ⟨hvalue, fun _ _ => readItems_every ih' hvalue, fun _ _ => readMembers_every ih'⟩

theorem parseChars_every {cs : List Char} {v : Value} (h : parseChars cs = .ok v) :
    v.Every Writable := by
  unfold parseChars readWhole at h
  rw [Except.mapError_eq_ok_iff] at h
  obtain ⟨⟨w, rest, hr⟩, hw, h⟩ := Except.bind_eq_ok_iff.mp h
  dsimp only at h
  split at h
  · obtain rfl := Except.ok.inj h
    exact (readsWritable _).value _ _ hw
  · cases h

/-- All scalars of a document that is read from JSON are writable. -/
theorem parse_every {s : String} {v : Value} (h : parse s = .ok v) : v.Every Writable := by
  unfold parse at h
  split at h
  · cases h
  · exact parseChars_every h

/-- A value that a JSON document holds, be it a text or bytes. -/
inductive Decoded (v : Value) : Prop
  | text {s : String} (h : parse s = .ok v)
  | bytes {bytes : List UInt8} (h : parseBytes bytes = .ok v)

theorem Decoded.every {v : Value} (h : Decoded v) : v.Every Writable := by
  cases h with
  | text h => exact parse_every h
  | bytes h =>
    unfold parseBytes at h
    split at h
    · cases h
    · exact parseChars_every h

end Json
end SplitTest
