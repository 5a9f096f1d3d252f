import SplitTest.Proofs.Json.Token

/-! Values of JSON in front of a text. The readers take texts of values, of items and of members,
and take each of them from every text that it is in front of. -/
namespace SplitTest.Json

variable {s rest : List Char} {cs : List Char}

def Blank (s : List Char) : Prop :=
  ∀ c ∈ s, isBlank c

theorem blank_nil : Blank [] := by
  intro c hc
  cases hc

theorem skipBlanks_append {blanks : List Char} (h : Blank blanks) (s : List Char) :
    skipBlanks (blanks ++ s) = skipBlanks s :=
  List.dropWhile_append_of_pos h

theorem exists_blanks {t : List Char} (h : skipBlanks s = t) :
    ∃ blanks, Blank blanks ∧ s = blanks ++ t :=
  ⟨s.takeWhile isBlank, List.all_eq_true.mp List.all_takeWhile,
    h ▸ List.takeWhile_append_dropWhile.symm⟩

theorem skipBlanks_cons {c : Char} (hc : isBlank c = false) (s : List Char) :
    skipBlanks (c :: s) = c :: s :=
  List.dropWhile_cons_of_neg (by simp [hc])

theorem isBlank_of_skipBlanks {c : Char} {t : List Char} (h : skipBlanks s = c :: t) :
    isBlank c = false := by
  have := List.head?_dropWhile_not isBlank s
  rw [show s.dropWhile isBlank = c :: t from h] at this
  simpa using this

/-- What does not start with a blank is left as it is, whatever follows it. -/
theorem skipBlanks_front {t rest : List Char} (ht : t ≠ []) (h : skipBlanks s = t ++ rest)
    (rest' : List Char) : skipBlanks (t ++ rest') = t ++ rest' := by
  match t, ht with
  | c :: t, _ => exact skipBlanks_cons (isBlank_of_skipBlanks h) (t ++ rest')

theorem readValue_quoted (h : Reads (readQuoted s) cs rest) :
    Reads (readValue ('"' :: s)) (.text (String.ofList cs)) rest := by
  obtain ⟨hr, h⟩ := h
  rw [readValue, if_pos rfl, h]
  exact reads_of_eq rfl

theorem readValue_emptyList (h : skipBlanks s = ']' :: rest) :
    Reads (readValue ('[' :: s)) (.list []) rest := by
  rw [readValue, if_neg (by decide), if_pos rfl]
  split
  · next after heq =>
    obtain rfl := (List.cons.inj (heq.symm.trans h)).2
    exact reads_of_eq rfl
  · next hne => exact absurd h (hne rest)

theorem not_reads_bracket {v : Value} {after : List Char} :
    ¬ Reads (readValue (']' :: s)) v after := by
  rintro ⟨_, h⟩
  simp [readValue, word?, words, readNumber, isDigit] at h

theorem readValue_list {vs : List Value} (h : Reads (readItems (skipBlanks s)) vs rest) :
    Reads (readValue ('[' :: s)) (.list vs) rest := by
  rw [readValue, if_neg (by decide), if_pos rfl]
  split
  · next after heq =>
    rw [heq] at h
    obtain ⟨_, h⟩ := h
    rw [readItems] at h
    obtain ⟨_, hv, -⟩ := Except.bind_eq_ok_iff.mp h
    exact absurd (reads_of_eq hv) not_reads_bracket
  · obtain ⟨hr, h⟩ := h
    simp only [h, Except.ok_bind]
    exact reads_of_eq rfl

theorem readValue_emptyObject (h : skipBlanks s = '\x7d' :: rest) :
    Reads (readValue ('\x7b' :: s)) (.object []) rest := by
  rw [readValue, if_neg (by decide), if_neg (by decide), if_pos rfl]
  split
  · next after heq =>
    obtain rfl := (List.cons.inj (heq.symm.trans h)).2
    exact reads_of_eq rfl
  · next hne => exact absurd h (hne rest)

theorem readValue_object {ms : List (String × Value)}
    (h : Reads (readMembers (skipBlanks s)) ms rest) :
    Reads (readValue ('\x7b' :: s)) (.object (objectOf ms)) rest := by
  rw [readValue, if_neg (by decide), if_neg (by decide), if_pos rfl]
  split
  · next after heq =>
    rw [heq] at h
    obtain ⟨_, h⟩ := h
    simp [readMembers] at h
  · obtain ⟨hr, h⟩ := h
    simp only [h, Except.ok_bind]
    exact reads_of_eq rfl

theorem length_drop_word_lt (c : Char) (s word : List Char) :
    ((c :: s).drop (max 1 word.length)).length < (c :: s).length := by
  simp only [List.length_drop, List.length_cons]
  omega

theorem readValue_other {c : Char} (hc : isOpening c = false) (s : List Char) :
    readValue (c :: s) = match word? (c :: s) with
      | some (word, v) => .ok (v, ⟨_, length_drop_word_lt c s word⟩)
      | none =>
        if c = '-' then do
          let (v, ⟨after, ha⟩) ← readNumber (c :: s) true s
          return (v, ⟨after, Nat.lt_succ_of_lt ha⟩)
        else readNumber (c :: s) false (c :: s) := by
  simp only [isOpening, Bool.or_eq_false_iff, beq_eq_false_iff_ne] at hc
  rw [readValue, if_neg hc.1.1, if_neg hc.1.2]
  exact if_neg hc.2

theorem readValue_word {c : Char} {t : List Char} {v : Value} (hc : isOpening c = false)
    (h : word? (c :: (t ++ rest)) = some (c :: t, v)) :
    Reads (readValue (c :: (t ++ rest))) v rest := by
  have hdrop : (c :: (t ++ rest)).drop (max 1 (c :: t).length) = rest := by
    rw [List.length_cons, Nat.max_eq_right (by omega), List.drop_succ_cons, List.drop_left]
  rw [readValue_other hc, h]
  exact ⟨by simp only [List.length_cons, List.length_append]; omega, by simp only [hdrop]⟩

theorem readValue_positive {c : Char} {v : Value} (hc : isDigit c)
    (h : Reads (readNumber (c :: s) false (c :: s)) v rest) :
    Reads (readValue (c :: s)) v rest := by
  have hminus : c ≠ '-' := by
    rintro rfl
    exact absurd hc (by decide)
  rw [readValue_other (not_isOpening_of_isDigit hc), (word?_number hc s).1]
  simpa only [hminus, if_false] using h

theorem readValue_negative {c : Char} {v : Value} (hc : isDigit c)
    (h : Reads (readNumber ('-' :: c :: s) true (c :: s)) v rest) :
    Reads (readValue ('-' :: c :: s)) v rest := by
  obtain ⟨hr, h⟩ := h
  rw [readValue_other rfl, (word?_number hc s).2]
  simp only [if_true, h, Except.ok_bind]
  exact reads_of_eq rfl

theorem readItems_last {v : Value} {after : List Char} (hv : Reads (readValue s) v rest)
    (hrest : skipBlanks rest = ']' :: after) : Reads (readItems s) [v] after := by
  obtain ⟨hr, hv⟩ := hv
  rw [readItems, hv, Except.ok_bind]
  dsimp only
  split
  · next heq =>
    obtain rfl := (List.cons.inj (heq.symm.trans hrest)).2
    exact reads_of_eq rfl
  · next heq => exact absurd (heq.symm.trans hrest) (by simp)
  · next hne _ => exact absurd hrest (hne after)

theorem readItems_more {v : Value} {vs : List Value} {more after : List Char}
    (hv : Reads (readValue s) v rest) (hrest : skipBlanks rest = ',' :: more)
    (hvs : Reads (readItems (skipBlanks more)) vs after) :
    Reads (readItems s) (v :: vs) after := by
  obtain ⟨hr, hv⟩ := hv
  obtain ⟨ha, hvs⟩ := hvs
  rw [readItems, hv, Except.ok_bind]
  dsimp only
  split
  · next heq => exact absurd (heq.symm.trans hrest) (by simp)
  · next heq =>
    obtain rfl := (List.cons.inj (heq.symm.trans hrest)).2
    simp only [hvs, Except.ok_bind]
    exact reads_of_eq rfl
  · next hne => exact absurd hrest (hne more)

theorem readMembers_last {key : List Char} {v : Value} {afterKey afterColon after : List Char}
    (hkey : Reads (readQuoted s) key afterKey) (hcolon : skipBlanks afterKey = ':' :: afterColon)
    (hv : Reads (readValue (skipBlanks afterColon)) v rest)
    (hrest : skipBlanks rest = '\x7d' :: after) :
    Reads (readMembers ('"' :: s)) [(String.ofList key, v)] after := by
  obtain ⟨hk, hkey⟩ := hkey
  obtain ⟨hr, hv⟩ := hv
  rw [readMembers, hkey, Except.ok_bind]
  dsimp only
  split
  · next heq =>
    obtain rfl := (List.cons.inj (heq.symm.trans hcolon)).2
    simp only [hv, Except.ok_bind]
    split
    · next heq =>
      obtain rfl := (List.cons.inj (heq.symm.trans hrest)).2
      exact reads_of_eq rfl
    · next heq => exact absurd (heq.symm.trans hrest) (by simp)
    · next hne _ => exact absurd hrest (hne after)
  · next hne => exact absurd hcolon (hne afterColon)

theorem readMembers_more {key : List Char} {v : Value} {ms : List (String × Value)}
    {afterKey afterColon more after : List Char}
    (hkey : Reads (readQuoted s) key afterKey) (hcolon : skipBlanks afterKey = ':' :: afterColon)
    (hv : Reads (readValue (skipBlanks afterColon)) v rest)
    (hrest : skipBlanks rest = ',' :: more) (hms : Reads (readMembers (skipBlanks more)) ms after) :
    Reads (readMembers ('"' :: s)) ((String.ofList key, v) :: ms) after := by
  obtain ⟨hk, hkey⟩ := hkey
  obtain ⟨hr, hv⟩ := hv
  obtain ⟨ha, hms⟩ := hms
  rw [readMembers, hkey, Except.ok_bind]
  dsimp only
  split
  · next heq =>
    obtain rfl := (List.cons.inj (heq.symm.trans hcolon)).2
    simp only [hv, Except.ok_bind]
    split
    · next heq => exact absurd (heq.symm.trans hrest) (by simp)
    · next heq =>
      obtain rfl := (List.cons.inj (heq.symm.trans hrest)).2
      simp only [hms, Except.ok_bind]
      exact reads_of_eq rfl
    · next hne => exact absurd hrest (hne more)
  · next hne => exact absurd hcolon (hne afterColon)

/-- The forms of values in front of a text. -/
inductive ValueForm : List Char → Value → List Char → Prop
  | quoted {s cs rest : List Char} (h : Reads (readQuoted s) cs rest) :
      ValueForm ('"' :: s) (.text (String.ofList cs)) rest
  | emptyList {s rest : List Char} (h : skipBlanks s = ']' :: rest) :
      ValueForm ('[' :: s) (.list []) rest
  | list {s rest : List Char} {vs : List Value} (h : Reads (readItems (skipBlanks s)) vs rest) :
      ValueForm ('[' :: s) (.list vs) rest
  | emptyObject {s rest : List Char} (h : skipBlanks s = '\x7d' :: rest) :
      ValueForm ('\x7b' :: s) (.object []) rest
  | object {s rest : List Char} {ms : List (String × Value)}
      (h : Reads (readMembers (skipBlanks s)) ms rest) :
      ValueForm ('\x7b' :: s) (.object (objectOf ms)) rest
  | word {c : Char} {t rest : List Char} {v : Value} (hc : isOpening c = false)
      (h : ∀ rest, word? (c :: (t ++ rest)) = some (c :: t, v)) :
      ValueForm (c :: (t ++ rest)) v rest
  | positive {c : Char} {s rest : List Char} {v : Value} (hc : isDigit c)
      (h : Reads (readNumber (c :: s) false (c :: s)) v rest) : ValueForm (c :: s) v rest
  | negative {c : Char} {s rest : List Char} {v : Value} (hc : isDigit c)
      (h : Reads (readNumber ('-' :: c :: s) true (c :: s)) v rest) :
      ValueForm ('-' :: c :: s) v rest

theorem valueForm_of_other {c : Char} (hc : isOpening c = false) {v : Value}
    (h : Reads (readValue (c :: s)) v rest) : ValueForm (c :: s) v rest := by
  obtain ⟨hr, h⟩ := h
  rw [readValue_other hc] at h
  split at h
  · next w u hword =>
    obtain ⟨d, t, after, rfl, -, hs, hfront⟩ := word?_append hword
    obtain ⟨rfl, rfl⟩ := List.cons.inj hs
    obtain ⟨rfl, hrest⟩ := Prod.mk.inj (Except.ok.inj h)
    have hrest : (c :: (t ++ after)).drop (max 1 (c :: t).length) = rest :=
      congrArg Subtype.val hrest
    rw [List.length_cons, Nat.max_eq_right (by omega), List.drop_succ_cons,
      List.drop_left] at hrest
    subst hrest
    exact .word hc hfront
  · split_ifs at h with hminus
    · subst hminus
      obtain ⟨⟨w, after, ha⟩, hw, h⟩ := Except.bind_eq_ok_iff.mp h
      obtain ⟨rfl, hrest⟩ := Prod.mk.inj (Except.ok.inj h)
      obtain rfl : after = rest := congrArg Subtype.val hrest
      obtain ⟨d, t, hd, hs, -⟩ := readNumber_front (reads_of_eq hw)
      have hs : s = d :: (t ++ after) := hs
      subst hs
      exact .negative hd (reads_of_eq hw)
    · obtain ⟨d, t, hd, hs, -⟩ := readNumber_front (reads_of_eq h)
      have hhead : c = d := (List.cons.inj hs).1
      exact .positive (hhead ▸ hd) ⟨hr, h⟩

theorem valueForm_of_reads {v : Value} (h : Reads (readValue s) v rest) : ValueForm s v rest := by
  match s with
  | [] => simp [readValue, Reads] at h
  | c :: s =>
    by_cases hc : isOpening c
    · obtain ⟨hr, h⟩ := h
      simp only [isOpening, Bool.or_eq_true, beq_iff_eq] at hc
      rcases hc with (rfl | rfl) | rfl
      · rw [readValue, if_pos rfl] at h
        obtain ⟨⟨cs, after⟩, hcs, h⟩ := Except.bind_eq_ok_iff.mp h
        obtain ⟨rfl, hrest⟩ := Prod.mk.inj (Except.ok.inj h)
        obtain rfl : after.1 = rest := congrArg Subtype.val hrest
        exact .quoted (reads_of_eq hcs)
      · rw [readValue, if_neg (by decide), if_pos rfl] at h
        split at h
        · next after hb =>
          obtain ⟨rfl, hrest⟩ := Prod.mk.inj (Except.ok.inj h)
          obtain rfl : after = rest := congrArg Subtype.val hrest
          exact .emptyList hb
        · obtain ⟨⟨vs, after⟩, hvs, h⟩ := Except.bind_eq_ok_iff.mp h
          obtain ⟨rfl, hrest⟩ := Prod.mk.inj (Except.ok.inj h)
          obtain rfl : after.1 = rest := congrArg Subtype.val hrest
          exact .list (reads_of_eq hvs)
      · rw [readValue, if_neg (by decide), if_neg (by decide), if_pos rfl] at h
        split at h
        · next after hb =>
          obtain ⟨rfl, hrest⟩ := Prod.mk.inj (Except.ok.inj h)
          obtain rfl : after = rest := congrArg Subtype.val hrest
          exact .emptyObject hb
        · obtain ⟨⟨ms, after⟩, hms, h⟩ := Except.bind_eq_ok_iff.mp h
          obtain ⟨rfl, hrest⟩ := Prod.mk.inj (Except.ok.inj h)
          obtain rfl : after.1 = rest := congrArg Subtype.val hrest
          exact .object (reads_of_eq hms)
    · exact valueForm_of_other (by simpa using hc) h

/-- Items in front of a text: a last one, or one and more after a comma. -/
theorem readItems_cases {vs : List Value} {after : List Char}
    (h : Reads (readItems s) vs after) : ∃ v rest, Reads (readValue s) v rest ∧
      ((skipBlanks rest = ']' :: after ∧ vs = [v]) ∨
        ∃ more us, skipBlanks rest = ',' :: more ∧ Reads (readItems (skipBlanks more)) us after ∧
          vs = v :: us) := by
  obtain ⟨ha, h⟩ := h
  rw [readItems] at h
  obtain ⟨⟨v, rest⟩, hv, h⟩ := Except.bind_eq_ok_iff.mp h
  refine ⟨v, rest.1, reads_of_eq hv, ?_⟩
  dsimp only at h
  split at h
  · next hb =>
    obtain ⟨rfl, hrest⟩ := Prod.mk.inj (Except.ok.inj h)
    obtain rfl := congrArg Subtype.val hrest
    exact .inl ⟨hb, rfl⟩
  · next more hb =>
    obtain ⟨⟨us, last⟩, hus, h⟩ := Except.bind_eq_ok_iff.mp h
    obtain ⟨rfl, hrest⟩ := Prod.mk.inj (Except.ok.inj h)
    obtain rfl : last.1 = after := congrArg Subtype.val hrest
    exact .inr ⟨more, us, hb, reads_of_eq hus, rfl⟩
  · cases h

/-- Members in front of a text: a last one, or one and more after a comma. -/
theorem readMembers_cases {ms : List (String × Value)} {after : List Char}
    (h : Reads (readMembers s) ms after) : ∃ opened key afterKey afterColon v rest,
      s = '"' :: opened ∧ Reads (readQuoted opened) key afterKey ∧
      skipBlanks afterKey = ':' :: afterColon ∧
      Reads (readValue (skipBlanks afterColon)) v rest ∧
      ((skipBlanks rest = '\x7d' :: after ∧ ms = [(String.ofList key, v)]) ∨
        ∃ more others, skipBlanks rest = ',' :: more ∧
          Reads (readMembers (skipBlanks more)) others after ∧
          ms = (String.ofList key, v) :: others) := by
  obtain ⟨ha, h⟩ := h
  unfold readMembers at h
  split at h
  · next opened =>
    obtain ⟨⟨key, afterKey⟩, hkey, h⟩ := Except.bind_eq_ok_iff.mp h
    dsimp only at h
    split at h
    · next afterColon hc =>
      obtain ⟨⟨v, rest⟩, hv, h⟩ := Except.bind_eq_ok_iff.mp h
      refine ⟨opened, key, afterKey.1, afterColon, v, rest.1, rfl, reads_of_eq hkey, hc,
        reads_of_eq hv, ?_⟩
      dsimp only at h
      split at h
      · next hb =>
        obtain ⟨rfl, hrest⟩ := Prod.mk.inj (Except.ok.inj h)
        obtain rfl := congrArg Subtype.val hrest
        exact .inl ⟨hb, rfl⟩
      · next more hb =>
        obtain ⟨⟨others, last⟩, hothers, h⟩ := Except.bind_eq_ok_iff.mp h
        obtain ⟨rfl, hrest⟩ := Prod.mk.inj (Except.ok.inj h)
        obtain rfl : last.1 = after := congrArg Subtype.val hrest
        exact .inr ⟨more, others, hb, reads_of_eq hothers, rfl⟩
      · cases h
    · cases h
  · cases h

theorem stopsNumber_blanks {blanks : List Char} (hb : Blank blanks) (h : StopsNumber s) :
    StopsNumber (blanks ++ s) := by
  intro c hc
  cases blanks with
  | nil => exact h c hc
  | cons b blanks =>
    obtain rfl : b = c := Option.some.inj hc
    have hblank : isBlank b := hb b (by simp)
    simp only [isBlank, Bool.or_eq_true, beq_iff_eq] at hblank
    rcases hblank with ((rfl | rfl) | rfl) | rfl
    all_goals exact ⟨by decide, by decide, by decide, by decide⟩

theorem stopsNumber_nil : StopsNumber [] := by
  intro c hc
  cases hc

theorem stopsNumber_mark {c : Char} (hc : c = ':' ∨ c = ',' ∨ c = ']' ∨ c = '\x7d') :
    StopsNumber (c :: s) := by
  intro d hd
  obtain rfl : c = d := Option.some.inj hd
  rcases hc with rfl | rfl | rfl | rfl
  all_goals exact ⟨by decide, by decide, by decide, by decide⟩

/-- A text of a value, which is read from every text with that front. A number has to be stopped by
what follows it. -/
structure Spells (t : List Char) (v : Value) : Prop where
  unpadded : ∀ rest, skipBlanks (t ++ rest) = t ++ rest
  reads : ∀ rest, StopsNumber rest → Reads (readValue (t ++ rest)) v rest

/-- A text of a value with blanks around it. -/
inductive Padded : List Char → Value → Prop
  | mk {before t after : List Char} {v : Value} (hbefore : Blank before) (ht : Spells t v)
      (hafter : Blank after) : Padded (before ++ (t ++ after)) v

/-- Texts of the items of a list, with commas between them; there is at least one. -/
inductive ItemsText (P : List Char → Value → Prop) : List Char → List Value → Prop
  | last {t : List Char} {v : Value} (hv : P t v) : ItemsText P t [v]
  | more {t u : List Char} {v : Value} {vs : List Value} (hv : P t v) (hvs : ItemsText P u vs) :
      ItemsText P (t ++ ',' :: u) (v :: vs)

/-- Texts of the members of an object, with commas between them: a name, a colon and a value. There
is at least one. -/
inductive MembersText (P : List Char → Value → Prop) : List Char → List (String × Value) → Prop
  | last {k t : List Char} {key : String} {v : Value} (hk : P k (.text key)) (hv : P t v) :
      MembersText P (k ++ ':' :: t) [(key, v)]
  | more {k t u : List Char} {key : String} {v : Value} {ms : List (String × Value)}
      (hk : P k (.text key)) (hv : P t v) (hms : MembersText P u ms) :
      MembersText P (k ++ ':' :: (t ++ ',' :: u)) ((key, v) :: ms)

theorem Padded.reads {v : Value} (h : Padded s v) (rest : List Char) (hstops : StopsNumber rest) :
    ∃ after, Reads (readValue (skipBlanks (s ++ rest))) v after ∧
      skipBlanks after = skipBlanks rest := by
  cases h with
  | @mk before t after v hbefore ht hafter =>
    refine ⟨after ++ rest, ?_, skipBlanks_append hafter rest⟩
    rw [List.append_assoc, List.append_assoc, skipBlanks_append hbefore, ht.unpadded]
    exact ht.reads _ (stopsNumber_blanks hafter hstops)

/-- Values that are written as numbers or words. -/
def Bare : Value → Prop
  | .scalar (.text _) | .list _ | .object _ => False
  | _ => True

theorem bare_of_numberOf {negative : Bool} {whole fraction : List Char}
    {exponent : Option (Bool × List Char)} {v : Value}
    (h : numberOf negative whole fraction exponent = .ok v) : Bare v := by
  unfold numberOf at h
  split_ifs at h
  all_goals
    obtain rfl := Except.ok.inj h
    trivial

theorem bare_of_readNumber {start : List Char} {negative : Bool} {v : Value}
    (h : Reads (readNumber start negative s) v rest) : Bare v := by
  obtain ⟨hr, h⟩ := h
  unfold readNumber at h
  split at h
  · cases h
  · split_ifs at h
    obtain ⟨w, hw, h⟩ := Except.bind_eq_ok_iff.mp h
    obtain ⟨rfl, -⟩ := Prod.mk.inj (Except.ok.inj h)
    exact bare_of_numberOf hw

theorem bare_of_word? {w : List Char} {v : Value} (h : word? s = some (w, v)) : Bare v := by
  have hmem : (w, v) ∈ words := List.mem_of_find?_eq_some h
  rw [words_eq] at hmem
  simp only [List.mem_cons, Prod.mk.injEq, List.not_mem_nil, or_false] at hmem
  rcases hmem with ⟨-, rfl⟩ | ⟨-, rfl⟩ | ⟨-, rfl⟩ | ⟨-, rfl⟩ | ⟨-, rfl⟩ | ⟨-, rfl⟩
  all_goals trivial

/-- A text that reads as a value that is a text starts with a quote. -/
theorem reads_quoted {key : String} (h : Reads (readValue s) (.text key) rest) :
    ∃ opened cs, s = '"' :: opened ∧ key = String.ofList cs ∧
      Reads (readQuoted opened) cs rest := by
  generalize hv : Value.text key = v at h
  cases valueForm_of_reads h with
  | @quoted opened cs _ h =>
    cases hv
    exact ⟨opened, cs, rfl, rfl, h⟩
  | emptyList | list | emptyObject | object => cases hv
  | word _ hword =>
    subst hv
    exact (bare_of_word? (hword [])).elim
  | positive _ h | negative _ h =>
    subst hv
    exact (bare_of_readNumber h).elim

theorem Padded.reads_quoted {key : String} (h : Padded s (.text key)) (rest : List Char) :
    ∃ opened cs after, skipBlanks (s ++ rest) = '"' :: opened ∧ key = String.ofList cs ∧
      Reads (readQuoted opened) cs after ∧ skipBlanks after = skipBlanks rest := by
  generalize hv : Value.text key = v at h
  cases h with
  | @mk before t after v hbefore ht hafter =>
    subst hv
    have hread := ht.reads [] stopsNumber_nil
    obtain ⟨opened, cs, hopened, rfl, hquoted⟩ := Json.reads_quoted hread
    obtain ⟨u, rfl, hfront⟩ := readQuoted_front hquoted
    refine ⟨u ++ (after ++ rest), cs, after ++ rest, ?_, rfl, hfront _,
      skipBlanks_append hafter rest⟩
    rw [List.append_nil, List.append_nil] at hopened
    rw [List.append_assoc, List.append_assoc, skipBlanks_append hbefore, ht.unpadded, hopened,
      List.cons_append]

theorem ItemsText.reads {vs : List Value} (h : ItemsText Padded s vs) (rest : List Char) :
    Reads (readItems (skipBlanks (s ++ ']' :: rest))) vs rest := by
  induction h with
  | last hv =>
    obtain ⟨after, hread, hafter⟩ := hv.reads (']' :: rest) (stopsNumber_mark (by simp))
    exact readItems_last hread hafter
  | @more t u v vs hv _ ih =>
    obtain ⟨after, hread, hafter⟩ :=
      hv.reads (',' :: (u ++ ']' :: rest)) (stopsNumber_mark (by simp))
    rw [List.append_assoc, List.cons_append]
    exact readItems_more hread hafter ih

theorem MembersText.reads {ms : List (String × Value)} (h : MembersText Padded s ms)
    (rest : List Char) : Reads (readMembers (skipBlanks (s ++ '\x7d' :: rest))) ms rest := by
  induction h with
  | @last k t key v hk hv =>
    obtain ⟨opened, cs, afterKey, hopened, rfl, hkey, hcolon⟩ :=
      hk.reads_quoted (':' :: (t ++ '\x7d' :: rest))
    obtain ⟨after, hread, hafter⟩ := hv.reads ('\x7d' :: rest) (stopsNumber_mark (by simp))
    rw [List.append_assoc, List.cons_append, hopened]
    exact readMembers_last hkey hcolon hread hafter
  | @more k t u key v ms hk hv _ ih =>
    obtain ⟨opened, cs, afterKey, hopened, rfl, hkey, hcolon⟩ :=
      hk.reads_quoted (':' :: (t ++ ',' :: (u ++ '\x7d' :: rest)))
    obtain ⟨after, hread, hafter⟩ :=
      hv.reads (',' :: (u ++ '\x7d' :: rest)) (stopsNumber_mark (by simp))
    rw [List.append_assoc, List.cons_append, List.append_assoc, List.cons_append, hopened]
    exact readMembers_more hkey hcolon hread hafter ih

/-- What the readers take from a text after its blanks are texts of values. -/
structure Fronts (s : List Char) : Prop where
  value : ∀ v rest, Reads (readValue (skipBlanks s)) v rest →
    ∃ before t, Blank before ∧ s = before ++ (t ++ rest) ∧ Spells t v
  items : ∀ vs rest, Reads (readItems (skipBlanks s)) vs rest →
    ∃ t, s = t ++ ']' :: rest ∧ ItemsText Padded t vs
  members : ∀ ms rest, Reads (readMembers (skipBlanks s)) ms rest →
    ∃ t, s = t ++ '\x7d' :: rest ∧ MembersText Padded t ms

theorem ValueForm.front {v : Value} (ih : ∀ u, u.length < s.length → Fronts u)
    (h : ValueForm s v rest) : ∃ t, s = t ++ rest ∧ t ≠ [] ∧
      ∀ rest', StopsNumber rest' → Reads (readValue (t ++ rest')) v rest' := by
  cases h with
  | @quoted s cs _ h =>
    obtain ⟨t, rfl, hfront⟩ := readQuoted_front h
    exact ⟨'"' :: t, rfl, by simp, fun rest' _ => readValue_quoted (hfront rest')⟩
  | @emptyList s _ h =>
    obtain ⟨blanks, hblanks, rfl⟩ := exists_blanks h
    refine ⟨'[' :: (blanks ++ [']']), by simp, by simp, fun rest' _ => ?_⟩
    rw [List.cons_append, List.append_assoc]
    exact readValue_emptyList (by rw [skipBlanks_append hblanks]; rfl)
  | @list s _ vs h =>
    obtain ⟨t, rfl, ht⟩ := (ih s (by simp)).items _ _ h
    refine ⟨'[' :: (t ++ [']']), by simp, by simp, fun rest' _ => ?_⟩
    rw [List.cons_append, List.append_assoc]
    exact readValue_list (ht.reads rest')
  | @emptyObject s _ h =>
    obtain ⟨blanks, hblanks, rfl⟩ := exists_blanks h
    refine ⟨'\x7b' :: (blanks ++ ['\x7d']), by simp, by simp, fun rest' _ => ?_⟩
    rw [List.cons_append, List.append_assoc]
    exact readValue_emptyObject (by rw [skipBlanks_append hblanks]; rfl)
  | @object s _ ms h =>
    obtain ⟨t, rfl, ht⟩ := (ih s (by simp)).members _ _ h
    refine ⟨'\x7b' :: (t ++ ['\x7d']), by simp, by simp, fun rest' _ => ?_⟩
    rw [List.cons_append, List.append_assoc]
    exact readValue_object (ht.reads rest')
  | @word c t _ v hc hword =>
    exact ⟨c :: t, rfl, by simp, fun rest' _ => readValue_word hc (hword rest')⟩
  | @positive c s _ v hc h =>
    obtain ⟨d, t, hd, hs, hfront⟩ := readNumber_front h
    obtain ⟨rfl, rfl⟩ := List.cons.inj hs
    exact ⟨c :: t, rfl, by simp, fun rest' hstops => readValue_positive hc (hfront _ rest' hstops)⟩
  | @negative c s _ v hc h =>
    obtain ⟨d, t, hd, hs, hfront⟩ := readNumber_front h
    obtain ⟨rfl, rfl⟩ := List.cons.inj hs
    exact ⟨'-' :: c :: t, rfl, by simp,
      fun rest' hstops => readValue_negative hc (hfront _ rest' hstops)⟩

theorem value_front (ih : ∀ u, u.length < s.length → Fronts u) {v : Value}
    (h : Reads (readValue (skipBlanks s)) v rest) :
    ∃ before t, Blank before ∧ s = before ++ (t ++ rest) ∧ Spells t v := by
  have hform := valueForm_of_reads h
  have hle := length_skipBlanks_le s
  obtain ⟨t, ht, hne, hreads⟩ := hform.front fun u hu => ih u (by omega)
  obtain ⟨before, hbefore, hs⟩ := exists_blanks ht
  exact ⟨before, t, hbefore, hs, skipBlanks_front hne ht, hreads⟩

theorem items_front (ih : ∀ u, u.length < s.length → Fronts u) {vs : List Value}
    {after : List Char} (h : Reads (readItems (skipBlanks s)) vs after) :
    ∃ t, s = t ++ ']' :: after ∧ ItemsText Padded t vs := by
  obtain ⟨v, rest, hv, hcases⟩ := readItems_cases h
  obtain ⟨before, t, hbefore, rfl, ht⟩ := value_front ih hv
  rcases hcases with ⟨hlast, rfl⟩ | ⟨more, us, hcomma, hus, rfl⟩
  · obtain ⟨blanks, hblanks, rfl⟩ := exists_blanks hlast
    exact ⟨before ++ (t ++ blanks), by simp, .last (.mk hbefore ht hblanks)⟩
  · obtain ⟨blanks, hblanks, rfl⟩ := exists_blanks hcomma
    have hlength : more.length < (before ++ (t ++ (blanks ++ ',' :: more))).length := by
      simp only [List.length_append, List.length_cons]
      omega
    obtain ⟨u, rfl, hu⟩ := (ih more hlength).items _ _ hus
    exact ⟨before ++ (t ++ blanks) ++ ',' :: u, by simp, .more (.mk hbefore ht hblanks) hu⟩

theorem spells_quoted {k key : List Char}
    (h : ∀ rest, Reads (readQuoted (k ++ rest)) key rest) :
    Spells ('"' :: k) (.text (String.ofList key)) :=
  ⟨fun _ => rfl, fun rest _ => readValue_quoted (h rest)⟩

theorem members_front (ih : ∀ u, u.length < s.length → Fronts u) {ms : List (String × Value)}
    {after : List Char} (h : Reads (readMembers (skipBlanks s)) ms after) :
    ∃ t, s = t ++ '\x7d' :: after ∧ MembersText Padded t ms := by
  obtain ⟨opened, key, afterKey, afterColon, v, rest, hopened, hkey, hcolon, hv, hcases⟩ :=
    readMembers_cases h
  obtain ⟨before, hbefore, rfl⟩ := exists_blanks hopened
  obtain ⟨k, rfl, hk⟩ := readQuoted_front hkey
  obtain ⟨gap, hgap, rfl⟩ := exists_blanks hcolon
  have hpadded : Padded (before ++ ('"' :: k ++ gap)) (.text (String.ofList key)) :=
    .mk hbefore (spells_quoted hk) hgap
  have hlength : afterColon.length <
      (before ++ '"' :: (k ++ (gap ++ ':' :: afterColon))).length := by
    simp only [List.length_append, List.length_cons]
    omega
  obtain ⟨inner, t, hinner, rfl, ht⟩ := (ih afterColon hlength).value _ _ hv
  rcases hcases with ⟨hlast, rfl⟩ | ⟨more, others, hcomma, hothers, rfl⟩
  · obtain ⟨blanks, hblanks, rfl⟩ := exists_blanks hlast
    exact ⟨before ++ ('"' :: k ++ gap) ++ ':' :: (inner ++ (t ++ blanks)), by simp,
      .last hpadded (.mk hinner ht hblanks)⟩
  · obtain ⟨blanks, hblanks, rfl⟩ := exists_blanks hcomma
    have hmore : more.length < (before ++ '"' :: (k ++ (gap ++ ':' ::
        (inner ++ (t ++ (blanks ++ ',' :: more)))))).length := by
      simp only [List.length_append, List.length_cons]
      omega
    obtain ⟨u, rfl, hu⟩ := (ih more hmore).members _ _ hothers
    exact ⟨before ++ ('"' :: k ++ gap) ++ ':' :: (inner ++ (t ++ blanks) ++ ',' :: u), by simp,
      .more hpadded (.mk hinner ht hblanks) hu⟩

theorem fronts (s : List Char) : Fronts s := by
  induction hn : s.length using Nat.strongRecOn generalizing s with
  | _ n ih =>
    have ih' : ∀ u, u.length < s.length → Fronts u := fun u hu => ih _ (hn ▸ hu) u rfl
    exact ⟨fun _ _ => value_front ih', fun _ _ => items_front ih', fun _ _ => members_front ih'⟩

end SplitTest.Json
