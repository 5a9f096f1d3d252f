import Mathlib.Tactic.Common
import SplitTest.Json.Document
import SplitTest.Proofs.Number.Numeral
import SplitTest.Proofs.Outcome

/-! Texts, numbers and words of JSON in front of a text. What a reader takes is told by the
characters it takes, whatever follows them; a number has to be stopped by what follows it. -/
namespace SplitTest.Json

variable {opening read s rest : List Char} {cs : List Char} {skip : Nat}

theorem length_of_readText_add (h : readText opening read skip s = .ok (cs, rest)) :
    rest.length + skip < s.length := by
  fun_induction readText opening read skip s with
  | case1 => cases h
  | case2 read skip c s ih =>
    have := ih h
    simp only [List.length_cons]
    omega
  | case3 => cases h; simp
  | case4 => cases h
  | case5 => cases h
  | case6 read more c taken hu ih =>
    have := ih h
    simp only [List.length_cons]
    omega
  | case7 => cases h
  | case8 read c s _ e he ih =>
    have := ih h
    simp only [List.length_cons]
    omega
  | case9 => cases h
  | case10 read c s _ _ _ _ hc ih =>
    have := ih h
    simp only [List.length_cons]
    omega

/-- What is read after some characters that are skipped. -/
theorem readText_drop (h : readText opening read skip s = .ok (cs, rest)) :
    readText opening read 0 (s.drop skip) = .ok (cs, rest) := by
  induction skip generalizing s with
  | zero => simpa using h
  | succ skip ih =>
    cases s with
    | nil => cases h
    | cons c s => exact ih h

theorem unicodeEscape_eq_ok_iff {c : Char} {taken : Nat} :
    unicodeEscape s = .ok (c, taken) ↔ ∃ n, fourHex? s = some n ∧
      if isHighSurrogate n then
        ∃ low?, lowHalf? (s.drop 4) = .ok low? ∧ (c, taken) = match low? with
          | some low => (Char.ofNat (0x10000 + (n - 0xd800) * 1024 + (low - 0xdc00)), 10)
          | none => (replacement, 4)
      else (c, taken) = (if isLowSurrogate n then replacement else Char.ofNat n, 4) := by
  unfold unicodeEscape
  cases fourHex? s with
  | none => simp
  | some n =>
    simp only [Option.some.injEq, exists_eq_left']
    split_ifs with hn
    · cases lowHalf? (s.drop 4) with
      | error e => simp
      | ok low? => cases low? <;> simp [eq_comm]
    all_goals simp [eq_comm]

theorem fourHex?_append {t : List Char} (ht : 5 ≤ t.length) (rest : List Char) :
    fourHex? (t ++ rest) = fourHex? t := by
  match t, ht with
  | _ :: _ :: _ :: _ :: _ :: _, _ => rfl

theorem taken_of_unicodeEscape {c : Char} {taken : Nat} (h : unicodeEscape s = .ok (c, taken)) :
    4 ≤ taken := by
  obtain ⟨n, -, h⟩ := unicodeEscape_eq_ok_iff.mp h
  by_cases hn : isHighSurrogate n
  · obtain ⟨low?, -, h⟩ := (if_pos hn).mp h
    cases low? with
    | none =>
      have hfour : taken = 4 := (Prod.mk.inj h).2
      omega
    | some low =>
      have hten : taken = 10 := (Prod.mk.inj h).2
      omega
  · have hfour : taken = 4 := (Prod.mk.inj ((if_neg hn).mp h)).2
    omega

theorem length_of_readText_unicode
    (h : readText opening read 0 ('\\' :: 'u' :: s) = .ok (cs, rest)) :
    rest.length + 5 ≤ s.length := by
  simp only [readText] at h
  split at h
  · cases h
  · next c taken hu =>
    have htaken := taken_of_unicodeEscape hu
    have hlength := length_of_readText_add h
    omega

theorem length_of_readText_escape (h : readText opening read 0 ('\\' :: s) = .ok (cs, rest)) :
    rest.length + 1 < s.length := by
  match s with
  | [] => simp [readText] at h
  | c :: s =>
    by_cases hc : c = 'u'
    · subst hc
      have := length_of_readText_unicode h
      simp only [List.length_cons]
      omega
    · simp only [readText] at h
      split at h
      · cases h
      · have := length_of_readText_add h
        simp only [List.length_cons]
        omega

/-- Whether a low surrogate is escaped is told by the front of a text that is long enough. -/
theorem lowHalf?_append {t : List Char} {low? : Option Nat} (h : lowHalf? (t ++ rest) = .ok low?)
    (ht : t ≠ []) (hescape : t ≠ ['\\']) (hunicode : ∀ u, t = '\\' :: 'u' :: u → 5 ≤ u.length)
    (rest' : List Char) : lowHalf? (t ++ rest') = .ok low? := by
  match t with
  | [] => exact absurd rfl ht
  | [c] =>
    have hc : c ≠ '\\' := fun hc => hescape (by rw [hc])
    simpa [lowHalf?, hc] using h
  | c :: d :: u =>
    by_cases hcd : c = '\\' ∧ d = 'u'
    · obtain ⟨rfl, rfl⟩ := hcd
      have hu := hunicode u rfl
      have hlong : ∀ r : List Char, ¬ (u ++ r).length ≤ 4 := fun r => by
        simp only [List.length_append]
        omega
      simp only [List.cons_append, lowHalf?, hlong, if_false, fourHex?_append hu] at h ⊢
      cases hn : fourHex? u with
      | none => simp [hn] at h
      | some n => simpa [hn] using h
    · have hnone : ∀ r : List Char, lowHalf? (c :: d :: u ++ r) = .ok none := fun r => by
        unfold lowHalf?
        split
        · next heq =>
          simp only [List.cons_append, List.cons.injEq] at heq
          exact absurd ⟨heq.1, heq.2.1⟩ hcd
        · rfl
      rw [hnone] at h ⊢
      exact h

theorem lowHalf?_append_of_length {t : List Char} {low? : Option Nat}
    (h : lowHalf? (t ++ rest) = .ok low?) (ht : 6 < t.length) (rest' : List Char) :
    lowHalf? (t ++ rest') = .ok low? := by
  refine lowHalf?_append h ?_ ?_ ?_ rest'
  · rintro rfl
    simp at ht
  · rintro rfl
    simp at ht
  · rintro u rfl
    simp only [List.length_cons] at ht
    omega

/-- A text that can be read on is long enough. -/
theorem lowHalf?_append_of_readText {t : List Char} {low? : Option Nat}
    (h : lowHalf? (t ++ rest) = .ok low?) (ht : t ≠ [])
    (hread : readText opening read 0 (t ++ rest) = .ok (cs, rest)) (rest' : List Char) :
    lowHalf? (t ++ rest') = .ok low? := by
  refine lowHalf?_append h ht ?_ ?_ rest'
  · rintro rfl
    have := length_of_readText_escape (s := rest) hread
    omega
  · rintro u rfl
    have := length_of_readText_unicode (s := u ++ rest) hread
    rw [List.length_append] at this
    omega

/-- An escape is told by the front of a text, if the text can be read on after it. -/
theorem unicodeEscape_append {t : List Char} {c : Char} {taken : Nat}
    (h : unicodeEscape (t ++ rest) = .ok (c, taken))
    (hread : readText opening read taken (t ++ rest) = .ok (cs, rest)) (rest' : List Char) :
    unicodeEscape (t ++ rest') = .ok (c, taken) := by
  have htaken : taken < t.length := by
    have := length_of_readText_add hread
    simp only [List.length_append] at this
    omega
  have hfour := taken_of_unicodeEscape h
  have hdrop : ∀ r, (t ++ r).drop 4 = t.drop 4 ++ r := fun r =>
    List.drop_append_of_le_length (by omega)
  have hlength : (t.drop 4).length = t.length - 4 := List.length_drop
  obtain ⟨n, hn, h⟩ := unicodeEscape_eq_ok_iff.mp h
  rw [fourHex?_append (by omega)] at hn
  refine unicodeEscape_eq_ok_iff.mpr ⟨n, by rwa [fourHex?_append (by omega)], ?_⟩
  by_cases hhigh : isHighSurrogate n
  · rw [if_pos hhigh, hdrop] at h ⊢
    obtain ⟨low?, hlow, hc⟩ := h
    refine ⟨low?, ?_, hc⟩
    cases low? with
    | some low =>
      have hten : taken = 10 := (Prod.mk.inj hc).2
      exact lowHalf?_append_of_length hlow (by omega) rest'
    | none =>
      have hnone : taken = 4 := (Prod.mk.inj hc).2
      subst hnone
      have hon := readText_drop hread
      rw [hdrop] at hon
      exact lowHalf?_append_of_readText hlow (List.ne_nil_of_length_pos (by omega)) hon rest'
  · rw [if_neg hhigh] at h ⊢
    exact h

theorem readText_plain {c : Char} (hquote : c ≠ '"') (hescape : c ≠ '\\') (hc : ¬ c.toNat < 32) :
    readText opening read 0 (c :: s) = readText opening (c :: read) 0 s := by
  rw [readText.eq_def]
  split <;> simp_all only [List.cons.injEq, reduceCtorEq, false_and, if_false]

theorem readText_front (h : readText opening read skip s = .ok (cs, rest)) :
    ∃ t, s = t ++ rest ∧
      ∀ opening rest', readText opening read skip (t ++ rest') = .ok (cs, rest') := by
  fun_induction readText opening read skip s with
  | case1 => cases h
  | case2 read skip c s ih =>
    obtain ⟨t, rfl, ht⟩ := ih h
    exact ⟨c :: t, rfl, ht⟩
  | case3 read s =>
    obtain ⟨rfl, rfl⟩ := Prod.mk.inj (Except.ok.inj h)
    exact ⟨['"'], rfl, fun _ _ => rfl⟩
  | case4 => cases h
  | case5 => cases h
  | case6 read more c taken hu ih =>
    obtain ⟨t, rfl, ht⟩ := ih h
    refine ⟨'\\' :: 'u' :: t, rfl, fun opening rest' => ?_⟩
    simp only [List.cons_append, readText, unicodeEscape_append hu h rest', ht]
  | case7 => cases h
  | case8 read c s hcu e he ih =>
    obtain ⟨t, rfl, ht⟩ := ih h
    refine ⟨'\\' :: c :: t, rfl, fun opening rest' => ?_⟩
    simp only [List.cons_append, readText, he, ht]
  | case9 => cases h
  | case10 read c s hquote hlone hu hescape hc ih =>
    have hplain : c ≠ '\\' := by
      intro heq
      cases s with
      | nil => exact hlone heq rfl
      | cons d s => exact hescape d s heq rfl
    obtain ⟨t, rfl, ht⟩ := ih h
    refine ⟨c :: t, rfl, fun opening rest' => ?_⟩
    rw [List.cons_append, readText_plain hquote hplain hc, ht]

/-- A text that does not go on with the digits in front of it. -/
def StopsDigits (s : List Char) : Prop :=
  ∀ c ∈ s.head?, isDigit c = false

/-- A text that does not go on with a number in front of it. -/
def StopsNumber (s : List Char) : Prop :=
  ∀ c ∈ s.head?, isDigit c = false ∧ c ≠ '.' ∧ c ≠ 'e' ∧ c ≠ 'E'

theorem StopsNumber.digits (h : StopsNumber s) : StopsDigits s :=
  fun c hc => (h c hc).1

theorem forall_takeWhile_digits (s : List Char) : ∀ c ∈ s.takeWhile isDigit, isDigit c :=
  List.all_eq_true.mp List.all_takeWhile

/-- The digits before a point, whatever stops the digits after them. -/
theorem wholeDigits_front (c : Char) (s : List Char) : ∃ t, s = t ++ (wholeDigits c s).2 ∧
    ∀ rest, StopsDigits rest → wholeDigits c (t ++ rest) = ((wholeDigits c s).1, rest) := by
  unfold wholeDigits
  by_cases hc : c = '0'
  · simp only [hc, if_true]
    exact ⟨[], rfl, fun _ _ => rfl⟩
  · simp only [hc, if_false]
    refine ⟨s.takeWhile isDigit, List.takeWhile_append_dropWhile.symm, fun rest hrest => ?_⟩
    obtain ⟨htake, hdrop⟩ := takeWhile_digits_append (forall_takeWhile_digits s) hrest
    rw [htake, hdrop]

theorem fractionDigits_of_stops {s : List Char} (h : ∀ c ∈ s.head?, c ≠ '.') :
    fractionDigits s = ([], s) := by
  unfold fractionDigits
  split
  · exact absurd rfl (h '.' rfl)
  · rfl

theorem fractionDigits_point {c : Char} (hc : isDigit c) (s : List Char) :
    fractionDigits ('.' :: c :: s) =
      ((c :: s).takeWhile isDigit, (c :: s).dropWhile isDigit) := by
  simp only [fractionDigits, hc, if_true]

theorem fractionDigits_front (s : List Char) : ∃ t, s = t ++ (fractionDigits s).2 ∧
    (t = [] ∨ t.head? = some '.') ∧
    ∀ rest, StopsDigits rest → (∀ c ∈ rest.head?, c ≠ '.') →
      fractionDigits (t ++ rest) = ((fractionDigits s).1, rest) := by
  by_cases h : ∃ c more, s = '.' :: c :: more ∧ isDigit c
  · obtain ⟨c, more, rfl, hc⟩ := h
    rw [fractionDigits_point hc]
    refine ⟨'.' :: (c :: more).takeWhile isDigit, ?_, .inr rfl, fun rest hrest _ => ?_⟩
    · rw [List.cons_append, List.takeWhile_append_dropWhile]
    · obtain ⟨htake, hdrop⟩ := takeWhile_digits_append (forall_takeWhile_digits (c :: more)) hrest
      rw [List.takeWhile_cons_of_pos hc, List.cons_append] at htake hdrop ⊢
      rw [List.cons_append, fractionDigits_point hc, htake, hdrop]
  · have hs : fractionDigits s = ([], s) := by
      unfold fractionDigits
      split
      · next c more =>
        have hc : ¬ isDigit c := fun hc => h ⟨c, more, rfl, hc⟩
        rw [if_neg hc]
      · rfl
    rw [hs]
    exact ⟨[], rfl, .inl rfl, fun rest _ hrest => fractionDigits_of_stops hrest⟩

theorem exponentDigits_of_stops {s : List Char} (h : ∀ c ∈ s.head?, c ≠ 'e' ∧ c ≠ 'E') :
    exponentDigits s = (none, s) := by
  unfold exponentDigits
  split
  · rfl
  · next c rest =>
    have hc := h c rfl
    simp [hc]

theorem readSign_front (s : List Char) : ∃ t, s = t ++ (readSign s).2 ∧
    ∀ c rest, isDigit c → readSign (t ++ c :: rest) = ((readSign s).1, c :: rest) := by
  unfold readSign
  split
  · exact ⟨['-'], rfl, fun _ _ _ => rfl⟩
  · exact ⟨['+'], rfl, fun _ _ _ => rfl⟩
  · refine ⟨[], rfl, fun c rest hc => ?_⟩
    rw [List.nil_append]
    split
    · next heq => cases heq; exact absurd hc (by decide)
    · next heq => cases heq; exact absurd hc (by decide)
    · rfl

theorem exponentDigits_front (s : List Char) : ∃ t, s = t ++ (exponentDigits s).2 ∧
    (t = [] ∨ t.head? = some 'e' ∨ t.head? = some 'E') ∧
    ∀ rest, StopsNumber rest → exponentDigits (t ++ rest) = ((exponentDigits s).1, rest) := by
  have hnone : ∃ t, s = t ++ s ∧ (t = [] ∨ t.head? = some 'e' ∨ t.head? = some 'E') ∧
      ∀ rest, StopsNumber rest → exponentDigits (t ++ rest) = (none, rest) :=
    ⟨[], rfl, .inl rfl, fun rest hrest =>
      exponentDigits_of_stops fun c hc => (hrest c hc).2.2⟩
  match s with
  | [] => exact hnone
  | e :: more =>
    by_cases h : (e = 'e' ∨ e = 'E') ∧ !((readSign more).2.takeWhile isDigit).isEmpty
    · obtain ⟨sign, hsign, hfront⟩ := readSign_front more
      have hs : exponentDigits (e :: more) =
          (some ((readSign more).1, (readSign more).2.takeWhile isDigit),
            (readSign more).2.dropWhile isDigit) := by
        simp only [exponentDigits]
        rw [if_pos h]
      obtain ⟨d, ds, hds⟩ : ∃ d ds, (readSign more).2.takeWhile isDigit = d :: ds := by
        cases hd : (readSign more).2.takeWhile isDigit with
        | nil => simp [hd] at h
        | cons d ds => exact ⟨d, ds, rfl⟩
      have hall := forall_takeWhile_digits (readSign more).2
      rw [hs]
      rw [hds] at hall ⊢
      refine ⟨e :: (sign ++ d :: ds), ?_, ?_, fun rest hrest => ?_⟩
      · rw [List.cons_append, List.append_assoc, ← hds, List.takeWhile_append_dropWhile, ← hsign]
      · rcases h.1 with rfl | rfl
        · exact .inr (.inl rfl)
        · exact .inr (.inr rfl)
      · have hread := hfront d (ds ++ rest) (hall d (by simp))
        obtain ⟨htake, hdrop⟩ := takeWhile_digits_append hall hrest.digits
        simp only [List.cons_append, List.append_assoc] at htake hdrop ⊢
        simp only [exponentDigits, hread, htake, hdrop]
        rw [if_pos ⟨h.1, rfl⟩]
    · have hs : exponentDigits (e :: more) = (none, e :: more) := by
        simp only [exponentDigits]
        rw [if_neg h]
      rw [hs]
      exact hnone

/-- A reader gives a value and leaves a rest. -/
def Reads {α : Type} {n : Nat} (outcome : Except Fault (α × Rest n)) (a : α) (rest : List Char) :
    Prop :=
  ∃ h, outcome = .ok (a, ⟨rest, h⟩)

theorem reads_of_eq {α : Type} {n : Nat} {outcome : Except Fault (α × Rest n)} {a : α}
    {r : Rest n} (h : outcome = .ok (a, r)) : Reads outcome a r.1 :=
  ⟨r.2, h⟩

theorem readNumber_digit (start : List Char) (negative : Bool) {c : Char} (hc : isDigit c)
    {v : Value} (hv : numberOf negative (wholeDigits c s).1 (fractionDigits (wholeDigits c s).2).1
      (exponentDigits (fractionDigits (wholeDigits c s).2).2).1 = .ok v) :
    Reads (readNumber start negative (c :: s)) v
      (exponentDigits (fractionDigits (wholeDigits c s).2).2).2 := by
  simp only [readNumber, hc, if_true, hv]
  exact reads_of_eq rfl

theorem readNumber_front {start : List Char} {negative : Bool} {v : Value}
    (h : Reads (readNumber start negative s) v rest) :
    ∃ c t, isDigit c ∧ s = c :: (t ++ rest) ∧ ∀ start rest', StopsNumber rest' →
      Reads (readNumber start negative (c :: (t ++ rest'))) v rest' := by
  obtain ⟨hr, h⟩ := h
  match s, hr, h with
  | [], _, h => cases h
  | c :: s, hr, h =>
    by_cases hc : isDigit c
    · simp only [readNumber, hc, if_true] at h
      obtain ⟨w, hw, h⟩ := Except.bind_eq_ok_iff.mp h
      obtain ⟨rfl, hrest⟩ := Prod.mk.inj (Except.ok.inj h)
      have hrest : (exponentDigits (fractionDigits (wholeDigits c s).2).2).2 = rest :=
        congrArg Subtype.val hrest
      obtain ⟨whole, hwhole, hwhole'⟩ := wholeDigits_front c s
      obtain ⟨fraction, hfraction, hpoint, hfraction'⟩ := fractionDigits_front (wholeDigits c s).2
      obtain ⟨exponent, hexponent, he, hexponent'⟩ :=
        exponentDigits_front (fractionDigits (wholeDigits c s).2).2
      refine ⟨c, whole ++ (fraction ++ exponent), hc, ?_, fun start rest' hstops => ?_⟩
      · rw [List.append_assoc, List.append_assoc, ← hrest, ← hexponent, ← hfraction, ← hwhole]
      · have hstops₁ : ∀ d ∈ (exponent ++ rest').head?, isDigit d = false ∧ d ≠ '.' := by
          intro d hd
          cases exponent with
          | nil => exact ⟨(hstops d hd).1, (hstops d hd).2.1⟩
          | cons e exponent =>
            obtain rfl : e = d := Option.some.inj hd
            rcases he with he | he | he <;> cases he <;> exact ⟨by decide, by decide⟩
        have hstops₂ : StopsDigits (fraction ++ (exponent ++ rest')) := by
          intro d hd
          cases fraction with
          | nil => exact (hstops₁ d hd).1
          | cons p fraction =>
            obtain rfl : p = d := Option.some.inj hd
            rcases hpoint with hp | hp <;> cases hp
            decide
        have h₁ := hwhole' _ hstops₂
        have h₂ := hfraction' (exponent ++ rest') (fun d hd => (hstops₁ d hd).1)
          fun d hd => (hstops₁ d hd).2
        have h₃ := hexponent' rest' hstops
        rw [List.append_assoc, List.append_assoc]
        have hnumber := readNumber_digit start negative hc (v := w)
          (s := whole ++ (fraction ++ (exponent ++ rest'))) (by rw [h₁, h₂, h₃]; exact hw)
        rwa [h₁, h₂, h₃] at hnumber
    · simp [readNumber, hc] at h

theorem words_eq : words =
    [(['n', 'u', 'l', 'l'], .null), (['t', 'r', 'u', 'e'], .bool true),
      (['f', 'a', 'l', 's', 'e'], .bool false), (['N', 'a', 'N'], .float .nan),
      (['I', 'n', 'f', 'i', 'n', 'i', 't', 'y'], .float (.infinity false)),
      (['-', 'I', 'n', 'f', 'i', 'n', 'i', 't', 'y'], .float (.infinity true))] := by
  simp [words]

/-- Characters that texts, lists and objects start with. -/
def isOpening (c : Char) : Bool :=
  c == '"' || c == '[' || c == '\x7b'

theorem not_isOpening_of_isDigit {c : Char} (hc : isDigit c) : isOpening c = false := by
  by_contra h
  simp only [isOpening, Bool.not_eq_false, Bool.or_eq_true, beq_iff_eq] at h
  rcases h with (rfl | rfl) | rfl
  all_goals exact absurd hc (by decide)

theorem word?_append {w : List Char} {v : Value} (h : word? s = some (w, v)) :
    ∃ c t rest, w = c :: t ∧ isOpening c = false ∧ s = c :: (t ++ rest) ∧
      ∀ rest', word? (c :: (t ++ rest')) = some (c :: t, v) := by
  have hmem : (w, v) ∈ words := List.mem_of_find?_eq_some h
  have hfront := List.find?_some h
  obtain ⟨rest, rfl⟩ := List.isPrefixOf_iff_prefix.mp hfront
  unfold word?
  rw [words_eq] at hmem ⊢
  simp only [List.mem_cons, Prod.mk.injEq, List.not_mem_nil, or_false] at hmem
  rcases hmem with ⟨rfl, rfl⟩ | ⟨rfl, rfl⟩ | ⟨rfl, rfl⟩ | ⟨rfl, rfl⟩ | ⟨rfl, rfl⟩ | ⟨rfl, rfl⟩
  all_goals exact ⟨_, _, rest, rfl, rfl, rfl, fun rest' => rfl⟩

/-- No word starts with a number. -/
theorem word?_number {c : Char} (hc : isDigit c) (s : List Char) :
    word? (c :: s) = none ∧ word? ('-' :: c :: s) = none := by
  unfold word?
  simp only [List.find?_eq_none, words_eq]
  refine ⟨fun w hw hfront => ?_, fun w hw hfront => ?_⟩
  all_goals
    obtain ⟨t, ht⟩ := List.isPrefixOf_iff_prefix.mp hfront
    simp only [List.mem_cons, List.not_mem_nil, or_false] at hw
    rcases hw with rfl | rfl | rfl | rfl | rfl | rfl
    all_goals
      simp only [List.cons_append, List.cons.injEq, Char.reduceEq, false_and, true_and] at ht
  all_goals
    obtain rfl := ht.1
    exact absurd hc (by decide)

theorem reads_readQuoted_iff : Reads (readQuoted s) cs rest ↔
    readText ('"' :: s) [] 0 s = .ok (cs, rest) := by
  unfold readQuoted Reads
  split
  · next ds after h =>
    simp only [Except.ok.injEq, Prod.mk.injEq, Subtype.mk.injEq, h]
    exact ⟨fun ⟨_, hd, ha⟩ => ⟨hd, ha⟩, fun ⟨hd, ha⟩ => ⟨ha ▸ length_of_readText h, hd, ha⟩⟩
  · next e h => simp [h]

theorem readQuoted_front (h : Reads (readQuoted s) cs rest) :
    ∃ t, s = t ++ rest ∧ ∀ rest', Reads (readQuoted (t ++ rest')) cs rest' := by
  obtain ⟨t, ht, hfront⟩ := readText_front (reads_readQuoted_iff.mp h)
  exact ⟨t, ht, fun rest' => reads_readQuoted_iff.mpr (hfront _ rest')⟩

end SplitTest.Json
