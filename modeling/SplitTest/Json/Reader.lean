import SplitTest.Json.Fault
import SplitTest.Number.Reading
import SplitTest.Value.Basic

/-! Reading JSON documents. Every reader gives back a rest that is shorter than its text.

Texts are well-formed Unicode, so half of a surrogate pair is no character: where one is escaped
alone it is read as the replacement character, and is not kept as it is. -/
namespace SplitTest.Json

/-- The object of members in the order of their text: a repeated name keeps its first position and
its last value. -/
def objectOf (members : List (String × Value)) : Entries :=
  (Assoc.ofList members).map fun (name, v) => (.text name, v)

/-- What is left of a text after some of it was read. -/
abbrev Rest (bound : Nat) := { rest : List Char // rest.length < bound }

def isBlank (c : Char) : Bool :=
  c == ' ' || c == '\t' || c == '\n' || c == '\r'

def skipBlanks (s : List Char) : List Char :=
  s.dropWhile isBlank

theorem length_skipBlanks_le (s : List Char) : (skipBlanks s).length ≤ s.length :=
  (List.dropWhile_sublist isBlank).length_le

def hexValue? (c : Char) : Option Nat :=
  if '0' ≤ c ∧ c ≤ '9' then some (c.toNat - '0'.toNat)
  else if 'a' ≤ c ∧ c ≤ 'f' then some (c.toNat - 'a'.toNat + 10)
  else if 'A' ≤ c ∧ c ≤ 'F' then some (c.toNat - 'A'.toNat + 10)
  else none

/-- The number of four hexadecimal digits, if one more character follows them. -/
def fourHex? : List Char → Option Nat
  | a :: b :: c :: d :: _ :: _ => do
    return (← hexValue? a) * 4096 + (← hexValue? b) * 256 + (← hexValue? c) * 16 + (← hexValue? d)
  | _ => none

def escapeChar? : Char → Option Char
  | '"' => some '"'
  | '\\' => some '\\'
  | '/' => some '/'
  | 'b' => some '\x08'
  | 'f' => some '\x0c'
  | 'n' => some '\n'
  | 'r' => some '\r'
  | 't' => some '\t'
  | _ => none

def isHighSurrogate (n : Nat) : Bool := 0xd800 ≤ n && n ≤ 0xdbff

def isLowSurrogate (n : Nat) : Bool := 0xdc00 ≤ n && n ≤ 0xdfff

/-- The low half of a surrogate pair, if one is escaped at the start of a text; in error the rest
from its `u` on. -/
def lowHalf? : List Char → Except (List Char) (Option Nat)
  | '\\' :: 'u' :: more =>
    if more.length ≤ 4 then .ok none
    else match fourHex? more with
      | none => .error ('u' :: more)
      | some low => .ok (if isLowSurrogate low then some low else none)
  | _ => .ok none

/-- The character that stands for a surrogate without its other half. -/
def replacement : Char := '\ufffd'

/-- The escape after a backslash and `u`: its character and how many characters it takes, or the
rest from the `u` on that is in error. A pair of surrogates is one character. -/
def unicodeEscape (s : List Char) : Except (List Char) (Char × Nat) :=
  match fourHex? s with
  | none => .error ('u' :: s)
  | some n =>
    if isHighSurrogate n then do
      match ← lowHalf? (s.drop 4) with
      | some low => return (Char.ofNat (0x10000 + (n - 0xd800) * 1024 + (low - 0xdc00)), 10)
      | none => return (replacement, 4)
    else .ok (if isLowSurrogate n then replacement else Char.ofNat n, 4)

/-- The characters of a text up to its closing quote, after `skip` characters that were read before;
`opening` is the rest from its opening quote. -/
def readText (opening read : List Char) : Nat → List Char → Except Fault (List Char × List Char)
  | _, [] => .error (.problem .unterminatedText opening)
  | skip + 1, _ :: rest => readText opening read skip rest
  | 0, '"' :: rest => .ok (read.reverse, rest)
  | 0, ['\\'] => .error (.problem .unterminatedText opening)
  | 0, '\\' :: 'u' :: more =>
    match unicodeEscape more with
    | .error rest => .error (.problem .unicodeEscape rest)
    | .ok (c, taken) => readText opening (c :: read) taken more
  | 0, '\\' :: c :: rest =>
    match escapeChar? c with
    | none => .error (.problem .escape ('\\' :: c :: rest))
    | some e => readText opening (e :: read) 0 rest
  | 0, c :: rest =>
    if c.toNat < 32 then .error (.problem .controlCharacter (c :: rest))
    else readText opening (c :: read) 0 rest

theorem length_of_readText {opening read s cs rest : List Char} {skip : Nat}
    (h : readText opening read skip s = .ok (cs, rest)) : rest.length < s.length := by
  fun_induction readText opening read skip s with
  | case1 => cases h
  | case2 _ _ _ _ ih => exact Nat.lt_succ_of_lt (ih h)
  | case3 => cases h; exact Nat.lt_succ_self _
  | case4 => cases h
  | case5 => cases h
  | case6 _ _ _ _ _ ih => exact Nat.lt_succ_of_lt (Nat.lt_succ_of_lt (ih h))
  | case7 => cases h
  | case8 _ _ _ _ _ _ ih => exact Nat.lt_succ_of_lt (Nat.lt_succ_of_lt (ih h))
  | case9 => cases h
  | case10 _ _ _ _ _ _ _ _ ih => exact Nat.lt_succ_of_lt (ih h)

/-- The text whose opening quote stands in front of `s`. -/
def readQuoted (s : List Char) : Except Fault (List Char × Rest s.length) :=
  match h : readText ('"' :: s) [] 0 s with
  | .ok (cs, rest) => .ok (cs, ⟨rest, length_of_readText h⟩)
  | .error e => .error e

/-- The digits of a fraction after its point, if there is one. -/
def fractionDigits (s : List Char) : List Char × List Char :=
  match s with
  | '.' :: c :: rest =>
    if isDigit c then ((c :: rest).takeWhile isDigit, (c :: rest).dropWhile isDigit) else ([], s)
  | _ => ([], s)

/-- The sign and digits of an exponent part, if there is one with digits. -/
def exponentDigits (s : List Char) : Option (Bool × List Char) × List Char :=
  match s with
  | [] => (none, s)
  | e :: rest =>
    let digits := (readSign rest).2.takeWhile isDigit
    if (e = 'e' ∨ e = 'E') ∧ !digits.isEmpty then
      (some ((readSign rest).1, digits), (readSign rest).2.dropWhile isDigit)
    else (none, s)

theorem length_dropDigits_le (s : List Char) : (s.dropWhile isDigit).length ≤ s.length :=
  (List.dropWhile_sublist isDigit).length_le

theorem length_fractionDigits_le (s : List Char) : (fractionDigits s).2.length ≤ s.length := by
  unfold fractionDigits
  split
  next c rest =>
    split
    · exact Nat.le_succ_of_le (length_dropDigits_le (c :: rest))
    · exact Nat.le_refl _
  · exact Nat.le_refl _

theorem length_exponentDigits_le (s : List Char) : (exponentDigits s).2.length ≤ s.length := by
  unfold exponentDigits
  split
  · exact Nat.le_refl _
  next e rest =>
    dsimp only
    split
    · exact Nat.le_succ_of_le
        (Nat.le_trans (length_dropDigits_le _) (length_readSign_le rest))
    · exact Nat.le_refl _

/-- The number that digits before and after the point and an exponent denote. -/
def numberOf (negative : Bool) (whole fraction : List Char)
    (exponent : Option (Bool × List Char)) : Except Fault Value :=
  if fraction.isEmpty && exponent.isNone then
    if numeralLimit < whole.length then .error (.digits whole.length)
    else
      let n : Int := ofDecimalDigits whole
      .ok (.int (if negative then -n else n))
  else
    let power : Int := match exponent with
      | none => 0
      | some (true, digits) => -(ofDecimalDigits digits : Int)
      | some (false, digits) => ofDecimalDigits digits
    .ok (.float (Decimal.toFloating negative
      ⟨ofDecimalDigits (whole ++ fraction), power - fraction.length⟩))

/-- The digits before the point: a zero stands alone. -/
def wholeDigits (c : Char) (rest : List Char) : List Char × List Char :=
  if c = '0' then ([c], rest) else (c :: rest.takeWhile isDigit, rest.dropWhile isDigit)

theorem length_wholeDigits_le (c : Char) (rest : List Char) :
    (wholeDigits c rest).2.length ≤ rest.length := by
  unfold wholeDigits
  split
  · exact Nat.le_refl _
  · exact length_dropDigits_le rest

/-- A number whose sign was read; `start` is the rest from its beginning. -/
def readNumber (start : List Char) (negative : Bool) (s : List Char) :
    Except Fault (Value × Rest s.length) :=
  match s with
  | [] => .error (.problem .value start)
  | c :: rest =>
    if isDigit c then do
      let whole := wholeDigits c rest
      let fraction := fractionDigits whole.2
      let exponent := exponentDigits fraction.2
      let v ← numberOf negative whole.1 fraction.1 exponent.1
      return (v, ⟨exponent.2, Nat.lt_succ_of_le <|
        Nat.le_trans (length_exponentDigits_le _) <|
        Nat.le_trans (length_fractionDigits_le _) (length_wholeDigits_le c rest)⟩)
    else .error (.problem .value start)

def words : List (List Char × Value) :=
  [("null".toList, .null), ("true".toList, .bool true), ("false".toList, .bool false),
    ("NaN".toList, .float .nan), ("Infinity".toList, .float (.infinity false)),
    ("-Infinity".toList, .float (.infinity true))]

def word? (s : List Char) : Option (List Char × Value) :=
  words.find? fun (word, _) => word.isPrefixOf s

mutual

/-- The value that a text starts with. -/
def readValue (s : List Char) : Except Fault (Value × Rest s.length) :=
  match s with
  | [] => .error (.problem .value [])
  | c :: rest =>
    if c = '"' then do
      let (cs, ⟨after, ha⟩) ← readQuoted rest
      return (.text (String.ofList cs), ⟨after, Nat.lt_succ_of_lt ha⟩)
    else if c = '[' then
      match hb : skipBlanks rest with
      | ']' :: after => .ok (.list [], ⟨after, by
          have := length_skipBlanks_le rest
          rw [hb] at this
          simp only [List.length_cons] at *
          omega⟩)
      | _ => do
        have hs := Nat.lt_succ_of_le (length_skipBlanks_le rest)
        let (items, ⟨after, ha⟩) ← readItems (skipBlanks rest)
        return (.list items, ⟨after, Nat.lt_trans ha hs⟩)
    else if c = '\x7b' then
      match hb : skipBlanks rest with
      | '\x7d' :: after => .ok (.object [], ⟨after, by
          have := length_skipBlanks_le rest
          rw [hb] at this
          simp only [List.length_cons] at *
          omega⟩)
      | _ => do
        have hs := Nat.lt_succ_of_le (length_skipBlanks_le rest)
        let (members, ⟨after, ha⟩) ← readMembers (skipBlanks rest)
        return (.object (objectOf members), ⟨after, Nat.lt_trans ha hs⟩)
    else
      match word? (c :: rest) with
      | some (word, v) => .ok (v, ⟨(c :: rest).drop (max 1 word.length), by
          simp only [List.length_drop, List.length_cons]
          omega⟩)
      | none =>
        if c = '-' then do
          let (v, ⟨after, ha⟩) ← readNumber (c :: rest) true rest
          return (v, ⟨after, Nat.lt_succ_of_lt ha⟩)
        else readNumber (c :: rest) false (c :: rest)
termination_by 2 * s.length
decreasing_by
  all_goals
    simp only [List.length_cons]
    omega

/-- The items of a list up to its closing bracket; there is at least one. -/
def readItems (s : List Char) : Except Fault (List Value × Rest s.length) := do
  let (v, ⟨rest, hr⟩) ← readValue s
  match hb : skipBlanks rest with
  | ']' :: after => return ([v], ⟨after, by
      have := length_skipBlanks_le rest
      rw [hb] at this
      simp only [List.length_cons] at this
      omega⟩)
  | ',' :: more => do
    have hm : (skipBlanks more).length < s.length := by
      have h1 := length_skipBlanks_le rest
      have h2 := length_skipBlanks_le more
      rw [hb] at h1
      simp only [List.length_cons] at h1
      omega
    let (items, ⟨after, ha⟩) ← readItems (skipBlanks more)
    return (v :: items, ⟨after, Nat.lt_trans ha hm⟩)
  | other => .error (.problem .comma other)
termination_by 2 * s.length + 1
decreasing_by
  all_goals omega

/-- The members of an object up to its closing brace; there is at least one. -/
def readMembers (s : List Char) : Except Fault (List (String × Value) × Rest s.length) :=
  match s with
  | '"' :: opened => do
    let (key, ⟨afterKey, hk⟩) ← readQuoted opened
    match hc : skipBlanks afterKey with
    | ':' :: afterColon => do
      have hv : (skipBlanks afterColon).length < opened.length + 1 := by
        have h1 := length_skipBlanks_le afterKey
        have h2 := length_skipBlanks_le afterColon
        rw [hc] at h1
        simp only [List.length_cons] at h1
        omega
      let (v, ⟨rest, hr⟩) ← readValue (skipBlanks afterColon)
      match hb : skipBlanks rest with
      | '\x7d' :: after => return ([(String.ofList key, v)], ⟨after, by
          have := length_skipBlanks_le rest
          rw [hb] at this
          simp only [List.length_cons] at *
          omega⟩)
      | ',' :: more => do
        have hm : (skipBlanks more).length < opened.length + 1 := by
          have h1 := length_skipBlanks_le rest
          have h2 := length_skipBlanks_le more
          rw [hb] at h1
          simp only [List.length_cons] at h1
          omega
        let (members, ⟨after, ha⟩) ← readMembers (skipBlanks more)
        return ((String.ofList key, v) :: members, ⟨after, Nat.lt_trans ha hm⟩)
      | other => .error (.problem .comma other)
    | other => .error (.problem .colon other)
  | other => .error (.problem .propertyName other)
termination_by 2 * s.length + 1
decreasing_by
  all_goals
    simp only [List.length_cons]
    omega

end

end SplitTest.Json
