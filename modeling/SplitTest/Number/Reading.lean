import SplitTest.Number.Decimal
import SplitTest.Text.Blank

/-! Numbers written in texts: blanks around them, a sign, zeros in front, and underscores between
other characters. -/
namespace SplitTest

/-- A sign at the start of a text, and what follows it. -/
def readSign : List Char → Bool × List Char
  | '-' :: rest => (true, rest)
  | '+' :: rest => (false, rest)
  | s => (false, s)

theorem length_readSign_le (s : List Char) : (readSign s).2.length ≤ s.length := by
  unfold readSign
  split <;> simp

/-- Whether a text ends with another character than an underscore and has no two of them in a row;
`afterOther` tells whether such a character stands before it. -/
def hasLoneUnderscores (afterOther : Bool) : List Char → Bool
  | [] => afterOther
  | '_' :: rest => afterOther && hasLoneUnderscores false rest
  | _ :: rest => hasLoneUnderscores true rest

/-- A text without its underscores, each of which stands alone between other characters. -/
def dropUnderscores? (s : List Char) : Option (List Char) :=
  if hasLoneUnderscores false s then some (s.filter (· != '_')) else none

inductive IntReadingError where
  | malformed
  | tooLong
deriving DecidableEq, Repr

/-- The integer of digits without zeros in front of them, and perhaps a minus sign. The digits are
counted before anything else after them is looked at. -/
def readPlainInt (s : List Char) : Except IntReadingError Int :=
  let (negative, unsigned) : Bool × List Char := match s with
    | '-' :: rest => (true, rest)
    | _ => (false, s)
  let digits := unsigned.takeWhile isDigit
  match digits with
  | [] => .error .malformed
  | '0' :: _ => if unsigned.length = 1 then .ok 0 else .error .malformed
  | _ =>
    if numeralLimit < digits.length then .error .tooLong
    else if digits.length < unsigned.length then .error .malformed
    else .ok (if negative then -(ofDecimalDigits digits : Int) else ofDecimalDigits digits)

/-- What follows the zeros and underscores at the start of a text, the last of them kept where
nothing or a point follows. -/
def dropZerosAfter (last : Char) : List Char → Option (List Char)
  | [] => some [last]
  | '.' :: rest => some (last :: '.' :: rest)
  | c :: rest =>
    if c = '0' ∨ c = '_' then dropZerosAfter c rest
    else if isDigit c ∨ c = '-' then some (c :: rest)
    else none

/-- A text that starts with a digit, without needless zeros in front; a minus sign may follow
them. -/
def dropLeadingZeros? : List Char → Option (List Char)
  | [] => none
  | '0' :: rest => dropZerosAfter '0' rest
  | c :: rest => if isDigit c then some (c :: rest) else none

/-- A text without the point and the zeros at its end, if nothing but zeros follows the point. -/
def dropZeroFraction (s : List Char) : List Char :=
  let fraction := (s.dropWhile (· != '.')).drop 1
  if !fraction.isEmpty && fraction.all (· == '0') then s.takeWhile (· != '.') else s

/-- A numeral as `readPlainInt` expects it: without blanks, a plus sign, needless zeros, a fraction
of zeros, and underscores. -/
def plainNumeral? (s : List Char) : Option (List Char) :=
  let (negative, unsigned) := readSign (trimBoth isWhiteSpace s)
  (dropLeadingZeros? unsigned).map fun digits =>
    let whole := dropZeroFraction digits
    let plain := (dropUnderscores? whole).getD whole
    if negative then '-' :: plain else plain

/-- The integer that a text writes down. Only a text that is plain from the start can be too
long. -/
def readInt (s : String) : Except IntReadingError Int :=
  match readPlainInt s.toList with
  | .ok n => .ok n
  | .error .tooLong => .error .tooLong
  | .error .malformed =>
    match plainNumeral? s.toList with
    | none => .error .malformed
    | some plain => (readPlainInt plain).mapError fun _ => .malformed

def asciiLower (c : Char) : Char :=
  if 'A' ≤ c ∧ c ≤ 'Z' then Char.ofNat (c.toNat + 32) else c

/-- The fraction after a point, if there is a point. -/
def readFraction : List Char → List Char × List Char
  | '.' :: rest => rest.span isDigit
  | s => ([], s)

/-- The exponent at the end of a numeral; it has a digit if it is there at all. -/
def readExponent? : List Char → Option Int
  | [] => some 0
  | e :: rest =>
    let (negative, digits) := readSign rest
    if asciiLower e = 'e' ∧ !digits.isEmpty ∧ digits.all isDigit then
      some (if negative then -(ofDecimalDigits digits : Int) else ofDecimalDigits digits)
    else none

/-- The double of a decimal, or of a word for what is not finite. -/
def readPlainDouble? (s : List Char) : Option Double :=
  let (negative, unsigned) := readSign s
  match String.ofList (unsigned.map asciiLower) with
  | "inf" | "infinity" => some (.infinity negative)
  | "nan" => some .nan
  | _ =>
    let (whole, afterWhole) := unsigned.span isDigit
    let (fraction, afterFraction) := readFraction afterWhole
    if whole.isEmpty && fraction.isEmpty then none
    else (readExponent? afterFraction).map fun power =>
      Decimal.toFloating negative ⟨ofDecimalDigits (whole ++ fraction), power - fraction.length⟩

/-- The double that a text writes down: with blanks around it, or with underscores in it. -/
def readDouble? (s : String) : Option Double :=
  (readPlainDouble? (trimBoth isWhiteSpace s.toList)).or
    ((dropUnderscores? s.toList).bind readPlainDouble?)

end SplitTest
