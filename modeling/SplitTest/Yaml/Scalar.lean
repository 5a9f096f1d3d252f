import SplitTest.Number.Reading
import SplitTest.Text.Digit
import SplitTest.Text.Lowercase
import SplitTest.Value.Basic
import SplitTest.Yaml.Error
import SplitTest.Yaml.Tag

/-! The values of scalars, by their tags. Bytes in base 64 (`!!binary`) are left out: there are no
such values, and a document that has them is refused as malformed. -/
namespace SplitTest.Yaml

/-- The value of a digit in bases up to sixteen. -/
def digitIn? (base : Nat) (c : Char) : Option Nat :=
  let value := if isDigit c then some (c.toNat - '0'.toNat)
    else if 'a' ≤ asciiLower c ∧ asciiLower c ≤ 'f' then
      some ((asciiLower c).toNat - 'a'.toNat + 10)
    else none
  value.filter (· < base)

/-- The letter that may follow a zero in front of a numeral of a base. -/
def baseLetter? : Nat → Option Char
  | 2 => some 'b'
  | 8 => some 'o'
  | 16 => some 'x'
  | _ => none

/-- A numeral without the mark of its base. -/
def dropBaseMark (base : Nat) (s : List Char) : List Char :=
  match s with
  | '0' :: c :: rest => if baseLetter? base == some (asciiLower c) then rest else s
  | _ => s

/-- The integer that a numeral denotes in a base; blanks may stand around it. Decimal digits are
counted before anything else after them is looked at. -/
def intIn (base : Nat) (s : List Char) : Except Error Int :=
  let (negative, unsigned) := readSign (trimBoth isWhiteSpace (s.map asciiDigit))
  let body := dropBaseMark base unsigned
  let digits := body.takeWhile fun c => (digitIn? base c).isSome
  if base = 10 ∧ numeralLimit < digits.length then .error (.digits digits.length)
  else if digits.isEmpty || digits.length < body.length then
    .error (.integer base (String.ofList s))
  else
    let n := ofDigits base (fun c => (digitIn? base c).getD 0) digits
    .ok (if negative then -(n : Int) else n)

/-- Parts between colons. -/
def colonParts (s : List Char) : List (List Char) :=
  match s with
  | [] => [[]]
  | ':' :: rest => [] :: colonParts rest
  | c :: rest =>
    match colonParts rest with
    | [] => [[c]]
    | part :: parts => (c :: part) :: parts

/-- An unsigned integer: its base is told by its first characters, or is sixty if it has colons. -/
def unsignedInt (s : List Char) : Except Error Int :=
  match s with
  | [] => .error .emptyNumeral
  | ['0'] => .ok 0
  | '0' :: 'b' :: digits => intIn 2 digits
  | '0' :: 'x' :: digits => intIn 16 digits
  | '0' :: _ => intIn 8 s
  | _ =>
    if s.contains ':' then do
      return (← (colonParts s).mapM (intIn 10)).foldl (fun n part => n * 60 + part) 0
    else intIn 10 s

/-- The integer of a scalar, underscores left out. -/
def intValue (text : String) : Except Error Int := do
  let s := text.toList.filter (· != '_')
  if s.isEmpty then .error .emptyNumeral
  let (negative, unsigned) := readSign s
  let n ← unsignedInt unsigned
  return if negative then -n else n

def floatOf (s : List Char) : Except Error Double :=
  match readPlainDouble? (trimBoth isWhiteSpace (s.map asciiDigit)) with
  | some x => .ok x
  | none => .error (.float (String.ofList s))

/-- Parts in base sixty, the last one first, added up with rounding at each step. A part has a
weight, which has to be in the range of doubles even if the part is zero. -/
def sumSixties : Int → Double → List Double → Except Error Double
  | _, sum, [] => .ok sum
  | weight, sum, part :: rest =>
    match Double.ofInt? weight with
    | none => .error .weightTooLarge
    | some w => sumSixties (weight * 60) (sum.add (part.mul w)) rest

/-- The text of a float in lower case and without underscores: whether it has a minus sign, and
what follows its sign. -/
def floatParts (text : String) : Bool × List Char :=
  readSign (lowercase (String.ofList (text.toList.filter (· != '_')))).toList

def nanWord : List Char := ['.', 'n', 'a', 'n']

/-- The float of a scalar. -/
def floatValue (text : String) : Except Error Double := do
  if text.toList.all (· == '_') then .error .emptyNumeral
  let (negative, unsigned) := floatParts text
  match String.ofList unsigned with
  | ".inf" => return .infinity negative
  | ".nan" => return .nan
  | _ =>
    let x ← if unsigned.contains ':' then do
        sumSixties 1 (.ofInt 0) (← (colonParts unsigned).mapM floatOf).reverse
      else floatOf unsigned
    return if negative then x.neg else x

/-- The first six digits of a fraction of a second. -/
def microseconds (fraction : List Char) : Nat :=
  let digits := fraction.take 6
  ofDecimalDigits digits * Nat.pow 10 (6 - digits.length)

def Zone.seconds : Zone → Except CalendarError (Option Int)
  | .none => .ok .none
  | .universal => .ok (some 0)
  | .offset negative hours minutes =>
    let seconds : Int := hours * 3600 + minutes * 60
    some <$> DateTime.checkOffset (if negative then -seconds else seconds)

/-- The date or the moment of a timestamp; its offset is checked first. -/
def TimestampParts.value (p : TimestampParts) : Except CalendarError Scalar := do
  match p.clock with
  | none => return .date (← Date.ofParts p.year p.month p.day)
  | some clock =>
    let offset ← clock.zone.seconds
    let date ← Date.ofParts p.year p.month p.day
    let time ← TimeOfDay.ofParts clock.hour clock.minute clock.second (microseconds clock.fraction)
    return .dateTime ⟨date, time, offset⟩

def boolValue (text : String) : Except Error Bool :=
  let word := lowercase text
  if ["yes", "true", "on"].contains word then .ok true
  else if ["no", "false", "off"].contains word then .ok false
  else .error (.truthValue word)

/-- The value of a scalar; tags of collections and unknown ones have none. -/
def scalarValue (tag : Tag) (text : String) : Except Error Scalar :=
  match tag with
  | .null => .ok .null
  | .text => .ok (.text text)
  | .bool => .bool <$> boolValue text
  | .int => .int <$> intValue text
  | .float => .float <$> floatValue text
  | .timestamp =>
    match timestamp? (dropFinalBreak text).toList with
    | none => .error .timestamp
    | some parts => parts.value.mapError .calendar
  | _ => .error .malformed

end SplitTest.Yaml
