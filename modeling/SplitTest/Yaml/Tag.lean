import SplitTest.Number.Numeral

/-! Tags of YAML nodes, and the tags that plain scalars have by their text. -/
namespace SplitTest.Yaml

inductive Tag where
  | null
  | bool
  | int
  | float
  | timestamp
  | text
  | sequence
  | mapping
  /-- The key of entries that are taken over from other mappings. -/
  | merge
  /-- The plain scalar of an equals sign. -/
  | equals
  | other (uri : String)
deriving DecidableEq, Repr

def Tag.ofUri (uri : String) : Tag :=
  match uri with
  | "tag:yaml.org,2002:null" => null
  | "tag:yaml.org,2002:bool" => bool
  | "tag:yaml.org,2002:int" => int
  | "tag:yaml.org,2002:float" => float
  | "tag:yaml.org,2002:timestamp" => timestamp
  | "tag:yaml.org,2002:str" => text
  | "tag:yaml.org,2002:seq" => sequence
  | "tag:yaml.org,2002:map" => mapping
  | "tag:yaml.org,2002:merge" => merge
  | "tag:yaml.org,2002:value" => equals
  | _ => other uri

/-- Words for truth values. -/
def trueWords : List String := ["yes", "Yes", "YES", "true", "True", "TRUE", "on", "On", "ON"]

def falseWords : List String := ["no", "No", "NO", "false", "False", "FALSE", "off", "Off", "OFF"]

/-- Words for nothing, among them the empty one. -/
def nullWords : List String := ["~", "null", "Null", "NULL", ""]

def isDigitOrUnderscore (c : Char) : Bool := isDigit c || c == '_'

def dropSign : List Char → List Char
  | '-' :: rest => rest
  | '+' :: rest => rest
  | s => s

/-- A digit, then digits and underscores; gives back what follows them. -/
def dropNumeral? : List Char → Option (List Char)
  | [] => none
  | c :: rest => if isDigit c then some (rest.dropWhile isDigitOrUnderscore) else none

/-- Whether a text is not empty and all its characters are of a class. -/
def isRun (p : Char → Bool) (s : List Char) : Bool :=
  !s.isEmpty && s.all p

/-- Parts of up to 59, each after a colon: what follows the last of them, if there is one. -/
def dropSixties : Nat → List Char → Option (List Char)
  | 0, _ => none
  | fuel + 1, s =>
    let after : Option (List Char) := match s with
      | ':' :: c :: d :: rest =>
        if '0' ≤ c ∧ c ≤ '5' ∧ isDigit d then some rest
        else if isDigit c then some (d :: rest) else none
      | [':', c] => if isDigit c then some [] else none
      | _ => none
    match after with
    | none => none
    | some rest => some ((dropSixties fuel rest).getD rest)

/-- Integers: binary, octal with a zero in front, decimal, hexadecimal, or in base sixty. -/
def isInt (text : List Char) : Bool :=
  match dropSign text with
  | '0' :: 'b' :: digits => isRun (fun c => c == '0' || c == '1' || c == '_') digits
  | '0' :: 'x' :: digits => isRun (fun c => c.isAlphanum && (isDigit c ||
      ('a' ≤ c && c ≤ 'f') || ('A' ≤ c && c ≤ 'F')) || c == '_') digits
  | '0' :: digits => digits.all fun c => ('0' ≤ c && c ≤ '7') || c == '_'
  | s =>
    match dropNumeral? s with
    | none => false
    | some rest => rest.isEmpty || dropSixties (rest.length + 1) rest == some []

/-- An exponent, which has a sign, or nothing. -/
def isExponent : List Char → Bool
  | [] => true
  | e :: sign :: digits =>
    (e == 'e' || e == 'E') && (sign == '-' || sign == '+') && isRun isDigit digits
  | _ => false

/-- Digits and underscores after a point, and an exponent. -/
def isFraction : List Char → Bool
  | '.' :: rest => isExponent (rest.dropWhile isDigitOrUnderscore)
  | _ => false

/-- Words for floats that are not finite, after their sign. -/
def infinityWords : List String := [".inf", ".Inf", ".INF"]

def nanWords : List String := [".nan", ".NaN", ".NAN"]

/-- Floats: a decimal with a point, one in base sixty, or a word. -/
def isFloat (text : List Char) : Bool :=
  let unsigned := dropSign text
  let positional := match dropNumeral? unsigned with
    | none => false
    | some rest => isFraction rest ||
        match dropSixties (rest.length + 1) rest with
        | some ('.' :: fraction) => fraction.all isDigitOrUnderscore
        | _ => false
  let fractionOnly := match text with
    | '.' :: c :: _ => isDigit c && isFraction text
    | _ => false
  positional || fractionOnly || infinityWords.contains (String.ofList unsigned) ||
    nanWords.contains (String.ofList text)

/-- The first digits of a text, `least` to `most` of them. -/
def takeDigits? (least most : Nat) (s : List Char) : Option (List Char × List Char) :=
  let digits := (s.take most).takeWhile isDigit
  if digits.length < least then none else some (digits, s.drop digits.length)

/-- A character that has to come next. -/
def dropChar? (c : Char) : List Char → Option (List Char)
  | d :: rest => if c = d then some rest else none
  | [] => none

/-- The offset of a moment: none, universal time, or sign, hours and minutes. -/
inductive Zone where
  | none
  | universal
  | offset (negative : Bool) (hours minutes : Nat)
deriving DecidableEq, Repr

structure ClockParts where
  hour : Nat
  minute : Nat
  second : Nat
  /-- The digits after the point. -/
  fraction : List Char
  zone : Zone
deriving DecidableEq, Repr

structure TimestampParts where
  year : Nat
  month : Nat
  day : Nat
  clock : Option ClockParts
deriving DecidableEq, Repr

def zone? (s : List Char) : Option Zone :=
  match s.dropWhile fun c => c == ' ' || c == '\t' with
  | [] => if s.isEmpty then some .none else none
  | ['Z'] => some .universal
  | sign :: rest =>
    if sign != '-' && sign != '+' then none
    else do
      let (hours, rest) ← takeDigits? 1 2 rest
      match rest with
      | [] => return .offset (sign == '-') (ofDecimalDigits hours) 0
      | _ =>
        let (minutes, rest) ← takeDigits? 2 2 (← dropChar? ':' rest)
        if rest.isEmpty then
          return .offset (sign == '-') (ofDecimalDigits hours) (ofDecimalDigits minutes)
        else none

/-- The time of day of a timestamp, after the `T` or the blanks in front of it. -/
def clock? (s : List Char) : Option ClockParts := do
  let (hour, rest) ← takeDigits? 1 2 s
  let (minute, rest) ← takeDigits? 2 2 (← dropChar? ':' rest)
  let (second, rest) ← takeDigits? 2 2 (← dropChar? ':' rest)
  let (fraction, rest) := match rest with
    | '.' :: digits => (digits.takeWhile isDigit, digits.dropWhile isDigit)
    | _ => ([], rest)
  return ⟨ofDecimalDigits hour, ofDecimalDigits minute, ofDecimalDigits second, fraction,
    ← zone? rest⟩

/-- The parts of a timestamp: a date, perhaps with a time of day. -/
def timestamp? (s : List Char) : Option TimestampParts := do
  let (year, rest) ← takeDigits? 4 4 s
  let (month, rest) ← takeDigits? 1 2 (← dropChar? '-' rest)
  let (day, rest) ← takeDigits? 1 2 (← dropChar? '-' rest)
  let date := TimestampParts.mk (ofDecimalDigits year) (ofDecimalDigits month) (ofDecimalDigits day)
  match rest with
  | [] => return date none
  | c :: more =>
    if c == 'T' || c == 't' then return date (some (← clock? more))
    else if c == ' ' || c == '\t' then
      return date (some (← clock? (rest.dropWhile fun c => c == ' ' || c == '\t')))
    else none

/-- Whether a plain scalar is a timestamp: a lone date has two digits for month and day. -/
def isTimestamp (s : List Char) : Bool :=
  match timestamp? s with
  | none => false
  | some parts => parts.clock.isSome || s.length == 10

/-- A text without the line break at its end, unless nothing is in front of it. -/
def dropFinalBreak (text : String) : String :=
  match text.toList.reverse with
  | '\n' :: c :: rest => String.ofList (c :: rest).reverse
  | _ => text

/-- The tag of a plain scalar. -/
def plainTag (text : String) : Tag :=
  let s := text.toList
  if trueWords.contains text || falseWords.contains text then .bool
  else if isFloat s then .float
  else if isInt s then .int
  else if text == "<<" then .merge
  else if nullWords.contains text then .null
  else if isTimestamp s then .timestamp
  else if text == "=" then .equals
  else .text

end SplitTest.Yaml
