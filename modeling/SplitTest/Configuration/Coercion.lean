import SplitTest.Configuration.Problem
import SplitTest.Number.Reading

/-! Coercions: which values of a document stand for a text, a number or a truth value. -/
namespace SplitTest

/-- Reads a value that stands at a path. -/
abbrev FieldReader (α : Type) := Path → Value → Checked α

/-- Only a text is a text. -/
def textField : FieldReader String
  | _, .text s => .ok s
  | path, _ => .problem path .stringType

/-- Integers that a float may stand for lie strictly between `-2 ^ 63` and `2 ^ 63`. -/
def Double.smallInt? (x : Double) : Option Int :=
  x.toInt?.filter (·.natAbs < 0x8000000000000000)

/-- Integers, truth values, floats without a fraction, and texts of integers. -/
def intField : FieldReader Int
  | _, .int n => .ok n
  | _, .bool b => .ok (if b then 1 else 0)
  | path, .float x =>
    if !x.isFinite then .problem path .finiteNumber
    else if x.toInt?.isNone then .problem path .intFromFloat
    else match Double.smallInt? x with
      | some n => .ok n
      | none => .problem path .intParsingSize
  | path, .text s =>
    match readInt s with
    | .ok n => .ok n
    | .error .malformed => .problem path .intParsing
    | .error .tooLong => .problem path .intParsingSize
  | path, _ => .problem path .intType

/-- Floats, truth values, integers in the range of doubles, and texts of decimals. -/
def floatField : FieldReader Double
  | _, .float x => .ok x
  | _, .bool b => .ok (.ofInt (if b then 1 else 0))
  | path, .int n =>
    match Double.ofInt? n with
    | some x => .ok x
    | none => .problem path .floatType
  | path, .text s =>
    match readDouble? s with
    | some x => .ok x
    | none => .problem path .floatParsing
  | path, _ => .problem path .floatType

/-- A float that is neither infinite nor without a value. -/
def finiteField : FieldReader Double := fun path v =>
  match floatField path v with
  | .ok x => if x.isFinite then .ok x else .problem path .finiteNumber
  | .error problems => Except.error problems

def boolOfInt (path : Path) (n : Int) : Checked Bool :=
  if n = 0 then .ok false else if n = 1 then .ok true else .problem path .boolParsing

/-- Words for truth values, in lower case. -/
def falseWords : List String := ["0", "off", "f", "false", "n", "no"]

def trueWords : List String := ["1", "on", "t", "true", "y", "yes"]

/-- Truth values, zero and one, and words in any case of ASCII letters. -/
def boolField : FieldReader Bool
  | _, .bool b => .ok b
  | path, .int n =>
    if -0x8000000000000000 ≤ n ∧ n < 0x8000000000000000 then boolOfInt path n
    else .problem path .boolType
  | path, .float x =>
    match Double.smallInt? x with
    | some n => boolOfInt path n
    | none => .problem path .boolType
  | path, .text s =>
    let word := String.ofList (s.toList.map asciiLower)
    if falseWords.contains word then .ok false
    else if trueWords.contains word then .ok true
    else .problem path .boolParsing
  | path, _ => .problem path .boolType

/-- The items of a list from position `i` on, each read by its position. -/
def itemsFrom {α : Type} (read : FieldReader α) (path : Path) : Nat → List Value → Checked (List α)
  | _, [] => .ok []
  | i, v :: rest =>
    List.cons <$> read (path ++ [.index i]) v <*> itemsFrom read path (i + 1) rest

def listField {α : Type} (read : FieldReader α) : FieldReader (List α)
  | path, .list items => itemsFrom read path 0 items
  | path, _ => .problem path .listType

/-- The entries of an object whose keys are all texts. -/
def textKeyed (path : Path) : Entries → Checked (List (String × Value))
  | [] => .ok []
  | (.text k, v) :: rest => List.cons (k, v) <$> textKeyed path rest
  | (k, _) :: rest => List.cons <$> .problem (path ++ [.key k, .keyItself]) .stringType <*>
      textKeyed path rest

/-- An object with texts as keys. -/
def dictField : FieldReader (List (String × Value))
  | path, .object entries => textKeyed path entries
  | path, _ => .problem path .dictType

variable {α : Type}

/-- A field that has to be there. -/
def required (read : FieldReader α) (path : Path) (entries : Entries) (name : String) : Checked α :=
  match entries.find? name with
  | none => .problem (path ++ [.field name]) .missing
  | some v => read (path ++ [.field name]) v

/-- A field with a default for when it is missing. -/
def optional (read : FieldReader α) (default : α) (path : Path) (entries : Entries)
    (name : String) : Checked α :=
  match entries.find? name with
  | none => .ok default
  | some v => read (path ++ [.field name]) v

/-- A field with a default for when it is missing or null. -/
def nullable (read : FieldReader α) (default : α) (path : Path) (entries : Entries)
    (name : String) : Checked α :=
  match entries.find? name with
  | none | some .null => .ok default
  | some v => read (path ++ [.field name]) v

end SplitTest
