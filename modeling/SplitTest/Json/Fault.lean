import SplitTest.Text.Encoding

/-! What is wrong with a JSON document, and where. -/
namespace SplitTest.Json

inductive Problem where
  | value
  | propertyName
  | colon
  | comma
  | extraData
  | unterminatedText
  | controlCharacter
  | escape
  | unicodeEscape
  | byteOrderMark
deriving DecidableEq, Repr

def Problem.message : Problem → String
  | value => "Expecting value"
  | propertyName => "Expecting property name enclosed in double quotes"
  | colon => "Expecting ':' delimiter"
  | comma => "Expecting ',' delimiter"
  | extraData => "Extra data"
  | unterminatedText => "Unterminated string starting at"
  | controlCharacter => "Invalid control character at"
  | escape => "Invalid \\escape"
  | unicodeEscape => "Invalid \\uXXXX escape"
  | byteOrderMark => "Unexpected UTF-8 BOM (decode using utf-8-sig)"

/-- A fault while reading: a problem with what was left of the text there, or a numeral with more
digits than are read. -/
inductive Fault where
  | problem (problem : Problem) (rest : List Char)
  | digits (count : Nat)
deriving DecidableEq, Repr

/-- A place in a text: line and column from one, and the number of characters before it. -/
structure Place where
  line : Nat
  column : Nat
  offset : Nat
deriving DecidableEq, Repr

def Place.after (before : List Char) : Place :=
  ⟨before.count '\n' + 1, (before.reverse.takeWhile (· != '\n')).length + 1, before.length⟩

inductive Error where
  | problem (problem : Problem) (place : Place)
  | digits (count : Nat)
  | undecodable (error : DecodeError)
deriving DecidableEq, Repr

def Error.message : Error → String
  | problem p place => p.message ++ ": line " ++ natText place.line ++ " column " ++
      natText place.column ++ " (char " ++ natText place.offset ++ ")"
  | digits count => longNumeralReadMessage count
  | undecodable e => e.message

/-- A fault placed in the text it was found in. -/
def Fault.toError (document : List Char) : Fault → Error
  | problem p rest => .problem p (Place.after (document.take (document.length - rest.length)))
  | digits count => .digits count

end SplitTest.Json
