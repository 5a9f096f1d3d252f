import SplitTest.Number.Layout
import SplitTest.Text.Quoted
import SplitTest.Value.Basic

/-! The text of values, and the canonical text of numbers. -/
namespace SplitTest

/-- A character of a text in double quotes; only quotes, backslashes and controls are escaped. -/
def escapedChar (c : Char) : List Char :=
  match c with
  | '"' => ['\\', '"']
  | '\\' => ['\\', '\\']
  | '\x08' => ['\\', 'b']
  | '\x0c' => ['\\', 'f']
  | '\n' => ['\\', 'n']
  | '\r' => ['\\', 'r']
  | '\t' => ['\\', 't']
  | c => if c.toNat < 32 then '\\' :: 'u' :: hexDigits 4 c.toNat else [c]

def escapedText (s : String) : String :=
  String.ofList ('"' :: s.toList.flatMap escapedChar ++ ['"'])

def boolText (b : Bool) : String :=
  if b then "true" else "false"

/-- The text of a scalar; a scalar that documents cannot write down stands as its type name. -/
def Scalar.show : Scalar → String
  | null => "null"
  | bool b => boolText b
  | int n => intText n
  | float x => x.text
  | text s => escapedText s
  | s => "<" ++ s.typeName ++ ">"

mutual

/-- The text of a value, without spaces. -/
def Value.show : Value → String
  | .scalar s => s.show
  | .list items => "[" ++ Value.showItems items ++ "]"
  | .object entries => "\x7b" ++ Value.showEntries entries ++ "\x7d"

def Value.showItems : List Value → String
  | [] => ""
  | [v] => v.show
  | v :: rest => v.show ++ "," ++ Value.showItems rest

def Value.showEntries : List (Scalar × Value) → String
  | [] => ""
  | [e] => Value.showEntry e
  | e :: rest => Value.showEntry e ++ "," ++ Value.showEntries rest

def Value.showEntry : Scalar × Value → String
  | (k, v) => k.show ++ ":" ++ v.show

end

mutual

/-- Whether the text of a value would have an integer in it whose numeral is past the limit. -/
def Value.hasLongNumeral : Value → Bool
  | .scalar (.int n) => SplitTest.hasLongNumeral n
  | .scalar _ => false
  | .list items => Value.anyHasLongNumeral items
  | .object entries => Value.anyEntryHasLongNumeral entries

def Value.anyHasLongNumeral : List Value → Bool
  | [] => false
  | v :: rest => v.hasLongNumeral || Value.anyHasLongNumeral rest

def Value.anyEntryHasLongNumeral : List (Scalar × Value) → Bool
  | [] => false
  | e :: rest => Value.entryHasLongNumeral e || Value.anyEntryHasLongNumeral rest

def Value.entryHasLongNumeral : Scalar × Value → Bool
  | (.int n, v) => SplitTest.hasLongNumeral n || v.hasLongNumeral
  | (_, v) => v.hasLongNumeral

end

namespace Number

/-- The double nearest to a number; an integer past the range of doubles has none. -/
def toDouble? : Number → Option Double
  | int n => Double.ofInt? n
  | double x => some x
  | single x => some x.convert

/-- The text by which numbers are equal: integers as such, others by their shortest decimal. -/
def canonicalText : Number → String
  | int n => intText n
  | double x => (x.toInt?.map intText).getD x.text
  | single x => (x.toInt?.map intText).getD (FloatLayout.single.text x)

end Number
end SplitTest
