/-! Characters of YAML texts, and places in a text by line and column. -/
namespace SplitTest.Yaml

def isBreak (c : Char) : Bool :=
  c == '\r' || c == '\n' || c == '\x85' || c == '\u2028' || c == '\u2029'

def isSpaceOrTab (c : Char) : Bool :=
  c == ' ' || c == '\t'

/-- Whether a text is at its end, at the end of a line, or at a space. -/
def atSpaceOrLineEnd : List Char → Bool
  | [] => true
  | c :: _ => isBreak c || c == ' '

/-- Whether a text is at its end, at the end of a line, at a space or at a tab. -/
def atBlank : List Char → Bool
  | [] => true
  | c :: _ => isBreak c || isSpaceOrTab c

/-- The line break that a text starts with, as it is kept in scalars, and the rest. -/
def lineBreak? : List Char → Option (Char × List Char)
  | '\r' :: '\n' :: rest => some ('\n', rest)
  | c :: rest =>
    if !isBreak c then none
    else some (if c == '\u2028' || c == '\u2029' then c else '\n', rest)
  | [] => none

/-- Letters, digits, hyphens and underscores. -/
def isNameChar (c : Char) : Bool :=
  c.isAlphanum || c == '-' || c == '_'

/-- A marker of three characters at the start of a line. -/
def isMarker (marker : Char) : List Char → Bool
  | a :: b :: c :: rest => a == marker && b == marker && c == marker && atBlank rest
  | _ => false

/-- Whether a line starts or ends a document. -/
def atDocumentMarker (s : List Char) : Bool :=
  isMarker '-' s || isMarker '.' s

/-- A place in a text: what follows it, line and column from zero, and the characters before it. -/
structure Cursor where
  rest : List Char
  line : Nat
  column : Nat
  offset : Nat

namespace Cursor

def start (text : List Char) : Cursor := ⟨text, 0, 0, 0⟩

def next (c : Cursor) : Cursor :=
  match c.rest with
  | [] => c
  | '\r' :: '\n' :: more => ⟨'\n' :: more, c.line, c.column + 1, c.offset + 1⟩
  | ch :: more =>
    if isBreak ch then ⟨more, c.line + 1, 0, c.offset + 1⟩
    else if ch == '\ufeff' then ⟨more, c.line, c.column, c.offset + 1⟩
    else ⟨more, c.line, c.column + 1, c.offset + 1⟩

def skip (c : Cursor) : Nat → Cursor
  | 0 => c
  | n + 1 => c.next.skip n

/-- The place where only `rest` is left of the text. -/
def skipTo (c : Cursor) (rest : List Char) : Cursor :=
  c.skip (c.rest.length - rest.length)

end Cursor
end SplitTest.Yaml
