import SplitTest.Yaml.Cursor

/-! Plain scalars: texts without quotes, folded over lines. -/
namespace SplitTest.Yaml

def isFlowIndicator (c : Char) : Bool :=
  c == ',' || c == '?' || c == '[' || c == ']' || c == '\x7b' || c == '\x7d'

/-- Whether a plain scalar may start here. -/
def startsPlain (inFlow : Bool) : List Char → Bool
  | [] => false
  | c :: rest =>
    let indicators := "-?:,[]\x7b\x7d#&*!|>'\"%@\x60".toList
    !(isBreak c || isSpaceOrTab c || indicators.contains c) ||
      (!atBlank rest && (c == '-' || (!inFlow && (c == '?' || c == ':'))))

/-- Whether a colon here separates a key from its value. -/
def endsKey (inFlow : Bool) (rest : List Char) : Bool :=
  atBlank rest || (inFlow && match rest with
    | [] => true
    | c :: _ => c == ',' || c == '[' || c == ']' || c == '\x7b' || c == '\x7d')

/-- The characters of a plain scalar up to the next blank or indicator, and the rest. -/
def plainWord (inFlow : Bool) : List Char → List Char × List Char
  | [] => ([], [])
  | c :: rest =>
    if isBreak c || isSpaceOrTab c || (c == ':' && endsKey inFlow rest) ||
        (inFlow && isFlowIndicator c) then ([], c :: rest)
    else
      let (word, after) := plainWord inFlow rest
      (c :: word, after)

structure PlainGap where
  /-- What the blanks stand for in the scalar. -/
  text : List Char
  rest : List Char
  /-- Whether the gap goes over the end of a line. -/
  broken : Bool
  /-- The column after the gap, if it goes over the end of a line. -/
  column : Nat

/-- Blank lines and the spaces of the next line: the line breaks, the rest and its column; nothing
if a document starts or ends there. -/
def blankLines (column : Nat) : List Char → Option (List Char × List Char × Nat)
  | [] => some ([], [], column)
  | '\r' :: '\n' :: rest =>
    if atDocumentMarker rest then none
    else (blankLines 0 rest).map fun (breaks, after) => ('\n' :: breaks, after)
  | c :: rest =>
    if c == ' ' then blankLines (column + 1) rest
    else if isBreak c then
      if atDocumentMarker rest then none
      else (blankLines 0 rest).map fun (breaks, after) =>
        ((if c == '\u2028' || c == '\u2029' then c else '\n') :: breaks, after)
    else some ([], c :: rest, column)

/-- One line break is a space, more than one are all but the first. -/
def foldBreaks (first : Char) (others : List Char) : List Char :=
  if first != '\n' then first :: others
  else if others.isEmpty then [' '] else others

/-- The gap at the start of a text; nothing if a document starts or ends in it. -/
def plainGap (s : List Char) : Option PlainGap :=
  let spaces := s.takeWhile (· == ' ')
  let rest := s.dropWhile (· == ' ')
  match lineBreak? rest with
  | none => some ⟨spaces, rest, false, 0⟩
  | some (first, more) =>
    if atDocumentMarker more then none
    else (blankLines 0 more).map fun (breaks, after, column) =>
      ⟨foldBreaks first breaks, after, true, column⟩

/-- What follows the end of the line that a text is on. -/
def afterGapBreak (s : List Char) : List Char :=
  match lineBreak? (s.dropWhile (· == ' ')) with
  | none => s
  | some (_, more) => more

/-- A plain scalar: its characters, the rest, and whether it ended over the end of a line. -/
structure PlainScalar where
  text : List Char
  rest : List Char
  broken : Bool

/-- The words of a plain scalar, `fuel` of them at most, on lines that reach column `indent`. -/
def plainWords (inFlow : Bool) (indent : Nat) : Nat → List Char → List Char → Bool → PlainScalar
  | 0, _, s, broken => ⟨[], s, broken⟩
  | fuel + 1, gap, s, broken =>
    let (word, after) := plainWord inFlow s
    if word.isEmpty || s.head? == some '#' then ⟨[], s, broken⟩
    else
      match plainGap after with
      | none => ⟨gap ++ word, afterGapBreak after, true⟩
      | some next =>
        let ends := next.text.isEmpty || next.rest.head? == some '#' ||
          (!inFlow && next.broken && next.column < indent)
        if ends then ⟨gap ++ word, next.rest, next.broken⟩
        else
          let tail := plainWords inFlow indent fuel next.text next.rest next.broken
          ⟨gap ++ word ++ tail.text, tail.rest, tail.broken⟩

end SplitTest.Yaml
