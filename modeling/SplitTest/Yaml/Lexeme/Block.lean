import SplitTest.Yaml.Cursor
import SplitTest.Yaml.Error
import SplitTest.Number.Numeral

/-! Block scalars: lines at one indentation, kept or folded. -/
namespace SplitTest.Yaml

/-- What is kept of the line breaks at the end of a block scalar. -/
inductive Chomping where
  | strip
  | clip
  | keep
deriving DecidableEq, Repr

/-- The indicators after the first character of a block scalar. -/
structure BlockHeader where
  chomping : Chomping
  /-- The indentation, counted from that of the collection around it, if it is given. -/
  increment : Option Nat
deriving DecidableEq, Repr

def chomping? : Char → Option Chomping
  | '+' => some .keep
  | '-' => some .strip
  | _ => none

def increment? (c : Char) : Option Nat :=
  (digitValue? c).filter (0 < ·)

/-- A comment, and the end of the line that a text is on; nothing else may stand there. -/
def endOfLine (s : List Char) : Except Error (List Char) :=
  let rest := s.dropWhile (· == ' ')
  let rest := if rest.head? == some '#' then rest.dropWhile (fun c => !isBreak c) else rest
  match rest, lineBreak? rest with
  | [], _ => .ok []
  | _, some (_, more) => .ok more
  | _, none => .error .malformed

/-- The indicators of a block scalar, in either order, and the rest. -/
def blockHeader (s : List Char) : Except Error (BlockHeader × List Char) :=
  match s with
  | [] => .ok (⟨.clip, none⟩, [])
  | c :: rest =>
    match chomping? c with
    | some chomping =>
      match rest with
      | d :: more =>
        if isDigit d then
          match increment? d with
          | some n => .ok (⟨chomping, some n⟩, more)
          | none => .error .malformed
        else .ok (⟨chomping, none⟩, rest)
      | [] => .ok (⟨chomping, none⟩, rest)
    | none =>
      if isDigit c then
        match increment? c with
        | none => .error .malformed
        | some n =>
          match rest with
          | d :: more =>
            match chomping? d with
            | some chomping => .ok (⟨chomping, some n⟩, more)
            | none => .ok (⟨.clip, some n⟩, rest)
          | [] => .ok (⟨.clip, some n⟩, rest)
      else .ok (⟨.clip, none⟩, s)

/-- A place in the lines of a block scalar, with its column. -/
structure BlockPlace where
  rest : List Char
  column : Nat

/-- Blank lines before the first line of a block scalar: the line breaks, the largest column that is
reached, and the place after them. -/
def leadingLines (column largest : Nat) : List Char → List Char × Nat × BlockPlace
  | [] => ([], largest, ⟨[], column⟩)
  | '\r' :: '\n' :: rest =>
    let (breaks, most, place) := leadingLines 0 largest rest
    ('\n' :: breaks, most, place)
  | c :: rest =>
    if c == ' ' then leadingLines (column + 1) (max largest (column + 1)) rest
    else if isBreak c then
      let (breaks, most, place) := leadingLines 0 largest rest
      ((if c == '\u2028' || c == '\u2029' then c else '\n') :: breaks, most, place)
    else ([], largest, ⟨c :: rest, column⟩)

/-- The place after spaces up to a column. -/
def indentTo (indent column : Nat) : List Char → BlockPlace
  | ' ' :: rest =>
    if column < indent then indentTo indent (column + 1) rest else ⟨' ' :: rest, column⟩
  | s => ⟨s, column⟩

/-- Blank lines between the lines of a block scalar: their line breaks, and the place after them. -/
def blockBreaks (indent : Nat) : Nat → BlockPlace → List Char × BlockPlace
  | 0, place => ([], place)
  | fuel + 1, place =>
    let indented := indentTo indent place.column place.rest
    match lineBreak? indented.rest with
    | none => ([], indented)
    | some (c, more) =>
      let (breaks, after) := blockBreaks indent fuel ⟨more, 0⟩
      (c :: breaks, after)

def startsBlank (s : List Char) : Bool :=
  match s with
  | [] => false
  | c :: _ => isSpaceOrTab c

/-- Whether a line of a block scalar starts here. -/
def atBlockLine (indent : Nat) (place : BlockPlace) : Bool :=
  place.column == indent && !place.rest.isEmpty

/-- The line break between two lines of a block scalar. In a folded one it is a space, or gives way
to the blank lines after it, unless a line starts with a blank. -/
def joinLines (folded : Bool) (lineBreak : Char) (line next breaks : List Char) : List Char :=
  if folded && lineBreak == '\n' && !startsBlank line && !startsBlank next then
    if breaks.isEmpty then [' '] else []
  else [lineBreak]

/-- The lines of a block scalar, the breaks after the last of them, and the rest. -/
def blockLines (folded : Bool) (indent : Nat) :
    Nat → List Char → BlockPlace → List Char × Option Char × List Char × List Char
  | 0, breaks, place => ([], none, breaks, place.rest)
  | fuel + 1, breaks, place =>
    if !atBlockLine indent place then ([], none, breaks, place.rest)
    else
      let line := place.rest.takeWhile fun c => !isBreak c
      let afterLine := place.rest.dropWhile fun c => !isBreak c
      match lineBreak? afterLine with
      | none => (breaks ++ line, none, [], afterLine)
      | some (c, more) =>
        let (others, next) := blockBreaks indent (more.length + 1) ⟨more, 0⟩
        if atBlockLine indent next then
          let (text, last, trailing, rest) := blockLines folded indent fuel others next
          (breaks ++ line ++ joinLines folded c line next.rest others ++ text, last, trailing, rest)
        else (breaks ++ line, some c, others, next.rest)

/-- What is kept of the last line break and of the blank lines after it. -/
def chomp (chomping : Chomping) (last : Option Char) (trailing : List Char) : List Char :=
  match chomping with
  | .strip => []
  | .clip => last.toList
  | .keep => last.toList ++ trailing

/-- A block scalar after its first character, in a collection at column `parent`. -/
def blockScalar (folded : Bool) (parent : Int) (s : List Char) :
    Except Error (List Char × List Char) := do
  let (header, afterHeader) ← blockHeader s
  if !atSpaceOrLineEnd afterHeader then .error .malformed
  let body ← endOfLine afterHeader
  let least := (max 1 (parent + 1)).toNat
  let (indent, breaks, place) := match header.increment with
    | none =>
      let (breaks, largest, place) := leadingLines 0 0 body
      (max least largest, breaks, place)
    | some n =>
      let indent := least + n - 1
      let (breaks, place) := blockBreaks indent (body.length + 1) ⟨body, 0⟩
      (indent, breaks, place)
  let (text, last, trailing, rest) := blockLines folded indent (body.length + 1) breaks place
  return (text ++ chomp header.chomping last trailing, rest)

end SplitTest.Yaml
