import SplitTest.Yaml.Cursor
import SplitTest.Yaml.Error
import SplitTest.Json.Reader

/-! Quoted scalars: texts in single or double quotes, folded over lines. Texts are well-formed
Unicode: escapes of surrogates are read as the replacement character, and are not kept as they are.
-/
namespace SplitTest.Yaml

def escapeChar? : Char → Option Char
  | '0' => some '\x00'
  | 'a' => some '\x07'
  | 'b' => some '\x08'
  | 't' | '\t' => some '\t'
  | 'n' => some '\n'
  | 'v' => some '\x0b'
  | 'f' => some '\x0c'
  | 'r' => some '\r'
  | 'e' => some '\x1b'
  | ' ' => some ' '
  | '"' => some '"'
  | '\\' => some '\\'
  | '/' => some '/'
  | 'N' => some '\x85'
  | '_' => some '\xa0'
  | 'L' => some '\u2028'
  | 'P' => some '\u2029'
  | _ => none

/-- How many hexadecimal digits follow the letter of an escape. -/
def escapeWidth? : Char → Option Nat
  | 'x' => some 2
  | 'u' => some 4
  | 'U' => some 8
  | _ => none

/-- The character of a number; half of a surrogate pair stands as the replacement character. -/
def characterOf (n : Nat) : Except Error Char :=
  if 0x80000000 ≤ n then .error .characterTooLarge
  else if 0x110000 ≤ n then .error .characterRange
  else if Json.isHighSurrogate n || Json.isLowSurrogate n then .ok '\ufffd'
  else .ok (Char.ofNat n)

/-- The character that hexadecimal digits name. -/
def hexCharacter (digits : List Char) : Except Error Char :=
  match digits.mapM Json.hexValue? with
  | none => .error .malformed
  | some values => characterOf (values.foldl (fun n d => n * 16 + d) 0)

/-- Blank lines in a quoted scalar: the line breaks and the rest. No document starts or ends
there. -/
def quotedBreaks : Nat → List Char → Except Error (List Char × List Char)
  | 0, s => .ok ([], s)
  | fuel + 1, s =>
    if atDocumentMarker s then .error .malformed
    else
      let rest := s.dropWhile isSpaceOrTab
      match lineBreak? rest with
      | none => .ok ([], rest)
      | some (c, more) => do
        let (breaks, after) ← quotedBreaks fuel more
        return (c :: breaks, after)

/-- One line break is a space, more than one are all but the first. -/
def foldQuoted (first : Char) (others : List Char) : List Char :=
  if first != '\n' then first :: others
  else if others.isEmpty then [' '] else others

/-- The characters of a quoted scalar and the rest after its closing quote; `fuel` bounds the
characters and escapes that are read. -/
def quotedChars (double : Bool) : Nat → List Char → Except Error (List Char × List Char)
  | 0, _ => .error .malformed
  | fuel + 1, s =>
    match s with
    | [] => .error .malformed
    | c :: rest =>
      if isSpaceOrTab c || isBreak c then
        let spaces := s.takeWhile isSpaceOrTab
        let afterSpaces := s.dropWhile isSpaceOrTab
        match lineBreak? afterSpaces with
        | none => do
          if afterSpaces.isEmpty then .error .malformed
          let (text, after) ← quotedChars double fuel afterSpaces
          return (spaces ++ text, after)
        | some (first, more) => do
          let (others, afterBreaks) ← quotedBreaks fuel more
          let (text, after) ← quotedChars double fuel afterBreaks
          return (foldQuoted first others ++ text, after)
      else if double && c == '"' then .ok ([], rest)
      else if !double && c == '\'' then
        match rest with
        | '\'' :: more => do
          let (text, after) ← quotedChars double fuel more
          return ('\'' :: text, after)
        | _ => .ok ([], rest)
      else if double && c == '\\' then
        match rest with
        | [] => .error .malformed
        | e :: more =>
          match escapeChar? e, escapeWidth? e, lineBreak? rest with
          | some ch, _, _ => do
            let (text, after) ← quotedChars double fuel more
            return (ch :: text, after)
          | none, some width, _ => do
            if more.length < width then .error .malformed
            let ch ← hexCharacter (more.take width)
            let (text, after) ← quotedChars double fuel (more.drop width)
            return (ch :: text, after)
          | none, none, some (_, afterBreak) => do
            let (breaks, afterBreaks) ← quotedBreaks fuel afterBreak
            let (text, after) ← quotedChars double fuel afterBreaks
            return (breaks ++ text, after)
          | none, none, none => .error .malformed
      else do
        let (text, after) ← quotedChars double fuel rest
        return (c :: text, after)

/-- A quoted scalar after its opening quote. -/
def quotedScalar (double : Bool) (s : List Char) : Except Error (List Char × List Char) :=
  quotedChars double (s.length + 1) s

end SplitTest.Yaml
