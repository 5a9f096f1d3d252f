import SplitTest.Text.Encoding
import SplitTest.Yaml.Error
import SplitTest.Yaml.Lexeme.Block
import SplitTest.Yaml.Lexeme.Quoted
import SplitTest.Yaml.Token

/-! Names in YAML texts: anchors, tags and directives. -/
namespace SplitTest.Yaml

/-- Characters that a tag may hold as they are. -/
def isUriChar (c : Char) : Bool :=
  c.isAlphanum || "-;/?:@&=+$,_.!~*'()[]".toList.contains c

/-- A run of escaped bytes, each a percent sign and two hexadecimal digits. -/
def uriBytes : List Char → Except Error (List UInt8 × List Char)
  | '%' :: a :: b :: rest =>
    match Json.hexValue? a, Json.hexValue? b with
    | some x, some y => do
      let (bytes, after) ← uriBytes rest
      return (UInt8.ofNat (x * 16 + y) :: bytes, after)
    | _, _ => .error .malformed
  | '%' :: _ => .error .malformed
  | s => .ok ([], s)

/-- The characters of a tag, escaped bytes read as UTF-8, and the rest. -/
def uriChars : Nat → List Char → Except Error (List Char × List Char)
  | 0, s => .ok ([], s)
  | fuel + 1, s =>
    match s with
    | '%' :: _ => do
      let (bytes, afterBytes) ← uriBytes s
      let decoded ← (Encoding.utf8.decode bytes).mapError fun _ => Error.malformed
      let (text, after) ← uriChars fuel afterBytes
      return (decoded ++ text, after)
    | c :: rest =>
      if isUriChar c then do
        let (text, after) ← uriChars fuel rest
        return (c :: text, after)
      else .ok ([], s)
    | [] => .ok ([], s)

/-- The characters of a tag; there is at least one. -/
def uri (s : List Char) : Except Error (String × List Char) := do
  let (text, after) ← uriChars (s.length + 1) s
  if after.length == s.length then .error .malformed
  return (String.ofList text, after)

/-- A tag handle: an exclamation mark before a space, or a name, perhaps empty, between two. -/
def tagHandle (s : List Char) : Except Error (String × List Char) :=
  match s with
  | '!' :: ' ' :: rest => .ok ("!", ' ' :: rest)
  | '!' :: rest =>
    match rest.dropWhile isNameChar with
    | '!' :: after => .ok (String.ofList ('!' :: rest.takeWhile isNameChar ++ ['!']), after)
    | _ => .error .malformed
  | _ => .error .malformed

/-- Whether the word that a text starts with has an exclamation mark. -/
def hasHandle (s : List Char) : Bool :=
  (s.takeWhile fun c => !(isBreak c || c == ' ')).contains '!'

/-- A tag after its first exclamation mark. -/
def tagToken (s : List Char) : Except Error (Token × List Char) := do
  let (token, after) ← match s with
    | '<' :: rest => do
      let (suffix, after) ← uri rest
      match after with
      | '>' :: after => pure (Token.tag none suffix, after)
      | _ => .error .malformed
    | _ =>
      if atBlank s then pure (Token.tag none "!", s)
      else if hasHandle s then do
        let (handle, afterHandle) ← tagHandle ('!' :: s)
        let (suffix, after) ← uri afterHandle
        pure (Token.tag (some handle) suffix, after)
      else do
        let (suffix, after) ← uri s
        pure (Token.tag (some "!") suffix, after)
  if atSpaceOrLineEnd after then return (token, after) else .error .malformed

/-- The name of an anchor or an alias, and the rest. -/
def anchorName (s : List Char) : Except Error (String × List Char) :=
  let name := s.takeWhile isNameChar
  let after := s.dropWhile isNameChar
  let ends := atBlank after || match after with
    | [] => true
    | c :: _ => "?:,]\x7d%@\x60".toList.contains c
  if name.isEmpty || !ends then .error .malformed else .ok (String.ofList name, after)

/-- Digits at the start of a text; there is at least one, and there are not too many. -/
def directiveNumber (s : List Char) : Except Error (Nat × List Char) :=
  let digits := s.takeWhile isDigit
  if digits.isEmpty then .error .malformed
  else if numeralLimit < digits.length then .error (.digits digits.length)
  else .ok (ofDecimalDigits digits, s.dropWhile isDigit)

def versionDirective (s : List Char) : Except Error (Directive × List Char) := do
  let (major, afterMajor) ← directiveNumber (s.dropWhile (· == ' '))
  match afterMajor with
  | '.' :: rest =>
    let (_, after) ← directiveNumber rest
    if atSpaceOrLineEnd after then return (.version major, after) else .error .malformed
  | _ => .error .malformed

def tagDirective (s : List Char) : Except Error (Directive × List Char) := do
  let (handle, afterHandle) ← tagHandle (s.dropWhile (· == ' '))
  if afterHandle.head? != some ' ' then .error .malformed
  let (text, after) ← uri (afterHandle.dropWhile (· == ' '))
  if atSpaceOrLineEnd after then return (.tagHandle handle text, after) else .error .malformed

/-- A directive after its percent sign, up to the end of its line. -/
def directive (s : List Char) : Except Error (Directive × List Char) := do
  let name := s.takeWhile isNameChar
  let afterName := s.dropWhile isNameChar
  if name.isEmpty || !atSpaceOrLineEnd afterName then .error .malformed
  let (d, after) ← match String.ofList name with
    | "YAML" => versionDirective afterName
    | "TAG" => tagDirective afterName
    | _ => pure (Directive.other, afterName.dropWhile fun c => !isBreak c)
  return (d, ← endOfLine after)

end SplitTest.Yaml
