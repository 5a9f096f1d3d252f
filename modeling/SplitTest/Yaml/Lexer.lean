import SplitTest.Yaml.Lexeme.Plain
import SplitTest.Yaml.Lexeme.Tag

/-! The tokens of a YAML text. A colon may tell that an earlier token was a key, so the place of the
last token that can be one is kept for each level of flow collections. -/
namespace SplitTest.Yaml

/-- A token that can be a key if a colon follows it on its line. -/
structure KeyCandidate where
  /-- How many tokens stand before it. -/
  position : Nat
  /-- Whether it has to be a key, standing at the indentation of a block mapping. -/
  required : Bool
  offset : Nat
  line : Nat
  column : Nat

/-- The tokens read so far, and what the rest of a text is read with. -/
structure Lexer where
  cursor : Cursor
  tokens : Array Token
  /-- The column of the innermost block collection, `-1` outside of all. -/
  indent : Int
  outerIndents : List Int
  /-- The token that can be a key in the innermost flow collection. -/
  candidate : Option KeyCandidate
  /-- Those of the collections around it; there are as many as flow collections. -/
  outerCandidates : List (Option KeyCandidate)
  /-- Whether a key can start here. -/
  keyAllowed : Bool

/-- How many characters a key and the colon after it are apart at most. -/
def keyReach : Nat := 1024

/-- Whether a candidate is on another line or too far away. -/
def KeyCandidate.isStale (k : KeyCandidate) (c : Cursor) : Bool :=
  k.line != c.line || k.offset + keyReach < c.offset

namespace Lexer

def start (text : List Char) : Lexer :=
  ⟨.start text, #[], -1, [], none, [], true⟩

def inFlow (x : Lexer) : Bool := !x.outerCandidates.isEmpty

def push (x : Lexer) (t : Token) : Lexer :=
  { x with tokens := x.tokens.push t }

def take (x : Lexer) (t : Token) (count : Nat) : Lexer :=
  { x with tokens := x.tokens.push t, cursor := x.cursor.skip count }

/-- A token that ends where only `rest` is left. -/
def takeTo (x : Lexer) (t : Token) (rest : List Char) : Lexer :=
  { x with tokens := x.tokens.push t, cursor := x.cursor.skipTo rest }

/-- Blanks and comments in front of the next token: how many characters, and whether a line ends. -/
def blankLength (inComment : Bool) : List Char → Nat × Bool
  | [] => (0, false)
  | c :: rest =>
    if isBreak c then ((blankLength false rest).1 + 1, true)
    else if inComment then
      let (n, broken) := blankLength true rest
      (n + 1, broken)
    else if c == ' ' || c == '#' then
      let (n, broken) := blankLength (c == '#') rest
      (n + 1, broken)
    else (0, false)

/-- The place of the next token. Outside of flow collections a key may start on a new line. -/
def skipBlanks (x : Lexer) : Lexer :=
  let (n, broken) := blankLength false x.cursor.rest
  { x with cursor := x.cursor.skip n, keyAllowed := x.keyAllowed || (broken && !x.inFlow) }

/-- A stale candidate is none any more. -/
def refresh (c : Cursor) : Option KeyCandidate → Except Error (Option KeyCandidate)
  | none => .ok none
  | some k =>
    if !k.isStale c then .ok (some k)
    else if k.required then .error .malformed
    else .ok none

def dropStale (x : Lexer) : Except Error Lexer := do
  let candidate ← refresh x.cursor x.candidate
  let outerCandidates ← x.outerCandidates.mapM (refresh x.cursor)
  return { x with candidate, outerCandidates }

/-- Block collections that are indented more than `column` end. -/
def closeTo (column : Int) (tokens : Array Token) (indent : Int) :
    List Int → Array Token × Int × List Int
  | [] => (tokens, indent, [])
  | outer :: rest =>
    if column < indent then closeTo column (tokens.push .blockEnd) outer rest
    else (tokens, indent, outer :: rest)

def unwind (x : Lexer) (column : Int) : Lexer :=
  if x.inFlow then x
  else
    let (tokens, indent, outerIndents) := closeTo column x.tokens x.indent x.outerIndents
    { x with tokens, indent, outerIndents }

/-- A block collection starts at a column where none is open. -/
def openAt (x : Lexer) (column : Nat) (position : Nat) (t : Token) : Lexer :=
  if x.indent < column then
    { x with
      tokens := x.tokens.insertIdxIfInBounds position t
      indent := column
      outerIndents := x.indent :: x.outerIndents }
  else x

def dropCandidate (x : Lexer) : Except Error Lexer :=
  match x.candidate with
  | some k => if k.required then .error .malformed else .ok { x with candidate := none }
  | none => .ok x

/-- The next token can be a key. -/
def noteCandidate (x : Lexer) : Except Error Lexer := do
  if !x.keyAllowed then return x
  let x ← x.dropCandidate
  return { x with candidate := some {
    position := x.tokens.size
    required := !x.inFlow && x.indent == x.cursor.column
    offset := x.cursor.offset
    line := x.cursor.line
    column := x.cursor.column } }

/-- All block collections end, and no key is open. -/
def leaveBlocks (x : Lexer) : Except Error Lexer := do
  let x ← (x.unwind (-1)).dropCandidate
  return { x with keyAllowed := false }

def readDirective (x : Lexer) (rest : List Char) : Except Error Lexer := do
  let x ← x.leaveBlocks
  let (d, after) ← directive rest
  return x.takeTo (.directive d) after

def readMarker (x : Lexer) (t : Token) : Except Error Lexer := do
  return (← x.leaveBlocks).take t 3

def openFlow (x : Lexer) (t : Token) : Except Error Lexer := do
  let x ← x.noteCandidate
  return { x.take t 1 with
    candidate := none
    outerCandidates := x.candidate :: x.outerCandidates
    keyAllowed := true }

def closeFlow (x : Lexer) (t : Token) : Except Error Lexer := do
  let x ← x.dropCandidate
  match x.outerCandidates with
  | [] => .error .malformed
  | candidate :: outerCandidates =>
    return { x.take t 1 with candidate, outerCandidates, keyAllowed := false }

def readFlowEntry (x : Lexer) : Except Error Lexer := do
  let x ← x.dropCandidate
  return { x.take .flowEntry 1 with keyAllowed := true }

/-- An item or a complex key starts; outside of flow collections only where a key can. -/
def readBlockIndicator (x : Lexer) (start t : Token) (keyAllowed : Bool) :
    Except Error Lexer := do
  if !x.inFlow && !x.keyAllowed then .error .malformed
  let opened := if x.inFlow then x else x.openAt x.cursor.column x.tokens.size start
  let x ← opened.dropCandidate
  return { x.take t 1 with keyAllowed }

def readValue (x : Lexer) : Except Error Lexer := do
  match x.candidate with
  | some k =>
    let keyed := { x with
      tokens := x.tokens.insertIdxIfInBounds k.position .key
      candidate := none
      keyAllowed := false }
    let opened := if x.inFlow then keyed else keyed.openAt k.column k.position .blockMappingStart
    return opened.take .value 1
  | none => x.readBlockIndicator .blockMappingStart .value (!x.inFlow)

/-- A name, which can be a key or stand before one. -/
def readName (x : Lexer) (t : Token) (rest : List Char) : Except Error Lexer := do
  let x ← x.noteCandidate
  return { x.takeTo t rest with keyAllowed := false }

def readBlockScalar (x : Lexer) (folded : Bool) (rest : List Char) : Except Error Lexer := do
  let x ← x.dropCandidate
  let (text, after) ← blockScalar folded x.indent rest
  return { x.takeTo (.scalar (String.ofList text) false) after with keyAllowed := true }

def readPlain (x : Lexer) : Except Error Lexer := do
  let x ← x.noteCandidate
  let s := x.cursor.rest
  let plain := plainWords x.inFlow (x.indent + 1).toNat (s.length + 1) [] s false
  return { x.takeTo (.scalar (String.ofList plain.text) true) plain.rest with
    keyAllowed := plain.broken }

/-- The token that starts with a character, at the start of a line or not. -/
def readToken (x : Lexer) (c : Char) (rest : List Char) : Except Error Lexer := do
  let s := x.cursor.rest
  let atLineStart := x.cursor.column == 0
  if c == '%' && atLineStart then x.readDirective rest
  else if atLineStart && isMarker '-' s then x.readMarker .documentStart
  else if atLineStart && isMarker '.' s then x.readMarker .documentEnd
  else if c == '[' then x.openFlow .flowSequenceStart
  else if c == '\x7b' then x.openFlow .flowMappingStart
  else if c == ']' then x.closeFlow .flowSequenceEnd
  else if c == '\x7d' then x.closeFlow .flowMappingEnd
  else if c == ',' then x.readFlowEntry
  else if c == '-' && atBlank rest then
    x.readBlockIndicator .blockSequenceStart .blockEntry true
  else if c == '?' && (x.inFlow || atBlank rest) then
    x.readBlockIndicator .blockMappingStart .key (!x.inFlow)
  else if c == ':' && (x.inFlow || atBlank rest) then x.readValue
  else if c == '*' then do
    let (name, after) ← anchorName rest
    x.readName (.alias name) after
  else if c == '&' then do
    let (name, after) ← anchorName rest
    x.readName (.anchor name) after
  else if c == '!' then do
    let (t, after) ← tagToken rest
    x.readName t after
  else if (c == '|' || c == '>') && !x.inFlow then x.readBlockScalar (c == '>') rest
  else if c == '\'' || c == '"' then do
    let (text, after) ← quotedScalar (c == '"') rest
    x.readName (.scalar (String.ofList text) false) after
  else if startsPlain x.inFlow s then x.readPlain
  else .error .malformed

/-- The tokens in front of the first one that may still turn out to be a key. Whoever reads the
tokens one by one gets to that one only when it is known what follows it. -/
def settledTokens (x : Lexer) : Array Token :=
  let fresh := (x.candidate :: x.outerCandidates).filterMap (·.filter (!·.isStale x.cursor))
  match (fresh.map (·.position)).min? with
  | some position => x.tokens.take position
  | none => x.tokens

def finish (x : Lexer) : Except Error Lexer := do
  return (← x.leaveBlocks).push .streamEnd

/-- One more token, or the end of the text. -/
def step (x : Lexer) : Except Error (Lexer × Bool) := do
  let fresh ← x.skipBlanks.dropStale
  let x := fresh.unwind fresh.cursor.column
  match x.cursor.rest with
  | [] => return (← x.finish, true)
  | c :: rest => return (← x.readToken c rest, false)

/-- The tokens up to the end of the text, or those that are settled at the first place that is
wrong. -/
def run : Nat → Lexer → Array Token × Option Error
  | 0, x => (x.tokens, some .malformed)
  | fuel + 1, x =>
    match x.step with
    | .error e => (x.settledTokens, some e)
    | .ok (x, true) => (x.tokens, none)
    | .ok (x, false) => run fuel x

end Lexer

/-- The tokens of a text, and what is wrong where they end early. A byte order mark is no part of
the text. -/
def tokens (text : List Char) : List Token × Option Error :=
  let body := match text with
    | '\ufeff' :: rest => rest
    | _ => text
  let (tokens, error) := (Lexer.start body).run (body.length + 1)
  (tokens.toList, error)

end SplitTest.Yaml
