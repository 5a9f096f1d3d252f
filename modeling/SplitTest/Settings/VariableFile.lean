import SplitTest.Assoc
import SplitTest.Text.Blank

/-! Files of variables: a line for each, with quotes, notes, and references to other variables. -/
namespace SplitTest

/-- Variables by name. -/
abbrev Variables := List (String × String)

namespace VariableFile

/-- Blanks within a line. -/
def isInlineBlank (c : Char) : Bool :=
  isSpacing c && c != '\n' && c != '\r'

/-- All ends of lines in their short form. -/
def unifyLines : List Char → List Char
  | [] => []
  | '\r' :: '\n' :: rest => '\n' :: unifyLines rest
  | '\r' :: rest => '\n' :: unifyLines rest
  | c :: rest => c :: unifyLines rest

/-- The word that may stand in front of a name. -/
def exportWord : List Char := ['e', 'x', 'p', 'o', 'r', 't']

def skipExport (s : List Char) : List Char :=
  let after := s.drop exportWord.length
  if exportWord.isPrefixOf s && after.head?.any isInlineBlank then after.dropWhile isInlineBlank
  else s

/-- A name at the start of a line, and what follows it. A note has no name. -/
def readName : List Char → Option (Option (List Char) × List Char)
  | '#' :: rest => some (none, '#' :: rest)
  | '\'' :: rest =>
    match rest.span (· != '\'') with
    | (_ :: _, []) => none
    | ([], _) => none
    | (name, _ :: after) => some (some name, after)
  | s =>
    match s.span fun c => c != '=' && c != '#' && !isSpacing c with
    | ([], _) => none
    | (name, after) => some (some name, after)

/-- The text up to the quote that closes it, and what follows. A character after a backslash is
part of the text, whatever it is. -/
def untilQuote (quote : Char) : List Char → Option (List Char × List Char)
  | [] => none
  | '\\' :: c :: rest =>
    (untilQuote quote rest).map fun (inside, after) => ('\\' :: c :: inside, after)
  | c :: rest =>
    if c = quote then some ([], rest)
    else (untilQuote quote rest).map fun (inside, after) => (c :: inside, after)

/-- What a character after a backslash stands for in double quotes. -/
def doubleEscape? : Char → Option Char
  | '\\' => some '\\'
  | '\'' => some '\''
  | '"' => some '"'
  | 'a' => some '\x07'
  | 'b' => some '\x08'
  | 'f' => some '\x0c'
  | 'n' => some '\n'
  | 'r' => some '\r'
  | 't' => some '\t'
  | 'v' => some '\x0b'
  | _ => none

/-- What a character after a backslash stands for in single quotes. -/
def singleEscape? : Char → Option Char
  | '\\' => some '\\'
  | '\'' => some '\''
  | _ => none

/-- A text with its escapes replaced; a backslash in front of another character stays. -/
def unescape (escape? : Char → Option Char) : List Char → List Char
  | '\\' :: c :: rest =>
    match escape? c with
    | some d => d :: unescape escape? rest
    | none => '\\' :: unescape escape? (c :: rest)
  | c :: rest => c :: unescape escape? rest
  | [] => []

/-- A line without its note, which starts at blanks in front of a hash sign. -/
def dropNote : List Char → List Char
  | [] => []
  | c :: rest =>
    if isSpacing c && (rest.dropWhile isSpacing).head? == some '#' then [] else c :: dropNote rest

/-- The value after the equals sign of a line and the blanks behind it, and what follows the value.
With the blanks a note may start where the value would. -/
def readValue (blanks : List Char) : List Char → Option (List Char × List Char)
  | '\'' :: rest =>
    (untilQuote '\'' rest).map fun (inside, after) => (unescape singleEscape? inside, after)
  | '"' :: rest =>
    (untilQuote '"' rest).map fun (inside, after) => (unescape doubleEscape? inside, after)
  | s =>
    let (line, after) := s.span (· != '\n')
    some (trimBoth isSpacing (dropNote (blanks ++ line)), after)

/-- The equals sign and the value after a name; a name may stand alone. -/
def readAssignment (s : List Char) : Option (Option (List Char) × List Char) :=
  match s.dropWhile isInlineBlank with
  | '=' :: rest =>
    let (blanks, afterBlanks) := rest.span isInlineBlank
    (readValue blanks afterBlanks).map fun (value, after) => (some value, after)
  | after => some (none, after)

/-- The end of a line, with a note or blanks in front of it. -/
def readLineEnd (s : List Char) : Option (List Char) :=
  let blank := s.dropWhile isInlineBlank
  let after := if blank.head? == some '#' then blank.dropWhile (· != '\n') else blank
  match after with
  | [] => some []
  | '\n' :: rest => some rest
  | _ => none

/-- What follows the end of the line that a fault is in. -/
def skipLine (s : List Char) : List Char :=
  (s.dropWhile (· != '\n')).drop 1

/-- A variable, or nothing for a note or a line that is wrong, and what follows it. A variable
without an equals sign has no value. -/
def readBinding (s : List Char) : Option (String × Option String) × List Char :=
  let start := skipExport (s.dropWhile isSpacing)
  match readName start with
  | none => (none, skipLine start)
  | some (name, afterName) =>
    match readAssignment afterName with
    | none => (none, skipLine ((afterName.dropWhile isInlineBlank).drop 1))
    | some (value, afterValue) =>
      match readLineEnd afterValue with
      | none => (none, skipLine afterValue)
      | some rest =>
        (name.map fun name => (String.ofList name, value.map String.ofList), rest)

/-- The variables of a text, as they are written. -/
def bindings : Nat → List Char → List (String × Option String)
  | 0, _ => []
  | fuel + 1, s =>
    if s.isEmpty then []
    else
      let (binding, rest) := readBinding s
      binding.toList ++ bindings fuel rest

/-- The reference to a variable that a text starts with: its name, what stands in for it if it is
not set, and what follows. -/
def reference? : List Char → Option (String × Option String × List Char)
  | '$' :: '\x7b' :: s =>
    let (name, after) := s.span fun c => c != '\x7d' && c != ':'
    match after with
    | '\x7d' :: rest => some (String.ofList name, none, rest)
    | ':' :: '-' :: rest =>
      match rest.span (· != '\x7d') with
      | (default, _ :: rest) => some (String.ofList name, some (String.ofList default), rest)
      | (_, []) => none
    | _ => none
  | _ => none

/-- The value of a reference: that of the file, else that of the environment. -/
def valueOf (environment : Variables) (file : List (String × Option String)) (name : String)
    (default : Option String) : String :=
  match Assoc.find? name file with
  | some value => value.getD ""
  | none => (Assoc.find? name environment).getD (default.getD "")

/-- A text with its references replaced by the values of variables. -/
def expand (valueOf : String → Option String → String) : Nat → List Char → List Char
  | 0, s => s
  | _, [] => []
  | fuel + 1, c :: rest =>
    match reference? (c :: rest) with
    | some (name, default, rest) => (valueOf name default).toList ++ expand valueOf fuel rest
    | none => c :: expand valueOf fuel rest

/-- Variables with their references replaced, from first to last. -/
def resolve (environment : Variables) (done : List (String × Option String)) :
    List (String × Option String) → List (String × Option String)
  | [] => done
  | (name, value) :: rest =>
    let value := value.map fun v =>
      String.ofList (expand (valueOf environment done) (v.length + 1) v.toList)
    resolve environment (Assoc.insert name value done) rest

/-- The variables of a file; those without an equals sign have no value. -/
def parse (environment : Variables) (text : String) : List (String × Option String) :=
  let s := unifyLines text.toList
  resolve environment [] (bindings (s.length + 1) s)

end VariableFile
end SplitTest
