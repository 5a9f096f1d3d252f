import SplitTest.Text.Digit

/-! Words of a command line: which of them are options, and what stands in one word with them. -/
namespace SplitTest.CommandLine

inductive Request where
  | help
  | verbose
  | manifest
  | textArgument
  | jsonArgument
deriving DecidableEq, Repr

def Request.takesValue : Request → Bool
  | help => false
  | verbose => false
  | _ => true

/-- Options by name, with their hyphens. -/
abbrev Options := List (String × Request)

inductive Attachment where
  | nothing
  /-- What follows the letter of an option, with or without an equals sign in between: its value, or
  letters of further options. -/
  | joined (text : List Char)
  /-- What follows the equals sign after a long name. -/
  | assigned (text : List Char)
deriving DecidableEq, Repr

inductive Word where
  | positional (text : String)
  /-- Two hyphens, after which no word is an option. -/
  | separator
  | option (request : Request) (attached : Attachment)
  | unknownOption
  /-- The start of the names of several options. -/
  | ambiguous
deriving DecidableEq, Repr

def isDecimalDigit (c : Char) : Bool := (decimalDigit? c).isSome

/-- A text without a line break at its end. -/
def dropLastBreak (s : List Char) : List Char :=
  if s.getLast? == some '\n' then s.dropLast else s

/-- Whether a word is a negative number: digits, or digits after a point. -/
def isNegativeNumber (word : List Char) : Bool :=
  match dropLastBreak word with
  | '-' :: s =>
    match s.dropWhile isDecimalDigit with
    | [] => !s.isEmpty
    | '.' :: fraction => !fraction.isEmpty && fraction.all isDecimalDigit
    | _ => false
  | _ => false

/-- A word that starts with a hyphen and is no option of ours: negative numbers, and words with
blanks in them, are not taken for one. -/
def unmatched (word : String) : Word :=
  if isNegativeNumber word.toList || word.toList.contains ' ' then .positional word
  else .unknownOption

/-- A name, and the text that is assigned to it. -/
def splitAssigned (word : List Char) : List Char × Option (List Char) :=
  match word.span (· != '=') with
  | (name, _ :: value) => (name, some value)
  | (name, []) => (name, none)

def Attachment.ofAssigned : Option (List Char) → Attachment
  | some value => assigned value
  | none => nothing

/-- A word that starts with two hyphens; a long name may be cut short. -/
def longWord (options : Options) (word : String) : Word :=
  let (name, assigned) := splitAssigned word.toList
  match options.filter fun (full, _) => name.isPrefixOf full.toList with
  | [] => unmatched word
  | [(_, request)] => .option request (.ofAssigned assigned)
  | _ => .ambiguous

/-- A word that starts with one hyphen and a letter. -/
def shortWord (options : Options) (word : String) : Word :=
  match options.lookup (String.ofList (word.toList.take 2)) with
  | some request => .option request (.joined (word.toList.drop 2))
  | none => unmatched word

def Word.ofText (options : Options) (word : String) : Word :=
  match word.toList with
  | ['-', '-'] => .separator
  | '-' :: second :: rest =>
    let (name, assigned) := splitAssigned ('-' :: second :: rest)
    match options.lookup word, options.lookup (String.ofList name) with
    | some request, _ => .option request .nothing
    | none, some request =>
      .option request (if second == '-' then .ofAssigned assigned else .joined (assigned.getD []))
    | none, none => if second == '-' then longWord options word else shortWord options word
  | _ => .positional word

def words (options : Options) : List String → List Word
  | [] => []
  | text :: rest =>
    match Word.ofText options text with
    | .separator => .separator :: rest.map .positional
    | word => word :: words options rest

structure Expansion where
  settled : List (Request × Option String)
  /-- The last option, if it waits for its value. -/
  waiting : Option Request
deriving DecidableEq, Repr

def Expansion.cons (request : Request) (e : Expansion) : Expansion :=
  { e with settled := (request, none) :: e.settled }

/-- An option with nothing in its word. -/
def Expansion.alone (request : Request) : Expansion :=
  if request.takesValue then ⟨[], some request⟩ else ⟨[(request, none)], none⟩

/-- The options in a word from one on, given what follows its letter. There is none where a letter
is no option, or where nothing is given to one without a value. -/
def expandJoined (options : Options) (request : Request) : List Char → Option Expansion
  | [] => if request.takesValue then some ⟨[(request, some "")], none⟩ else none
  | c :: rest =>
    if request.takesValue then some ⟨[(request, some (String.ofList (c :: rest)))], none⟩
    else
      match options.lookup (String.ofList ['-', c]), rest with
      | none, _ => none
      | some next, [] => some (.cons request (.alone next))
      | some next, more => (expandJoined options next more).map (.cons request)

/-- The options in a word; letters of options without a value may stand together. -/
def expand (options : Options) (request : Request) : Attachment → Option Expansion
  | .nothing => some (.alone request)
  | .joined text => expandJoined options request text
  | .assigned text =>
    if request.takesValue then some ⟨[(request, some (String.ofList text))], none⟩ else none

end SplitTest.CommandLine
