import SplitTest.CommandLine.Option

/-! Invocations: what a command line asks the program to do. -/
namespace SplitTest.CommandLine

inductive Command where
  | list
  | validate (names : List String)
  | variant (name : String) (textPairs jsonPairs : List String)
deriving DecidableEq, Repr

structure Invocation where
  manifest : Option String
  verbose : Bool
  command : Command
deriving DecidableEq, Repr

inductive Refusal where
  /-- Help was asked for. -/
  | help
  | rejected
deriving DecidableEq, Repr

def Refusal.exitCode : Refusal → Nat
  | help => 0
  | rejected => 2

def helpOptions : Options := [("-h", .help), ("--help", .help)]

def mainOptions : Options :=
  helpOptions ++ [("--manifest", .manifest), ("-m", .manifest), ("--verbose", .verbose),
    ("-v", .verbose)]

def variantOptions : Options :=
  helpOptions ++ [("--arg", .textArgument), ("--json-arg", .jsonArgument)]

/-- A part of a command line, taken apart: requests with their values, and words between them. -/
inductive Item where
  | request (request : Request) (value : Option String)
  | word (text : String)
  | separator
  | unknownOption
deriving DecidableEq, Repr

/-- The items of words. An option that has a value takes the next word for it; where there is
none, the items end with a refusal. -/
def items (options : Options) : List Word → List Item × Option Refusal
  | [] => ([], none)
  | .positional text :: rest =>
    let (more, refusal) := items options rest
    (.word text :: more, refusal)
  | .separator :: rest =>
    let (more, refusal) := items options rest
    (.separator :: more, refusal)
  | .unknownOption :: rest =>
    let (more, refusal) := items options rest
    (.unknownOption :: more, refusal)
  | .ambiguous :: _ => ([], some .rejected)
  | .option request attached :: rest =>
    match expand options request attached with
    | none => ([], some .rejected)
    | some ⟨settled, none⟩ =>
      let (more, refusal) := items options rest
      (settled.map (fun (r, v) => .request r v) ++ more, refusal)
    | some ⟨settled, some waiting⟩ =>
      match rest with
      | .positional value :: rest =>
        let (more, refusal) := items options rest
        (settled.map (fun (r, v) => .request r v) ++ .request waiting (some value) :: more, refusal)
      | _ => ([], some .rejected)

/-- The items of a command's words, refused where help is asked for or a word is not understood. -/
def understood (options : Options) (texts : List String) : Except Refusal (List Item) :=
  let ws := words options texts
  if ws.contains .ambiguous then .error .rejected
  else
    let (is, refusal) := items options ws
    if is.contains (.request .help none) then .error .help
    else match refusal with
      | some r => .error r
      | none => if is.contains .unknownOption then .error .rejected else .ok is

/-- The command `list`, which has nothing after it. -/
def Command.ofListWords (texts : List String) : Except Refusal Command := do
  match ← understood helpOptions texts with
  | [] => return .list
  | _ => .error .rejected

/-- The command `validate` and the names after it. -/
def Command.ofValidateWords (texts : List String) : Except Refusal Command := do
  let is ← understood helpOptions texts
  return .validate (is.filterMap fun
    | .word text => some text
    | _ => none)

def valuesOf (request : Request) (is : List Item) : List String :=
  is.filterMap fun
    | .request r (some value) => if r = request then some value else none
    | _ => none

/-- The name among the items of a command that has just one: the separator may stand next to it,
but nowhere else. -/
def soleName? (is : List Item) : Option String :=
  match is.filter fun
    | .request _ _ => false
    | _ => true with
  | [.word name] => some name
  | [.separator, .word name] => some name
  | [.word name, .separator] => if separatorNextTo name is then some name else none
  | _ => none
where
  /-- Whether a separator follows a word at once. -/
  separatorNextTo (name : String) : List Item → Bool
    | .word _ :: .separator :: _ => true
    | _ :: rest => separatorNextTo name rest
    | [] => false

/-- The command `variant`, its name, and the arguments around it. -/
def Command.ofVariantWords (texts : List String) : Except Refusal Command := do
  let is ← understood variantOptions texts
  match soleName? is with
  | some name => return .variant name (valuesOf .textArgument is) (valuesOf .jsonArgument is)
  | none => .error .rejected

def Command.ofWords (name : String) (texts : List String) : Except Refusal Command :=
  match name with
  | "list" => Command.ofListWords texts
  | "validate" => Command.ofValidateWords texts
  | "variant" => Command.ofVariantWords texts
  | _ => .error .rejected

namespace Invocation

/-- Reads words in front of the command; `unknown` tells of an option that was not understood. -/
def read (manifest : Option String) (verbose unknown : Bool) :
    Nat → List String → Except Refusal Invocation
  | 0, _ => .error .rejected
  | _, [] => .error .rejected
  | fuel + 1, text :: rest =>
    match Word.ofText mainOptions text with
    | .positional name => do
      let command ← Command.ofWords name rest
      if unknown then .error .rejected else return ⟨manifest, verbose, command⟩
    | .unknownOption => read manifest verbose true fuel rest
    | .separator | .ambiguous => .error .rejected
    | .option request attached =>
      match expand mainOptions request attached with
      | none => .error .rejected
      | some e =>
        let value := rest.head?.bind fun text =>
          match Word.ofText mainOptions text with
          | .positional value => some value
          | _ => none
        if e.waiting.isSome && value.isNone then .error .rejected
        else if e.settled.contains (.help, none) then .error .help
        else
          let given := if e.waiting.isSome then value else
            e.settled.findSome? fun
              | (.manifest, value) => value
              | _ => none
          read (given.or manifest) (verbose || e.settled.contains (.verbose, none))
            unknown fuel (if e.waiting.isSome then rest.drop 1 else rest)

def ofWords (texts : List String) : Except Refusal Invocation :=
  if (words mainOptions texts).contains .ambiguous then .error .rejected
  else read none false false (texts.length + 1) texts

end Invocation
end SplitTest.CommandLine
