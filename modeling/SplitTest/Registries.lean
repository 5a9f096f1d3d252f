import SplitTest.DefaultRegistry
import SplitTest.Watcher.Manifest

/-! Registries of a program: all that it has made, by number, and the default one of them, which is
built from settings when it is asked for and there is none. -/
namespace SplitTest

/-- What a registry is built in: the variables that are set, the file of variables if there is one,
and the files at each moment of the wait for the manifest. -/
structure Surroundings where
  environment : Variables
  variableFile : Option (List UInt8)
  files : WaitMoment Double → FileTree
  /-- The clock of the wait. -/
  scale : TimeScale Double
  /-- How many looks at the manifest the wait is followed for. -/
  steps : Nat
  begin : WaitMoment Double
  /-- What the clock of the registry tells. -/
  now : Double

inductive BuildError where
  | variableFile (error : DecodeError)
  | settings (problems : List Problem)
  | opening (error : OpeningError)
deriving DecidableEq, Repr

namespace Surroundings

/-- The text of the file of variables. -/
def variableText (s : Surroundings) : Except BuildError (Option String) :=
  match s.variableFile with
  | none => .ok none
  | some bytes =>
    match Encoding.utf8.decode bytes with
    | .ok text => .ok (some (String.ofList text))
    | .error e => .error (.variableFile e)

def settings (s : Surroundings) : Except BuildError Settings := do
  (Settings.load s.environment (← s.variableText)).mapError .settings

end Surroundings

/-- A registry with the watcher that it answers from, if its manifest is in a file. -/
structure MadeRegistry where
  session : Session
  watcher : Option (Watcher Manifest)

namespace MadeRegistry

def step (r : MadeRegistry) (c : Call) : Reply × MadeRegistry × List Notice :=
  let (reply, session, notices) := match r.watcher with
    | some w => r.session.stepOn w c
    | none => r.session.step c
  (reply, { r with session }, notices)

/-- The watcher looks at the file so many times; gives how many looks were not taken. -/
def poll (r : MadeRegistry) (files : FileTree) (times : Nat) : Nat × MadeRegistry × List Notice :=
  match r.watcher with
  | none => (times, r, [])
  | some w =>
    let (left, w, notices) := w.pollIn w.path.manifestReader files times
    (left, { r with watcher := some w }, notices)

def close (r : MadeRegistry) : MadeRegistry :=
  { r with watcher := r.watcher.map (·.stop) }

end MadeRegistry

structure Registries where
  /-- All registries in the order in which they were made; a registry is told by its place. -/
  made : List MadeRegistry
  default : DefaultRegistry Nat
  /-- The settings, once they have been loaded. -/
  settings : Option Settings

/-- What building a registry comes to, the moment that the wait ends at, and what there is to
tell. -/
structure RegistryBuild where
  outcome : Except BuildError MadeRegistry
  moment : WaitMoment Double
  notices : List Notice

/-- What a program does with registries. -/
inductive RegistryCall where
  /-- One more registry, over a manifest in memory. -/
  | make (session : Session)
  /-- A call to a registry that the program has. -/
  | use (number : Nat) (call : Call)
  | poll (number times : Nat)
  | close (number : Nat)
  /-- Makes a registry the default one, or none. -/
  | install (number : Option Nat)
  | get
  | variant (name : String) (args : Arguments)
  | expose (name : String) (event : ExposureEvent) (context : Value)

inductive RegistryReply where
  | done
  | number (outcome : Except BuildError Nat)
  /-- What a registry answers; one that was never made does not. -/
  | answer (outcome : Except BuildError (Option Reply))

/-- An answer, the registries after it, and what there is to tell. -/
structure Registries.Answer (α : Type) where
  value : α
  registries : Registries
  notices : List Notice

def Registries.Answer.map {α β : Type} (f : α → β) (a : Answer α) : Answer β :=
  { a with value := f a.value }

namespace Registries

def start : Registries := ⟨[], ⟨none⟩, none⟩

/-- The settings: those that were loaded, or else as they are loaded now. -/
def load (p : Registries) (s : Surroundings) : Except BuildError Settings :=
  match p.settings with
  | some settings => .ok settings
  | none => s.settings

/-- Builds a registry over the manifest that the settings name. -/
def build (p : Registries) (s : Surroundings) : RegistryBuild :=
  match p.load s with
  | .error e => ⟨.error e, s.begin, []⟩
  | .ok settings =>
    let opening := settings.watch s.scale s.files s.steps s.begin
    match opening.watcher with
    | .error e => ⟨.error (.opening e), opening.moment, opening.notices⟩
    | .ok w => ⟨.ok ⟨.start w.data s.now .missing, some w⟩, opening.moment, opening.notices⟩

/-- The default registry. One is built if there is none; then settings stay loaded in any case. -/
def ask (p : Registries) (s : Surroundings) : Answer (Except BuildError Nat) :=
  let built := p.build s
  let (value, default) := p.default.get fun _ => built.outcome.map fun _ => p.made.length
  match p.default.current with
  | some _ => ⟨value, { p with default }, []⟩
  | none =>
    let made := p.made ++ built.outcome.toOption.toList
    ⟨value, ⟨made, default, (p.load s).toOption⟩, built.notices⟩

/-- Does something with one of the registries, if it was made. -/
def act {α : Type} (p : Registries) (number : Nat)
    (f : MadeRegistry → α × MadeRegistry × List Notice) : Answer (Option α) :=
  match p.made[number]? with
  | none => ⟨none, p, []⟩
  | some r =>
    let (a, r, notices) := f r
    ⟨some a, { p with made := p.made.set number r }, notices⟩

/-- A call to the default registry. -/
def useDefault (p : Registries) (s : Surroundings) (c : Call) :
    Answer (Except BuildError (Option Reply)) :=
  let asked := p.ask s
  match asked.value with
  | .error e => { asked with value := .error e }
  | .ok number =>
    let used := asked.registries.act number (·.step c)
    { used with value := .ok used.value, notices := asked.notices ++ used.notices }

/-- What a call in its surroundings comes to. -/
def step (p : Registries) (s : Surroundings) : RegistryCall → Answer RegistryReply
  | .make session => ⟨.done, { p with made := p.made ++ [⟨session, none⟩] }, []⟩
  | .use number c => (p.act number (·.step c)).map fun reply => .answer (.ok reply)
  | .poll number times => (p.act number (·.poll (s.files s.begin) times)).map fun _ => .done
  | .close number => (p.act number fun r => ((), r.close, [])).map fun _ => .done
  | .install number => ⟨.done, { p with default := p.default.install number }, []⟩
  | .get => (p.ask s).map .number
  | .variant name args => (p.useDefault s (.variant name args)).map .answer
  | .expose name event context => (p.useDefault s (.expose name event context)).map .answer

/-- The registries after calls, each in its surroundings. -/
def after (p : Registries) : List (RegistryCall × Surroundings) → Registries
  | [] => p
  | (c, s) :: rest => (p.step s c).registries.after rest

end Registries
end SplitTest
