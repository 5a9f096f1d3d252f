import SplitTest.Assignment
import SplitTest.Manifest

/-! Registries: the experiments of a manifest, compiled when they are first asked for and kept as
long as the manifest is the same. -/
namespace SplitTest

/-- A manifest as it is handed out; two of them are the same one if their numbers are equal. -/
structure Snapshot where
  number : Nat
  manifest : Manifest
deriving Repr

inductive RegistryError where
  | unknownExperiment (name : String)
  | compile (error : CompileError)
  | request (error : RequestError)
deriving DecidableEq, Repr

namespace RegistryError

def message : RegistryError → String
  | unknownExperiment name => "experiment with name '" ++ name ++ "' unknown"
  | compile e => e.message
  | request e => e.message

/-- Whether an error is a fault found in a manifest or a request, and not one of arithmetic. -/
def isFault : RegistryError → Bool
  | unknownExperiment _ => true
  | compile e => e.isFault
  | request e => e.isFault

end RegistryError

namespace Manifest

def config (m : Manifest) (name : String) : Except RegistryError Configuration :=
  match m.find? name with
  | some c => .ok c
  | none => .error (.unknownExperiment name)

/-- The experiment of a configuration; its type is looked at first. -/
def compileConfig (c : Configuration) : Except RegistryError Experiment :=
  match Arrangement.ofName? c.type with
  | none => .error (.compile (.variants (.unknownType c.type)))
  | some _ => (Experiment.compile c).mapError .compile

def experiment (m : Manifest) (name : String) : Except RegistryError Experiment := do
  compileConfig (← m.config name)

/-- What a request gets from an experiment of a manifest. -/
def variant (m : Manifest) (now : Double) (name : String) (args : Arguments) :
    Except RegistryError String := do
  ((← m.experiment name).variant now args).mapError .request

end Manifest

/-- The experiments that are compiled already, and the number of the snapshot they are from. -/
structure Registry where
  snapshot : Option Nat
  compiled : List (String × Experiment)
deriving Repr

/-- An answer, the registry after it, and what there is to tell. -/
structure Registry.Answer (α : Type) where
  value : Except RegistryError α
  registry : Registry
  notices : List Notice

namespace Registry

def empty : Registry := ⟨none, []⟩

/-- The registry without experiments of other snapshots. -/
def refresh (r : Registry) (s : Snapshot) : Registry :=
  if r.snapshot = some s.number then r else ⟨some s.number, []⟩

/-- The experiment of a name, compiled if it is not yet. -/
def lookup (r : Registry) (s : Snapshot) (name : String) : Answer Experiment :=
  let r := r.refresh s
  match Assoc.find? name r.compiled with
  | some x => ⟨.ok x, r, []⟩
  | none =>
    match s.manifest.experiment name with
    | .ok x => ⟨.ok x, { r with compiled := Assoc.insert name x r.compiled },
        [.compiled name x.summary]⟩
    | .error e => ⟨.error e, r, []⟩

/-- What there is to tell of an assignment. -/
def assignmentNotices (x : Experiment) : Except RequestError Assignment → List Notice
  | .ok (.overridden variant) => [.overrideMatched x.name variant]
  | _ => []

def variant (r : Registry) (s : Snapshot) (now : Double) (name : String) (args : Arguments) :
    Answer String :=
  let found := r.lookup s name
  match found.value with
  | .error e => { found with value := .error e }
  | .ok x =>
    let outcome := x.assign now args
    ⟨(outcome.map (·.variant)).mapError .request, found.registry,
      found.notices ++ assignmentNotices x outcome⟩

/-- Whether an experiment compiles; if it does not, why. -/
def check (r : Registry) (s : Snapshot) (name : String) : Answer Unit :=
  let found := r.lookup s name
  { found with value := found.value.map fun _ => () }

/-- Why experiments do not compile, by name. An error that is no fault ends the search. Each name
comes with the snapshot that is current when it is looked at. -/
def faultsAmong (r : Registry) : List (String × Snapshot) → Answer (List (String × RegistryError))
  | [] => ⟨.ok [], r, []⟩
  | (name, s) :: rest =>
    let found := r.lookup s name
    match found.value with
    | .ok _ =>
      let others := found.registry.faultsAmong rest
      { others with notices := found.notices ++ others.notices }
    | .error e =>
      if e.isFault then
        let others := found.registry.faultsAmong rest
        { others with
          value := others.value.map ((name, e) :: ·)
          notices := found.notices ++ others.notices }
      else ⟨.error e, found.registry, found.notices⟩

/-- Why experiments of a manifest do not compile. `reads n` is the snapshot that is current when it
is asked for the `n`-th time: first for the names, then once for each of them. -/
def faults (r : Registry) (reads : Nat → Snapshot) : Answer (List (String × RegistryError)) :=
  r.faultsAmong ((reads 0).manifest.names.mapIdx fun i name => (name, reads (i + 1)))

end Registry
end SplitTest
