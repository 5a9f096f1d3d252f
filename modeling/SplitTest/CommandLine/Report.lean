import SplitTest.CommandLine.Invocation
import SplitTest.CommandLine.Pairs
import SplitTest.Session
import SplitTest.Settings.Basic

/-! Reports: what the program writes and the exit code it ends with. -/
namespace SplitTest.CommandLine

/-- Exit codes: all is well, something is wrong, a request lacks its key. -/
inductive ExitCode where
  | success
  | failure
  | missingKey
deriving DecidableEq, Repr

def ExitCode.number : ExitCode → Nat
  | success => 0
  | failure => 1
  | missingKey => 2

inductive Abort where
  | settings (problems : List Problem)
  | manifest (error : ManifestError)
  | registry (error : RegistryError)
deriving DecidableEq, Repr

def Abort.message : Abort → String
  | settings problems => problemsText problems
  | manifest e => e.message
  | registry e => e.message

structure Report where
  lines : List String
  outcome : Except Abort ExitCode

namespace Report

def done (lines : List String) (code : ExitCode) : Report := ⟨lines, .ok code⟩

def output (r : Report) : String :=
  String.join (r.lines.map (· ++ "\n"))

def orElse (text other : String) : String :=
  if text = "" then other else text

def configLine (name : String) (c : Configuration) : String :=
  "   • " ++ name ++ " (" ++ orElse c.type "no type" ++ ", owner: " ++
    orElse c.owner "unknown" ++ ")"

def list (m : Manifest) : Report :=
  let names := m.names
  .done (["", "📋 Available Experiments:"] ++
      names.filterMap (fun name => (m.find? name).map (configLine name)) ++
      ["", "Found " ++ natText names.length ++ " experiment(s)"])
    .success

/-- A line for each name, with the number of those that do not compile. An error that is no fault
ends the search. -/
def validateEach (s : Session) : List String → List String × Except Abort Nat
  | [] => ([], .ok 0)
  | name :: rest =>
    let a := s.registry.check s.snapshot name
    let s := { s with registry := a.registry }
    match a.value with
    | .ok () =>
      let (lines, failures) := validateEach s rest
      (("✅ " ++ name) :: lines, failures)
    | .error e =>
      if e.isFault then
        let (lines, failures) := validateEach s rest
        (("❌ " ++ name ++ ": " ++ e.message) :: lines, failures.map (· + 1))
      else ([], .error (.registry e))

/-- Whether experiments compile: those that are named, or all. -/
def validate (s : Session) (names : List String) : Report :=
  let names := if names.isEmpty then s.snapshot.manifest.names else names
  let total := natText names.length
  match validateEach s names with
  | (lines, .error e) => ⟨lines, .error e⟩
  | (lines, .ok 0) => .done (lines ++ ["", "All " ++ total ++ " experiment(s) are valid"]) .success
  | (lines, .ok failures) =>
    .done (lines ++ ["", natText failures ++ " of " ++ total ++ " experiment(s) failed validation"])
      .failure

def variant (s : Session) (name : String) (args : Arguments) : Report :=
  match (s.registry.variant s.snapshot s.now name args).value with
  | .ok "" => .done ["➖ " ++ name ++ ": no variant"] .success
  | .ok v => .done ["🎯 " ++ name ++ ": " ++ v] .success
  | .error e =>
    match e with
    | .request (.missingKey _ _) => .done ["⚠️ " ++ e.message] .missingKey
    | _ => if e.isFault then .done ["❌ " ++ e.message] .failure else ⟨[], .error (.registry e)⟩

def ofCommand (m : Manifest) (now : Double) (command : Command) : Report :=
  let s := Session.start m now .missing
  match command with
  | .list => list m
  | .validate names => validate s names
  | .variant name textPairs jsonPairs =>
    match Arguments.ofPairs textPairs jsonPairs with
    | .error e => .done ["❌ " ++ e.message] .failure
    | .ok args => variant s name args

def ofReading (reading : Except ManifestError ManifestReading) (now : Double)
    (command : Command) : Report :=
  match reading with
  | .error e =>
    if e.isFault then .done ["❌ " ++ e.message] .failure else ⟨[], .error (.manifest e)⟩
  | .ok reading => ofCommand reading.manifest now command

/-- The path of the manifest: the one that is given, or else the one that the settings tell. -/
def manifestPath (given : Option String) (settings : Checked Settings) : Except Abort FilePath :=
  match given.filter (· != "") with
  | some path => .ok (.ofText path)
  | none =>
    match settings with
    | .ok s => .ok (.ofText s.manifestPath)
    | .error problems => .error (.settings problems)

end Report
end SplitTest.CommandLine
