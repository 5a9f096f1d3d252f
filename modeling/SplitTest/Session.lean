import SplitTest.Exposure

/-! Sessions: a registry in use, with the snapshot it answers from, a clock and an exposure log. -/
namespace SplitTest

structure Session where
  snapshot : Snapshot
  registry : Registry
  now : Double
  log : ExposureLog
deriving Repr

/-- What is done with a registry. -/
inductive Call where
  /-- Another snapshot, or one from before, is current from now on. -/
  | swap (snapshot : Snapshot)
  | setClock (now : Double)
  | setLog (log : ExposureLog)
  | names
  | config (name : String)
  | variant (name : String) (args : Arguments)
  | check (name : String)
  | faults
  | expose (name : String) (event : ExposureEvent) (context : Value)

inductive Reply where
  | done
  | names (names : List String)
  | config (outcome : Except RegistryError Configuration)
  | variant (outcome : Except RegistryError String)
  | checked (outcome : Except RegistryError Unit)
  | faults (outcome : Except RegistryError (List (String × RegistryError)))
  | exposed (outcome : Except ExposureError Exposure)

namespace Session

def start (manifest : Manifest) (now : Double) (log : ExposureLog) : Session :=
  ⟨⟨0, manifest⟩, .empty, now, log⟩

/-- A call's reply, the session after it, and what there is to tell. -/
def step (s : Session) : Call → Reply × Session × List Notice
  | .swap snapshot => (.done, { s with snapshot }, [])
  | .setClock now => (.done, { s with now }, [])
  | .setLog log => (.done, { s with log }, [])
  | .names => (.names s.snapshot.manifest.names, s, [])
  | .config name => (.config (s.snapshot.manifest.config name), s, [])
  | .variant name args =>
    let a := s.registry.variant s.snapshot s.now name args
    (.variant a.value, { s with registry := a.registry }, a.notices)
  | .check name =>
    let a := s.registry.check s.snapshot name
    (.checked a.value, { s with registry := a.registry }, a.notices)
  | .faults =>
    let a := s.registry.faults fun _ => s.snapshot
    (.faults a.value, { s with registry := a.registry }, a.notices)
  | .expose name event context =>
    let (outcome, log) := s.log.expose s.snapshot.manifest name event context
    (.exposed outcome, { s with log }, [])

/-- The replies to calls from first to last, and the session after them. -/
def run (s : Session) : List Call → List Reply × Session
  | [] => ([], s)
  | c :: rest =>
    let (reply, s, _) := s.step c
    let (replies, s) := s.run rest
    (reply :: replies, s)

/-- What there is to tell of calls, call by call. -/
def noticesOf (s : Session) : List Call → List (List Notice)
  | [] => []
  | c :: rest =>
    let (_, s, notices) := s.step c
    notices :: s.noticesOf rest

end Session
end SplitTest
