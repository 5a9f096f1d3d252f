import SplitTest.Number.Layout

/-! Notices: what there is to tell while manifests are read and experiments compiled and used. -/
namespace SplitTest

/-- Something worth a line in a log. -/
inductive Notice where
  /-- An entry of a manifest was left out, for so many problems. -/
  | skipped (name : String) (problems : Nat)
  | compiled (name summary : String)
  | overrideMatched (experiment variant : String)
  | waiting (path : String)
  | loaded (path : String)
  | watching (path : String) (interval : Double)
  | reloaded (path : String)
  | reloadFailed (path reason : String)
  | statFailed (path reason : String)
  | creatingRegistry (path : String)
deriving DecidableEq, Repr

inductive Severity where
  | debug
  | info
  | warning
  | error
deriving DecidableEq, Repr

def Severity.name : Severity → String
  | debug => "DEBUG"
  | info => "INFO"
  | warning => "WARNING"
  | error => "ERROR"

def problemCount (n : Nat) : String :=
  if n = 1 then "1 validation error" else natText n ++ " validation errors"

namespace Notice

def severity : Notice → Severity
  | skipped _ _ | statFailed _ _ => .warning
  | compiled _ _ | overrideMatched _ _ | waiting _ => .debug
  | loaded _ | watching _ _ | reloaded _ | creatingRegistry _ => .info
  | reloadFailed _ _ => .error

/-- The part of the program that a notice comes from. -/
def origin : Notice → String
  | skipped _ _ => "flit_experiments.manifest"
  | compiled _ _ => "flit_experiments.registry"
  | overrideMatched _ _ => "flit_experiments.experiment"
  | creatingRegistry _ => "flit_experiments"
  | _ => "flit_experiments.filewatcher"

def message : Notice → String
  | skipped name problems => "Skipping invalid experiment '" ++ name ++ "': " ++
      problemCount problems ++ " for ExperimentConfig"
  | compiled name summary => "Compiled experiment " ++ name ++ ": " ++ summary
  | overrideMatched experiment variant => "Override matched for experiment " ++ experiment ++
      ": " ++ variant
  | waiting path => "Waiting for " ++ path ++ " to become available"
  | loaded path => "Loaded " ++ path
  | watching path interval => "Watching " ++ path ++ " every " ++ interval.text ++ "s"
  | reloaded path => "Reloaded " ++ path
  | reloadFailed path reason => "Failed to reload " ++ path ++
      ", keeping the previous snapshot: " ++ reason
  | statFailed path reason => "Could not stat " ++ path ++
      ", keeping the previous snapshot: " ++ reason
  | creatingRegistry path => "Creating default experiments registry for " ++ path

/-- The line of a notice in a log, which holds the first line of its message. -/
def line (n : Notice) : String :=
  n.severity.name ++ " " ++ n.origin ++ ": " ++
    String.ofList (n.message.toList.takeWhile (· != '\n'))

end Notice
end SplitTest
