import SplitTest.Manifest
import SplitTest.Watcher.Wait

/-! Watchers: the latest snapshot of a file, read again when the file has changed. -/
namespace SplitTest

inductive SnapshotError where
  /-- The file is no manifest. -/
  | manifest (error : ManifestError)
  | other (reason : String)
deriving DecidableEq, Repr

def SnapshotError.message : SnapshotError → String
  | manifest e => e.message
  | other reason => reason

/-- The snapshot in the content of a file, and what there is to tell of it. -/
abbrev SnapshotReader (α : Type) := List UInt8 → Except SnapshotError (α × List Notice)

/-- The snapshot that opening a file gives. -/
def SnapshotReader.read {α : Type} (reader : SnapshotReader α) (path : FilePath)
    (content : Except FileError (List UInt8)) : Except SnapshotError (α × List Notice) :=
  match content with
  | .error e => .error (.other (e.message path))
  | .ok bytes => reader bytes

structure Watcher (α : Type) where
  path : FilePath
  /-- What the file was when it was last read, with or without success. -/
  fingerprint : Fingerprint
  data : α
  /-- How many snapshots there were before this one. -/
  reloads : Nat
  stopped : Bool
deriving Repr

inductive OpeningError where
  | timedOut (path : FilePath)
  | stat (path : FilePath) (error : FileError)
  | snapshot (path : FilePath) (error : SnapshotError)
  | sleep (error : SleepError)
  /-- Still waiting after as many steps as were allowed. -/
  | pending
deriving DecidableEq, Repr

def OpeningError.message : OpeningError → String
  | timedOut path => "timed out waiting for " ++ path.text ++ " to become available"
  | stat path e => e.message path
  | snapshot _ (.manifest e) => e.message
  | snapshot path (.other reason) => "Could not parse " ++ path.text ++ ": " ++ reason
  | sleep e => e.message
  | pending => ""

/-- How a watcher starts: with the moment it does, and what there is to tell. -/
structure Opening (α : Type) where
  watcher : Except OpeningError (Watcher α)
  moment : WaitMoment Double
  notices : List Notice

namespace Watcher

variable {α : Type}

/-- The first snapshot, of a file that has been found. -/
def load (reader : SnapshotReader α) (path : FilePath) (fingerprint : Fingerprint)
    (content : Except FileError (List UInt8)) :
    Except OpeningError (Watcher α × List Notice) :=
  match reader.read path content with
  | .ok (data, notices) => .ok (⟨path, fingerprint, data, 0, false⟩, notices)
  | .error e => .error (.snapshot path e)

/-- Waits for a file from a moment on and reads it. Moments tell what looking at the file gives,
and the one that the wait ends in what opening it gives. -/
def start (scale : TimeScale Double) (reader : SnapshotReader α) (path : FilePath)
    (interval : Double) (timeout : Option Double)
    (stat : WaitMoment Double → Except FileError Fingerprint)
    (content : WaitMoment Double → Except FileError (List UInt8)) (steps : Nat)
    (begin : WaitMoment Double) : Opening α :=
  let plan : WaitPlan Double := ⟨interval, timeout.map (scale.add begin.now)⟩
  let (outcome, moment) := plan.run scale stat steps begin
  let waiting := List.replicate (moment.slept.length - begin.slept.length)
    (Notice.waiting path.text)
  match outcome with
  | .pending => ⟨.error .pending, moment, waiting⟩
  | .timedOut => ⟨.error (.timedOut path), moment, waiting⟩
  | .failed e => ⟨.error (.stat path e), moment, waiting⟩
  | .sleepless e => ⟨.error (.sleep e), moment, waiting ++ [.waiting path.text]⟩
  | .found fingerprint =>
    match load reader path fingerprint (content moment) with
    | .error e => ⟨.error e, moment, waiting⟩
    | .ok (watcher, notices) =>
      ⟨.ok watcher, moment, waiting ++ notices ++
        [.loaded path.text, .watching path.text interval]⟩

/-- Waits for a file in a tree that is another one at each moment. -/
def startIn (scale : TimeScale Double) (reader : SnapshotReader α) (path : FilePath)
    (interval : Double) (timeout : Option Double) (files : WaitMoment Double → FileTree)
    (steps : Nat) (begin : WaitMoment Double) : Opening α :=
  start scale reader path interval timeout (fun m => (files m).stat path)
    (fun m => (files m).read path) steps begin

/-- Looks at the file once and reads it if it is not what it was when last read. -/
def poll (reader : SnapshotReader α) (stat : Except FileError Fingerprint)
    (content : Except FileError (List UInt8)) (w : Watcher α) : Watcher α × List Notice :=
  match stat with
  | .error e => (w, [.statFailed w.path.text (e.message w.path)])
  | .ok fingerprint =>
    if fingerprint = w.fingerprint then (w, [])
    else match reader.read w.path content with
      | .ok (data, notices) =>
        ({ w with fingerprint, data, reloads := w.reloads + 1 },
          notices ++ [.reloaded w.path.text])
      | .error e => ({ w with fingerprint }, [.reloadFailed w.path.text e.message])

/-- Polls so many times while the file stays as it is; a stopped watcher takes none. Gives how many
were not taken. -/
def pollTimes (reader : SnapshotReader α) (stat : Except FileError Fingerprint)
    (content : Except FileError (List UInt8)) : Nat → Watcher α → Nat × Watcher α × List Notice
  | 0, w => (0, w, [])
  | n + 1, w =>
    if w.stopped then (n + 1, w, [])
    else
      let (w, notices) := w.poll reader stat content
      let (left, w, more) := pollTimes reader stat content n w
      (left, w, notices ++ more)

/-- Polls so many times a tree of files that stays as it is. -/
def pollIn (reader : SnapshotReader α) (files : FileTree) (n : Nat) (w : Watcher α) :
    Nat × Watcher α × List Notice :=
  w.pollTimes reader (files.stat w.path) (files.read w.path) n

def stop (w : Watcher α) : Watcher α :=
  { w with stopped := true }

def threadName (w : Watcher α) : String :=
  "filewatcher-" ++ w.path.fileName

end Watcher

end SplitTest
