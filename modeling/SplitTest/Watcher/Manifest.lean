import SplitTest.Session
import SplitTest.Settings.Basic
import SplitTest.Watcher.Basic

/-! Watched manifests: how they are read from a file and asked for by settings, and sessions that
answer from the latest one. -/
namespace SplitTest

/-- The manifest in the content of a file with a name. -/
def FilePath.manifestReader (path : FilePath) : SnapshotReader Manifest := fun bytes =>
  match ManifestReading.parse (ManifestFormat.ofPath path) (.bytes bytes) with
  | .ok reading => .ok (reading.manifest, reading.notices)
  | .error e => .error (if e.isFault then .manifest e else .other e.message)

/-- The snapshot of a watched manifest, numbered by the reloads before it. -/
def Watcher.snapshot (w : Watcher Manifest) : Snapshot :=
  ⟨w.reloads, w.data⟩

/-- A call answered from the latest snapshot of a watched manifest. -/
def Session.stepOn (s : Session) (w : Watcher Manifest) (c : Call) :
    Reply × Session × List Notice :=
  { s with snapshot := w.snapshot }.step c

/-- The watcher that settings ask for. That a registry is made is told first. -/
def Settings.watch (s : Settings) (scale : TimeScale Double)
    (files : WaitMoment Double → FileTree) (steps : Nat) (begin : WaitMoment Double) :
    Opening Manifest :=
  let path := FilePath.ofText s.manifestPath
  let opening := Watcher.startIn scale path.manifestReader path s.pollInterval s.loadTimeout files
    steps begin
  { opening with notices := .creatingRegistry s.manifestPath :: opening.notices }

end SplitTest
