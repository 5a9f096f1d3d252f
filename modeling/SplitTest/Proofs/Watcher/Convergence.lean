import Mathlib.Data.List.Induction
import Mathlib.Tactic.Common
import SplitTest.Proofs.Watcher.Waiting

/-! Live reload: a file is polled while it is written, taken away and put back. A poll that no
change falls into leaves the snapshot of the file as it is, if it has one. -/
namespace SplitTest

theorem WaitPlan.stat_of_found {τ : Type} {scale : TimeScale τ} {plan : WaitPlan τ}
    {stat : WaitMoment τ → Except FileError Fingerprint} {steps : Nat} {m m' : WaitMoment τ}
    {f : Fingerprint} (h : plan.run scale stat steps m = (.found f, m')) : stat m' = .ok f := by
  obtain ⟨hended, -⟩ | ⟨⟨e, he⟩, -⟩ := outcome_of_run scale plan h nofun
  swap
  · cases he
  cases hstat : stat m' with
  | ok g =>
    rw [hstat] at hended
    rw [WaitOutcome.found.inj hended]
  | error e =>
    rw [hstat] at hended
    cases e <;> cases hended

namespace Watcher

variable {α : Type} {reader : SnapshotReader α} {w : Watcher α}

theorem start_spec {scale : TimeScale Double} {path : FilePath} {interval : Double}
    {timeout : Option Double} {stat : WaitMoment Double → Except FileError Fingerprint}
    {content : WaitMoment Double → Except FileError (List UInt8)} {steps : Nat}
    {begin : WaitMoment Double} {opening : Opening α}
    (ho : start scale reader path interval timeout stat content steps begin = opening)
    (hw : opening.watcher = .ok w) :
    w.path = path ∧ stat opening.moment = .ok w.fingerprint ∧
      ∃ notices, reader.read path (content opening.moment) = .ok (w.data, notices) := by
  subst ho
  unfold start at hw ⊢
  dsimp only at hw ⊢
  generalize hrun : WaitPlan.run _ _ _ _ _ = result at hw ⊢
  obtain ⟨outcome, moment⟩ := result
  cases outcome with
  | pending => cases hw
  | timedOut => cases hw
  | failed e => cases hw
  | sleepless e => cases hw
  | found f =>
    have hstat : stat moment = .ok f := WaitPlan.stat_of_found hrun
    cases hread : reader.read path (content moment) with
    | error e => simp [load, hread] at hw
    | ok snapshot =>
      obtain ⟨data, notices⟩ := snapshot
      have hload : (⟨path, f, data, 0, false⟩ : Watcher α) = w := by simpa [load, hread] using hw
      subst hload
      simp [load, hread, hstat]

/-- What one poll makes of a watcher, given what it sees of the file. -/
inductive Polled (reader : SnapshotReader α) (stat : Except FileError Fingerprint)
    (content : Except FileError (List UInt8)) (w : Watcher α) : Watcher α → Prop
  | skipped (h : ∀ f, stat = .ok f → f = w.fingerprint) : Polled reader stat content w w
  | reloaded {f : Fingerprint} {data : α} {notices : List Notice} (hs : stat = .ok f)
      (hr : reader.read w.path content = .ok (data, notices)) :
      Polled reader stat content w { w with fingerprint := f, data, reloads := w.reloads + 1 }
  | kept {f : Fingerprint} {e : SnapshotError} (hs : stat = .ok f)
      (hr : reader.read w.path content = .error e) :
      Polled reader stat content w { w with fingerprint := f }

theorem Polled.path_eq {stat : Except FileError Fingerprint}
    {content : Except FileError (List UInt8)} {w' : Watcher α}
    (h : Polled reader stat content w w') : w'.path = w.path := by
  cases h <;> rfl

theorem poll_polled (reader : SnapshotReader α) (stat : Except FileError Fingerprint)
    (content : Except FileError (List UInt8)) (w : Watcher α) :
    Polled reader stat content w (w.poll reader stat content).1 := by
  unfold poll
  cases stat with
  | error e => exact .skipped (by simp)
  | ok f =>
    dsimp only
    split_ifs with hf
    · exact .skipped (by simp [hf])
    · cases hr : reader.read w.path content with
      | error e => exact .kept rfl hr
      | ok snapshot => exact .reloaded rfl hr

end Watcher

inductive WatchEvent where
  /-- The files become other ones. -/
  | change (files : FileTree)
  /-- A poll. The files become others, one after the other, between its look at the file and its
  opening of it. -/
  | poll (meanwhile : List FileTree)

/-- The watcher of a file, and the files over time. -/
structure Watch (α : Type) where
  watcher : Watcher α
  files : FileTree
  /-- The files as they were, the latest first. -/
  past : List FileTree

/-- What is written at a path has a fingerprint that nothing had there before. Histories have the
latest files first. -/
def FreshWrites (path : FilePath) : List FileTree → Prop
  | next :: last :: earlier =>
    (next.lookup path = last.lookup path ∨ (∀ content, next.read path ≠ .ok content) ∨
      ∀ files ∈ last :: earlier, files.stat path ≠ next.stat path) ∧
    FreshWrites path (last :: earlier)
  | _ => True

theorem FreshWrites.tail {path : FilePath} {next : FileTree} {history : List FileTree}
    (h : FreshWrites path (next :: history)) : FreshWrites path history := by
  cases history with
  | nil => trivial
  | cons last earlier => exact h.2

theorem FreshWrites.of_suffix {path : FilePath} {history earlier : List FileTree}
    (hs : earlier <:+ history) (h : FreshWrites path history) : FreshWrites path earlier := by
  obtain ⟨later, rfl⟩ := hs
  induction later with
  | nil => exact h
  | cons next rest ih => exact ih h.tail

theorem SnapshotReader.exists_content {α : Type} {reader : SnapshotReader α} {path : FilePath}
    {content : Except FileError (List UInt8)} {snapshot : α × List Notice}
    (h : reader.read path content = .ok snapshot) : ∃ bytes, content = .ok bytes := by
  cases content with
  | error e => simp [SnapshotReader.read] at h
  | ok bytes => exact ⟨bytes, rfl⟩

namespace FileTree

variable {t t' : FileTree} {path : FilePath}

theorem stat_congr (h : t.lookup path = t'.lookup path) : t.stat path = t'.stat path := by
  unfold stat
  rw [h]

theorem read_congr (h : t.lookup path = t'.lookup path) : t.read path = t'.read path := by
  unfold read
  rw [h]

theorem exists_stat_of_read {bytes : List UInt8} (h : t.read path = .ok bytes) :
    ∃ f, t.stat path = .ok f := by
  unfold read at h
  unfold stat
  cases hl : t.lookup path with
  | error e => simp [hl] at h
  | ok entry => exact ⟨entry.fingerprint, rfl⟩

end FileTree

namespace Watch

variable {α : Type} {reader : SnapshotReader α} {s : Watch α}

/-- The files at all times up to now, the latest first. -/
def history (s : Watch α) : List FileTree := s.files :: s.past

def become (s : Watch α) (files : FileTree) : Watch α :=
  { s with files, past := s.history }

def step (reader : SnapshotReader α) (s : Watch α) : WatchEvent → Watch α
  | .change files => s.become files
  | .poll meanwhile =>
    let opened := meanwhile.foldl become s
    let path := s.watcher.path
    { opened with
      watcher := (s.watcher.poll reader (s.files.stat path) (opened.files.read path)).1 }

def run (reader : SnapshotReader α) (s : Watch α) (events : List WatchEvent) : Watch α :=
  events.foldl (step reader) s

def current (reader : SnapshotReader α) (s : Watch α) : Except SnapshotError (α × List Notice) :=
  reader.read s.watcher.path (s.files.read s.watcher.path)

@[simp] theorem watcher_foldl_become (meanwhile : List FileTree) (s : Watch α) :
    (meanwhile.foldl become s).watcher = s.watcher := by
  induction meanwhile generalizing s with
  | nil => rfl
  | cons files rest ih => exact ih (s.become files)

theorem history_foldl_become (meanwhile : List FileTree) (s : Watch α) :
    s.history <:+ (meanwhile.foldl become s).history := by
  induction meanwhile generalizing s with
  | nil => exact List.suffix_rfl
  | cons files rest ih => exact (List.suffix_cons files s.history).trans (ih (s.become files))

theorem lookup_foldl_become {path : FilePath} {meanwhile : List FileTree}
    (h : ∀ files ∈ meanwhile, files.lookup path = s.files.lookup path) :
    (meanwhile.foldl become s).files.lookup path = s.files.lookup path := by
  induction meanwhile using List.reverseRecOn with
  | nil => rfl
  | append_singleton rest files _ => simpa [become] using h files (by simp)

theorem history_step (s : Watch α) (e : WatchEvent) : s.history <:+ (s.step reader e).history := by
  cases e with
  | change files => exact List.suffix_cons files s.history
  | poll meanwhile => exact history_foldl_become meanwhile s

/-- The snapshot is of what the file has been, and so is the fingerprint. As long as the file has
that fingerprint, the snapshot is the one of the file, unless the file has none. -/
structure Synced (reader : SnapshotReader α) (s : Watch α) : Prop where
  genuine : ∃ files ∈ s.history, ∃ notices,
    reader.read s.watcher.path (files.read s.watcher.path) = .ok (s.watcher.data, notices)
  looked : ∃ files ∈ s.history, files.stat s.watcher.path = .ok s.watcher.fingerprint
  latest : s.files.stat s.watcher.path = .ok s.watcher.fingerprint →
    ∀ data notices, s.current reader = .ok (data, notices) → s.watcher.data = data

theorem Synced.become (h : s.Synced reader) {files : FileTree}
    (hf : FreshWrites s.watcher.path (s.become files).history) :
    (s.become files).Synced reader := by
  obtain ⟨seen, hseen, hsnapshot⟩ := h.genuine
  obtain ⟨looked, hlooked, hstat⟩ := h.looked
  refine ⟨⟨seen, List.mem_cons_of_mem _ hseen, hsnapshot⟩,
    ⟨looked, List.mem_cons_of_mem _ hlooked, hstat⟩, ?_⟩
  intro hnow data notices hread
  rcases hf.1 with hsame | hgone | hfresh
  · have hold : s.files.stat s.watcher.path = .ok s.watcher.fingerprint :=
      (FileTree.stat_congr hsame).symm.trans hnow
    have hcurrent : s.current reader = (s.become files).current reader :=
      congrArg (reader.read s.watcher.path) (FileTree.read_congr hsame).symm
    exact h.latest hold data notices (hcurrent.trans hread)
  · obtain ⟨bytes, hbytes⟩ := SnapshotReader.exists_content hread
    exact absurd hbytes (hgone bytes)
  · -- A write under the fingerprint of the watcher is not fresh, as that one has been seen.
    exact absurd (hstat.trans hnow.symm) (hfresh looked hlooked)

theorem Synced.foldl_become (h : s.Synced reader) (meanwhile : List FileTree)
    (hf : FreshWrites s.watcher.path (meanwhile.foldl Watch.become s).history) :
    (meanwhile.foldl Watch.become s).Synced reader := by
  induction meanwhile generalizing s with
  | nil => exact h
  | cons files rest ih =>
    have hnext : FreshWrites s.watcher.path (s.become files).history :=
      hf.of_suffix (history_foldl_become rest (s.become files))
    exact ih (h.become hnext) hf

theorem Synced.step (h : s.Synced reader) (e : WatchEvent)
    (hf : FreshWrites s.watcher.path (s.step reader e).history) :
    (s.step reader e).Synced reader := by
  cases e with
  | change files => exact h.become hf
  | poll meanwhile =>
    have hopened := h.foldl_become meanwhile hf
    have hsame := watcher_foldl_become meanwhile s
    have hpast : s.files ∈ (meanwhile.foldl Watch.become s).history :=
      (history_foldl_become meanwhile s).subset List.mem_cons_self
    obtain ⟨seen, hseen, hsnapshot⟩ := hopened.genuine
    rw [hsame] at hsnapshot
    have hpolled := Watcher.poll_polled reader (s.files.stat s.watcher.path)
      ((meanwhile.foldl Watch.become s).files.read s.watcher.path) s.watcher
    unfold Watch.step
    dsimp only
    generalize (s.watcher.poll reader _ _).1 = w at hpolled ⊢
    -- The fingerprint kept is the one of the look, the snapshot is of what was opened after it.
    cases hpolled with
    | skipped _ =>
      rw [← hsame]
      exact hopened
    | reloaded hs hr =>
      refine ⟨⟨_, List.mem_cons_self, _, hr⟩, ⟨s.files, hpast, hs⟩, ?_⟩
      intro _ data notices hread
      exact (Prod.mk.inj (Except.ok.inj (hr.symm.trans hread))).1
    | kept hs hr =>
      refine ⟨⟨seen, hseen, hsnapshot⟩, ⟨s.files, hpast, hs⟩, ?_⟩
      intro _ data notices hread
      exact absurd (hr.symm.trans hread) (by simp)

theorem path_step (s : Watch α) (e : WatchEvent) :
    (s.step reader e).watcher.path = s.watcher.path := by
  cases e with
  | change files => rfl
  | poll meanwhile =>
    have hpolled := Watcher.poll_polled reader (s.files.stat s.watcher.path)
      ((meanwhile.foldl become s).files.read s.watcher.path) s.watcher
    exact hpolled.path_eq

theorem path_run (s : Watch α) (events : List WatchEvent) :
    (s.run reader events).watcher.path = s.watcher.path := by
  induction events generalizing s with
  | nil => rfl
  | cons e rest ih => exact (ih (s.step reader e)).trans (path_step s e)

theorem history_run (s : Watch α) (events : List WatchEvent) :
    s.history <:+ (s.run reader events).history := by
  induction events generalizing s with
  | nil => exact List.suffix_rfl
  | cons e rest ih => exact (history_step s e).trans (ih (s.step reader e))

theorem Synced.run (h : s.Synced reader) (events : List WatchEvent)
    (hf : FreshWrites s.watcher.path (s.run reader events).history) :
    (s.run reader events).Synced reader := by
  induction events generalizing s with
  | nil => exact h
  | cons e rest ih =>
    have hpath : (s.step reader e).watcher.path = s.watcher.path := path_step s e
    have hnext : FreshWrites s.watcher.path (s.step reader e).history :=
      hf.of_suffix (history_run (s.step reader e) rest)
    exact ih (h.step e hnext) (by rwa [hpath])

/-- Where a poll leaves the snapshot: at that of the file, or where it was if the file has none. -/
def FollowsFile (reader : SnapshotReader α) (s : Watch α) (w : Watcher α) : Prop :=
  match s.current reader with
  | .ok (data, _) => w.data = data
  | .error _ => w.data = s.watcher.data ∧ w.reloads = s.watcher.reloads

theorem Synced.poll (h : s.Synced reader) {meanwhile : List FileTree}
    (hm : ∀ files ∈ meanwhile, files.lookup s.watcher.path = s.files.lookup s.watcher.path) :
    s.FollowsFile reader (s.step reader (.poll meanwhile)).watcher := by
  have hread : (meanwhile.foldl Watch.become s).files.read s.watcher.path =
      s.files.read s.watcher.path := FileTree.read_congr (lookup_foldl_become hm)
  have hpolled := Watcher.poll_polled reader (s.files.stat s.watcher.path)
    (s.files.read s.watcher.path) s.watcher
  unfold FollowsFile Watch.step
  dsimp only
  rw [hread]
  generalize (s.watcher.poll reader _ _).1 = w at hpolled ⊢
  cases hpolled with
  | skipped hskip =>
    cases hcurrent : s.current reader with
    | error e => exact ⟨rfl, rfl⟩
    | ok snapshot =>
      obtain ⟨bytes, hbytes⟩ := SnapshotReader.exists_content hcurrent
      obtain ⟨f, hf⟩ := FileTree.exists_stat_of_read hbytes
      have hstat : s.files.stat s.watcher.path = .ok s.watcher.fingerprint := by
        rw [hf, hskip f hf]
      exact h.latest hstat snapshot.1 snapshot.2 hcurrent
  | reloaded hs hr =>
    have hcurrent : s.current reader = _ := hr
    rw [hcurrent]
  | kept hs hr =>
    have hcurrent : s.current reader = _ := hr
    rw [hcurrent]
    exact ⟨rfl, rfl⟩

/-- A watcher is in step with its file when it starts, whatever became of the file between the look
at it and its opening. -/
theorem synced_start {scale : TimeScale Double} {path : FilePath} {interval : Double}
    {timeout : Option Double} {found opened : WaitMoment Double → FileTree} {steps : Nat}
    {begin : WaitMoment Double}
    {opening : Opening α} {w : Watcher α}
    (ho : Watcher.start scale reader path interval timeout (fun m => (found m).stat path)
      (fun m => (opened m).read path) steps begin = opening)
    (hw : opening.watcher = .ok w) {past : List FileTree}
    (hpast : found opening.moment ∈ opened opening.moment :: past) :
    (Watch.mk w (opened opening.moment) past).Synced reader := by
  obtain ⟨hpath, hstat, notices, hread⟩ := Watcher.start_spec ho hw
  subst hpath
  refine ⟨⟨opened opening.moment, List.mem_cons_self, notices, hread⟩, ⟨_, hpast, hstat⟩, ?_⟩
  intro _ data notices' hcurrent
  exact (Prod.mk.inj (Except.ok.inj (hread.symm.trans hcurrent))).1

/-- However a file is written, taken away and put back while it is watched, also between the look at
it and its opening: the snapshot is always one of what the file has been, and a poll during which
the file stays as it is leaves the snapshot of the file, or the one before if the file has none. -/
theorem run_followsFile {scale : TimeScale Double} {path : FilePath} {interval : Double}
    {timeout : Option Double} {found opened : WaitMoment Double → FileTree} {steps : Nat}
    {begin : WaitMoment Double}
    {opening : Opening α} {w : Watcher α}
    (ho : Watcher.start scale reader path interval timeout (fun m => (found m).stat path)
      (fun m => (opened m).read path) steps begin = opening)
    (hw : opening.watcher = .ok w) {past : List FileTree}
    (hpast : found opening.moment ∈ opened opening.moment :: past) (events : List WatchEvent)
    (hf : FreshWrites path ((Watch.mk w (opened opening.moment) past).run reader events).history) :
    let s := (Watch.mk w (opened opening.moment) past).run reader events
    (∃ files ∈ s.history, ∃ notices,
        reader.read path (files.read path) = .ok (s.watcher.data, notices)) ∧
      ∀ meanwhile : List FileTree,
        (∀ files ∈ meanwhile, files.lookup path = s.files.lookup path) →
        s.FollowsFile reader (s.step reader (.poll meanwhile)).watcher := by
  intro s
  obtain ⟨rfl, -⟩ := Watcher.start_spec ho hw
  have hs : s.Synced reader := (synced_start ho hw hpast).run events hf
  have hpath : s.watcher.path = w.path := path_run _ events
  obtain ⟨files, hfiles, notices, hread⟩ := hs.genuine
  rw [hpath] at hread
  refine ⟨⟨files, hfiles, notices, hread⟩, ?_⟩
  intro meanwhile hm
  rw [← hpath] at hm
  exact hs.poll hm

/-- Contents that are not empty, each as its own snapshot. -/
def nonEmptyReader : SnapshotReader (List UInt8) := fun bytes =>
  if bytes = [] then .error (.other "empty") else .ok (bytes, [])

def onePath : FilePath := ⟨"/", ["data"]⟩

def oneFile (content : List UInt8) (modified : Int) : FileTree :=
  ⟨[(onePath.names, .file content modified)], []⟩

/-- A file is emptied, then taken away and put back while a poll is on its way. -/
def emptiedAndPutBack : List WatchEvent :=
  [.change (oneFile [] 2), .poll [.empty, oneFile [7, 7] 3]]

theorem run_followsFile_putBack :
    ∃ w, (Watcher.start .double nonEmptyReader onePath (.ofInt 1) none
        (fun _ => (oneFile [1] 1).stat onePath) (fun _ => (oneFile [1] 1).read onePath) 1
        TimeScale.double.start).watcher = .ok w ∧
      FreshWrites onePath
        ((Watch.mk w (oneFile [1] 1) []).run nonEmptyReader emptiedAndPutBack).history ∧
      (((Watch.mk w (oneFile [1] 1) []).run nonEmptyReader emptiedAndPutBack).step nonEmptyReader
        (.poll [])).watcher.data = [7, 7] := by
  have hw : (Watcher.start .double nonEmptyReader onePath (.ofInt 1) none
      (fun _ => (oneFile [1] 1).stat onePath) (fun _ => (oneFile [1] 1).read onePath) 1
      TimeScale.double.start).watcher = .ok ⟨onePath, ⟨1, 1⟩, [1], 0, false⟩ := rfl
  have hgone : FileTree.empty.read onePath = .error .notFound := by decide +kernel
  have hf : FreshWrites onePath ((Watch.mk ⟨onePath, ⟨1, 1⟩, [1], 0, false⟩ (oneFile [1] 1) []).run
      nonEmptyReader emptiedAndPutBack).history := by
    refine ⟨.inr (.inr ?_), .inr (.inl ?_), .inr (.inr ?_), trivial⟩
    · decide +kernel
    · intro content h
      cases hgone.symm.trans h
    · decide +kernel
  have hpast : oneFile [1] 1 ∈ oneFile [1] 1 :: ([] : List FileTree) := List.mem_cons_self
  have h := run_followsFile rfl hw hpast emptiedAndPutBack hf
  exact ⟨_, hw, hf, h.2 [] (by simp)⟩

end Watch
end SplitTest
