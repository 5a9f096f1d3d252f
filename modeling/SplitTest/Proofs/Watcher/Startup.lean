import SplitTest.Proofs.Watcher.Clock
import SplitTest.Watcher.Manifest

/-! Watchers of manifests as they start: what is wrong with the file or with what it holds is told
as an error of the manifest, at whatever moment it happens. The way to the file has to be passable,
and sleeps have to be such as the clock takes; a way that leads through a file ends the wait with
the error of looking it up, and a sleep that is too long with the error of the clock. -/
namespace SplitTest

/-- Looking a way up is refused, for another reason than that nothing is there. -/
def Refused {α : Type} (found : Except FileError α) : Prop :=
  ∃ e, e ≠ .notFound ∧ found = .error e

@[simp] theorem refused_ok {α : Type} (a : α) : ¬ Refused (.ok a) := by
  simp [Refused]

@[simp] theorem refused_error_iff {α : Type} (e : FileError) :
    Refused (.error e : Except FileError α) ↔ e ≠ .notFound := by
  simp [Refused]

theorem refused_map_iff {α β : Type} (f : α → β) (found : Except FileError α) :
    Refused (found.map f) ↔ Refused found := by
  cases found <;> simp

/-- No way leads on from an entry by a name. -/
def FileEntry.Stops (name : String) : FileEntry → Prop
  | file _ _ => True
  | directory _ => nameLimit < name.utf8ByteSize

/-- A way comes to an entry that it cannot go on from; `reach` tells where its front parts lead. -/
def Blocked (reach : List String → Except FileError FileEntry) (names : List String) : Prop :=
  ∃ before name after entry, names = before ++ name :: after ∧ reach before = .ok entry ∧
    entry.Stops name

theorem not_blocked_nil (reach : List String → Except FileError FileEntry) :
    ¬ Blocked reach [] := by
  simp [Blocked]

theorem blocked_of_stops {reach : List String → Except FileError FileEntry} {name : String}
    {entry : FileEntry} (h : reach [] = .ok entry) (hs : entry.Stops name) (rest : List String) :
    Blocked reach (name :: rest) :=
  ⟨[], name, rest, entry, rfl, h, hs⟩

/-- Behind an entry that a way goes on from, it is blocked as the rest of it is. -/
theorem blocked_cons_iff {reach next : List String → Except FileError FileEntry} {name : String}
    {entry : FileEntry} (h : reach [] = .ok entry) (hs : ¬ entry.Stops name)
    (hnext : ∀ names, reach (name :: names) = next names) (rest : List String) :
    Blocked reach (name :: rest) ↔ Blocked next rest := by
  constructor
  · rintro ⟨before, stop, after, entry', hsplit, hreach, hstops⟩
    cases before with
    | nil =>
      obtain ⟨rfl, -⟩ := List.cons.inj hsplit
      obtain rfl := Except.ok.inj (h.symm.trans hreach)
      exact absurd hstops hs
    | cons first before =>
      obtain ⟨rfl, hrest⟩ := List.cons.inj hsplit
      exact ⟨before, stop, after, entry', hrest, (hnext before).symm.trans hreach, hstops⟩
  · rintro ⟨before, stop, after, entry', rfl, hreach, hstops⟩
    exact ⟨name :: before, stop, after, entry', rfl, (hnext before).trans hreach, hstops⟩

/-- Nothing stops a way that is lost from its start. -/
theorem not_blocked_of_error {reach : List String → Except FileError FileEntry} {e : FileError}
    (h : ∀ names, reach names = .error e) (names : List String) : ¬ Blocked reach names := by
  rintro ⟨before, name, after, entry, -, hreach, -⟩
  cases (h before).symm.trans hreach

namespace FileTree

variable {t : FileTree} {done : List String} {name : String} {entry : FileEntry}

theorem refused_walk_of_stops (h : t.entry? done = some entry) (hs : entry.Stops name)
    (rest : List String) : Refused (t.walk done (name :: rest)) := by
  cases entry with
  | file content modified => simp [walk, h]
  | directory modified =>
    have hlong : nameLimit < name.utf8ByteSize := hs
    simp [walk, h, hlong]

theorem walk_cons_of_not_stops (h : t.entry? done = some entry) (hs : ¬ entry.Stops name)
    (rest : List String) : t.walk done (name :: rest) =
      t.walk (if name = ".." then done.dropLast else done ++ [name]) rest := by
  cases entry with
  | file content modified => exact absurd trivial hs
  | directory modified =>
    have hshort : ¬ nameLimit < name.utf8ByteSize := hs
    simp only [walk, h, hshort, if_false]

theorem refused_walk_iff (t : FileTree) (done names : List String) :
    Refused (t.walk done names) ↔ Blocked (t.walk done) names := by
  induction names generalizing done with
  | nil => cases h : t.entry? done <;> simp [walk, h, not_blocked_nil]
  | cons name rest ih =>
    cases h : t.entry? done with
    | none =>
      have hlost : ∀ names, t.walk done names = .error .notFound := by
        intro names
        cases names <;> simp [walk, h]
      simp [hlost, not_blocked_of_error hlost]
    | some entry =>
      have hhead : t.walk done [] = .ok entry := by simp [walk, h]
      by_cases hs : entry.Stops name
      · simp [refused_walk_of_stops h hs, blocked_of_stops hhead hs]
      · have hnext := walk_cons_of_not_stops h hs
        rw [blocked_cons_iff hhead hs hnext, hnext]
        exact ih _

/-- No file can be at a path: it has a zero character or is too long, or the way to it is blocked.
-/
def Bars (t : FileTree) (path : FilePath) : Prop :=
  '\x00' ∈ path.text.toList ∨ pathLimit < path.text.utf8ByteSize ∨
    Blocked (t.walk (t.origin path)) path.names

theorem refused_stat_iff (t : FileTree) (path : FilePath) :
    Refused (t.stat path) ↔ t.Bars path := by
  rw [stat, refused_map_iff, lookup, Bars]
  by_cases hzero : '\x00' ∈ path.text.toList
  · simp [hzero]
  · by_cases hlong : pathLimit < path.text.utf8ByteSize
    · simp [hzero, hlong]
    · simp only [List.contains_eq_mem, decide_eq_true_eq, hzero, hlong, if_false, false_or]
      exact t.refused_walk_iff (t.origin path) path.names

example : (⟨[(["lib"], .directory 0), (["lib", "kept"], .file [] 1)], ["lib"]⟩ : FileTree).stat
    ⟨"/", ["lib", "..", "lib", "kept", "new"]⟩ = .error .notDirectory := by decide +kernel

end FileTree

/-- The error is one of manifests: nothing has come before the deadline, or what has come is none.
-/
def OpeningError.isFault : OpeningError → Bool
  | timedOut _ => true
  | snapshot _ _ => true
  | stat _ _ => false
  | sleep _ => false
  | pending => false

namespace Watcher

/-- A watcher of a manifest starts with what the file holds, or is refused with an error of
manifests. -/
inductive StartsOn (path : FilePath) (files : FileTree) :
    Except OpeningError (Watcher Manifest) → Prop
  | manifest {bytes : List UInt8} {reading : ManifestReading} {w : Watcher Manifest}
      (hread : files.read path = .ok bytes)
      (hparse : ManifestReading.parse (.ofPath path) (.bytes bytes) = .ok reading)
      (hdata : w.data = reading.manifest) : StartsOn path files (.ok w)
  | refused {e : OpeningError} (h : e.isFault = true) : StartsOn path files (.error e)

theorem startsOn_load (path : FilePath) (fingerprint : Fingerprint) (files : FileTree) :
    StartsOn path files
      ((load path.manifestReader path fingerprint (files.read path)).map (·.1)) := by
  cases hread : files.read path with
  | error e => exact .refused rfl
  | ok bytes =>
    unfold load SnapshotReader.read FilePath.manifestReader
    dsimp only
    generalize hparse : ManifestReading.parse (.ofPath path) (.bytes bytes) = result
    cases result with
    | error e => exact .refused rfl
    | ok reading => exact .manifest hread hparse rfl

/-- Of the looks that end a wait, only one at a barred path is told as it is. -/
theorem startsOn_ofOutcome_iff (path : FilePath) (found opened : FileTree) :
    StartsOn path opened ((ofOutcome path.manifestReader path (opened.read path)
      (WaitPlan.outcomeOf (found.stat path))).map (·.1)) ↔ ¬ found.Bars path := by
  rw [← FileTree.refused_stat_iff]
  cases hstat : found.stat path with
  | ok fingerprint => exact iff_of_true (startsOn_load path fingerprint opened) (refused_ok _)
  | error e =>
    rw [refused_error_iff, not_not]
    constructor
    · intro h
      by_contra hother
      have hfailed : WaitPlan.outcomeOf (.error e) = .failed e := by
        cases e <;> first | exact absurd rfl hother | rfl
      rw [hfailed] at h
      cases h with
      | refused hfault => cases hfault
    · rintro rfl
      exact .refused rfl

theorem ofOutcome_outcomeOf_ne_pending {α : Type} (reader : SnapshotReader α) (path : FilePath)
    (content : Except FileError (List UInt8)) (look : Except FileError Fingerprint) :
    ofOutcome reader path content (WaitPlan.outcomeOf look) ≠ .error .pending := by
  cases look with
  | ok fingerprint =>
    simp only [WaitPlan.outcomeOf, ofOutcome, load]
    cases reader.read path content <;> simp
  | error e => cases e <;> simp [WaitPlan.outcomeOf, ofOutcome]

/-- What a first load comes to that is done waiting, on any clock. -/
theorem firstLoad_startsOn_iff {τ : Type} {scale : TimeScale τ} {path : FilePath} {interval : τ}
    {timeout : Option τ} {found opened : WaitMoment τ → FileTree} {steps : ℕ}
    {begin last : WaitMoment τ} {result : Except OpeningError (Watcher Manifest × List Notice)}
    (h : firstLoad scale path.manifestReader path interval timeout (fun m => (found m).stat path)
      (fun m => (opened m).read path) steps begin = (result, last))
    (hover : result ≠ .error .pending) :
    StartsOn path (opened last) (result.map (·.1)) ↔ ¬ (found last).Bars path ∧
      ¬ WaitPlan.Stalls scale ⟨interval, timeout.map (scale.add begin.now)⟩
        (fun m => (found m).stat path) last := by
  rcases hrun : WaitPlan.run scale ⟨interval, timeout.map (scale.add begin.now)⟩
    (fun m => (found m).stat path) steps begin with ⟨outcome, moment⟩
  rw [firstLoad_of_run path.manifestReader path timeout _ hrun] at h
  obtain ⟨rfl, rfl⟩ := Prod.mk.inj h
  have hended : outcome ≠ .pending := by
    rintro rfl
    exact hover rfl
  obtain ⟨rfl, hstalls⟩ | ⟨⟨e, rfl⟩, hstalls⟩ := WaitPlan.outcome_of_run scale _ hrun hended
  · rw [and_iff_left hstalls]
    exact startsOn_ofOutcome_iff path (found moment) (opened moment)
  · refine iff_of_false ?_ fun hboth => hboth.2 hstalls
    intro hstarts
    cases hstarts with
    | refused hfault => cases hfault

theorem startsOn_start_iff (scale : TimeScale Double) (path : FilePath) (interval : Double)
    (timeout : Option Double) (found opened : WaitMoment Double → FileTree) (steps : ℕ)
    (begin : WaitMoment Double) :
    let opening := start scale path.manifestReader path interval timeout
      (fun m => (found m).stat path) (fun m => (opened m).read path) steps begin
    opening.watcher ≠ .error .pending →
      (StartsOn path (opened opening.moment) opening.watcher ↔
        ¬ (found opening.moment).Bars path ∧
          ¬ WaitPlan.Stalls scale ⟨interval, timeout.map (scale.add begin.now)⟩
            (fun m => (found m).stat path) opening.moment) := by
  intro opening hover
  obtain ⟨hwatcher, hmoment⟩ : opening.watcher = _ ∧ opening.moment = _ :=
    start_eq_firstLoad scale path.manifestReader path interval timeout
      (fun m => (found m).stat path) (fun m => (opened m).read path) steps begin
  rcases hload : firstLoad scale path.manifestReader path interval timeout
    (fun m => (found m).stat path) (fun m => (opened m).read path) steps begin with ⟨result, last⟩
  rw [hload] at hwatcher hmoment
  have hended : result ≠ .error .pending := by
    rintro rfl
    exact hover hwatcher
  rw [hwatcher, hmoment]
  exact firstLoad_startsOn_iff hload hended

/-- However files come and go, also between the look at a path and its opening: a watcher of
manifests that is done waiting has started with what the file holds, or is refused with an error of
manifests, exactly if the path is not barred at the last look and the clock takes the sleep after
it, if there is one. The clock of the system takes all sleeps if the interval is positive and not
too long. In exact time and with a timeout the watcher does get done. -/
theorem start_startsOn_iff (path : FilePath) :
    (∀ (scale : TimeScale Double) (interval : Double) (timeout : Option Double)
      (found opened : WaitMoment Double → FileTree) (steps : ℕ) (begin : WaitMoment Double),
      let opening := start scale path.manifestReader path interval timeout
        (fun m => (found m).stat path) (fun m => (opened m).read path) steps begin
      opening.watcher ≠ .error .pending →
        (StartsOn path (opened opening.moment) opening.watcher ↔
          ¬ (found opening.moment).Bars path ∧
            ¬ WaitPlan.Stalls scale ⟨interval, timeout.map (scale.add begin.now)⟩
              (fun m => (found m).stat path) opening.moment)) ∧
    (∀ (interval : Double) (seconds : ℚ) (timeout : Option Double)
      (found opened : WaitMoment Double → FileTree) (steps : ℕ) (begin : WaitMoment Double),
      interval.toRat? = some seconds → 0 < seconds → seconds ≤ 2 ^ 33 →
      let opening := start .double path.manifestReader path interval timeout
        (fun m => (found m).stat path) (fun m => (opened m).read path) steps begin
      opening.watcher ≠ .error .pending →
        (StartsOn path (opened opening.moment) opening.watcher ↔
          ¬ (found opening.moment).Bars path)) ∧
    ∀ (interval timeout : ℚ) (found opened : WaitMoment ℚ → FileTree) (steps : ℕ)
      (begin : WaitMoment ℚ), 0 < interval → 0 ≤ timeout → ⌈timeout / interval⌉₊ < steps →
      ∃ result last, firstLoad .exact path.manifestReader path interval (some timeout)
          (fun m => (found m).stat path) (fun m => (opened m).read path) steps begin =
            (result, last) ∧
        result ≠ .error .pending ∧
        (StartsOn path (opened last) (result.map (·.1)) ↔ ¬ (found last).Bars path) := by
  refine ⟨fun scale => startsOn_start_iff scale path, ?_, ?_⟩
  · intro interval seconds timeout found opened steps begin hseconds hpos hle opening hover
    have hstarts := startsOn_start_iff .double path interval timeout found opened steps begin hover
    rwa [and_iff_left (WaitPlan.not_stalls_double hseconds hpos hle _ _)] at hstarts
  · intro interval timeout found opened steps begin hp ht hsteps
    have hremaining : begin.now + timeout - begin.now = timeout := by ring
    obtain ⟨last, hrun, -⟩ := WaitPlan.exists_ends hp (fun m => (found m).stat path)
      (le_add_of_nonneg_right ht) (hremaining.symm ▸ hsteps)
    have hload := firstLoad_of_run path.manifestReader path (some timeout)
      (fun m => (opened m).read path) hrun
    have hended := ofOutcome_outcomeOf_ne_pending path.manifestReader path
      ((opened last).read path) ((found last).stat path)
    have hstarts := firstLoad_startsOn_iff hload hended
    rw [and_iff_left (WaitPlan.not_stalls_exact _)] at hstarts
    exact ⟨_, last, hload, hended, hstarts⟩

def offersPath : FilePath := ⟨"", ["offers.json"]⟩

/-- A directory to work in. -/
def emptyShop : FileTree := ⟨[(["shop"], .directory 0)], ["shop"]⟩

/-- A manifest without experiments. -/
def offersFile : FileTree := emptyShop.put offersPath (.file [0x7b, 0x7d] 1)

/-- Files that are put in their place during the first sleep. -/
def offersLater {τ : Type} (m : WaitMoment τ) : FileTree :=
  if m.slept = [] then emptyShop else offersFile

theorem not_bars_offersLater {τ : Type} (m : WaitMoment τ) :
    ¬ (offersLater m).Bars offersPath := by
  have hempty : emptyShop.stat offersPath = .error .notFound := by decide +kernel
  have hoffers : offersFile.stat offersPath = .ok ⟨1, 2⟩ := by decide +kernel
  rw [← FileTree.refused_stat_iff, offersLater]
  split_ifs
  · simp [hempty]
  · simp [hoffers]

/-- A manifest that comes late, and one that is gone again when it is opened. -/
theorem start_startsOn_iff_offersLater :
    (∃ opening, start .double offersPath.manifestReader offersPath (.ofInt 1) (some (.ofInt 1))
        (fun m => (offersLater m).stat offersPath) (fun m => (offersLater m).read offersPath) 2
        TimeScale.double.start = opening ∧
      Except.Yields (fun w => w.data = []) opening.watcher ∧ opening.watcher ≠ .error .pending ∧
      StartsOn offersPath (offersLater opening.moment) opening.watcher) ∧
    (0 : ℚ) < 2 ∧ (0 : ℚ) ≤ 5 ∧ ⌈(5 / 2 : ℚ)⌉₊ < 4 ∧
    ∃ result last, firstLoad .exact offersPath.manifestReader offersPath 2 (some 5)
        (fun m => (offersLater m).stat offersPath) (fun _ => emptyShop.read offersPath) 4
        TimeScale.exact.start = (result, last) ∧
      StartsOn offersPath emptyShop (result.map (·.1)) := by
  have hp : (0 : ℚ) < 2 := by norm_num
  have ht : (0 : ℚ) ≤ 5 := by norm_num
  have hceil : ⌈(5 / 2 : ℚ)⌉₊ < 4 := by
    rw [← Nat.le_sub_one_iff_lt (by norm_num), Nat.ceil_le]
    norm_num
  have hone : (Floating.ofInt 1 : Double).toRat? = some 1 := by
    simpa using Double.toRat?_ofInt (k := 1) (by norm_num)
  refine ⟨⟨_, rfl, ?_⟩, hp, ht, hceil, ?_⟩
  · have hfound : Except.Yields (fun w => w.data = []) (start .double offersPath.manifestReader
        offersPath (.ofInt 1) (some (.ofInt 1)) (fun m => (offersLater m).stat offersPath)
        (fun m => (offersLater m).read offersPath) 2 TimeScale.double.start).watcher := by
      decide +kernel
    have hover : (start .double offersPath.manifestReader offersPath (.ofInt 1) (some (.ofInt 1))
        (fun m => (offersLater m).stat offersPath) (fun m => (offersLater m).read offersPath) 2
        TimeScale.double.start).watcher ≠ .error .pending := by
      intro h
      rw [h] at hfound
      cases hfound
    exact ⟨hfound, hover,
      ((start_startsOn_iff offersPath).2.1 _ 1 _ offersLater offersLater _ _ hone (by norm_num)
        (by norm_num) hover).mpr (not_bars_offersLater _)⟩
  · obtain ⟨result, last, hload, -, hiff⟩ := (start_startsOn_iff offersPath).2.2 2 5 offersLater
      (fun _ => emptyShop) 4 TimeScale.exact.start hp ht hceil
    exact ⟨result, last, hload, hiff.mpr (not_bars_offersLater last)⟩

/-- A way to a manifest through a file. -/
def insideFile : FilePath := ⟨"", ["offers.json", "new"]⟩

/-- The error of a file in the place of a directory is no error of manifests. -/
theorem not_startsOn_insideFile : ∃ opening,
    start .double insideFile.manifestReader insideFile (.ofInt 1) (some (.ofInt 0))
        (fun _ => offersFile.stat insideFile) (fun _ => offersFile.read insideFile) 1
        TimeScale.double.start = opening ∧
      opening.watcher = .error (.stat insideFile .notDirectory) ∧
      ¬ StartsOn insideFile offersFile opening.watcher := by
  refine ⟨_, rfl, rfl, ?_⟩
  intro h
  cases h with
  | refused hfault => cases hfault

end Watcher
end SplitTest
