import SplitTest.Proofs.Registry.Transparency

/-! Exposures over runs of calls: what logs record, what callers are told, and that nothing else
depends on whether an exposure is told. -/
namespace SplitTest

namespace ExposureLog

def exposures : ExposureLog → List Exposure
  | .recording exposures => exposures
  | _ => []

def isRecording : ExposureLog → Bool
  | .recording _ => true
  | _ => false

/-- A log after more exposures; one that keeps none stays as it is. -/
def append (log : ExposureLog) (more : List Exposure) : ExposureLog :=
  match log with
  | .recording exposures => .recording (exposures ++ more)
  | log => log

@[simp] theorem append_nil (log : ExposureLog) : log.append [] = log := by
  cases log <;> simp [append]

theorem append_append (log : ExposureLog) (first second : List Exposure) :
    (log.append first).append second = log.append (first ++ second) := by
  cases log <;> simp [append]

@[simp] theorem isRecording_append (log : ExposureLog) (more : List Exposure) :
    (log.append more).isRecording = log.isRecording := by
  cases log <;> rfl

end ExposureLog

/-- What is told of an event: a blank type becomes `EXPOSE`, the experiment comes from the manifest,
and all else from the caller. -/
def ExposureEvent.told (event : ExposureEvent) (experiment : Configuration) (context : Value) :
    Exposure where
  event :=
    { event with
      eventType := if event.eventType.isBlank then .text "EXPOSE" else event.eventType }
  experiment := experiment
  context := context

theorem ExposureEvent.told_eq (event : ExposureEvent) (experiment : Configuration)
    (context : Value) : event.told experiment context = ⟨event.withType, experiment, context⟩ :=
  rfl

/-- What the caller of an exposure is answered. The name is looked at before the log. -/
inductive ExposureLog.Answers (log : ExposureLog) (m : Manifest) (name : String)
    (event : ExposureEvent) (context : Value) : Except ExposureError Exposure → Prop
  | unknown (h : m.find? name = none) :
      Answers log m name event context (.error (.unknownExperiment name))
  | missing {config : Configuration} (h : m.find? name = some config) (hl : log = .missing) :
      Answers log m name event context (.error .noLog)
  | refused {config : Configuration} {message : String} (h : m.find? name = some config)
      (hl : log = .failing message) : Answers log m name event context (.error (.refused message))
  | told {config : Configuration} (h : m.find? name = some config)
      (hl : log.isRecording = true) :
      Answers log m name event context (.ok (event.told config context))

namespace Call

/-- The log that a call installs, if it does so. -/
def log? : Call → Option ExposureLog
  | .setLog log => some log
  | _ => none

/-- The manifest that is current after a call. -/
def manifestAfter (c : Call) (m : Manifest) : Manifest :=
  (c.snapshot?.map (·.manifest)).getD m

/-- Whether the log that is installed after a call records. -/
def recordingAfter (c : Call) (recording : Bool) : Bool :=
  (c.log?.map (·.isRecording)).getD recording

/-- The exposure that a call has to record: it is asked for, the log records, and the manifest that
is current knows the name. -/
def exposure? (m : Manifest) (recording : Bool) : Call → Option Exposure
  | .expose name event context =>
    if recording then (m.find? name).map fun config => event.told config context else none
  | _ => none

/-- The exposures that calls have to record, from first to last. -/
def exposuresOf (m : Manifest) (recording : Bool) : List Call → List Exposure
  | [] => []
  | c :: rest =>
    (c.exposure? m recording).toList ++
      exposuresOf (c.manifestAfter m) (c.recordingAfter recording) rest

end Call

namespace ExposureLog

variable {log : ExposureLog} {m : Manifest} {name : String} {event : ExposureEvent}
  {context : Value}

theorem expose_answers : log.Answers m name event context (log.expose m name event context).1 := by
  unfold expose
  cases h : m.find? name with
  | none => exact .unknown h
  | some config =>
    cases log with
    | missing => exact .missing h rfl
    | recording exposures => exact .told h rfl
    | failing message => exact .refused h rfl

theorem expose_log : (log.expose m name event context).2 =
    log.append ((Call.expose name event context).exposure? m log.isRecording).toList := by
  unfold expose Call.exposure?
  cases hm : m.find? name with
  | none => simp [hm]
  | some config => cases log <;> simp [isRecording, append, hm, ExposureEvent.told_eq]

/-- Logs that differ at most in what they have recorded. -/
inductive Alike : ExposureLog → ExposureLog → Prop
  | missing : Alike .missing .missing
  | recording (exposures others : List Exposure) : Alike (.recording exposures) (.recording others)
  | failing (message : String) : Alike (.failing message) (.failing message)

theorem Alike.refl (log : ExposureLog) : log.Alike log := by
  cases log with
  | missing => exact .missing
  | recording exposures => exact .recording exposures exposures
  | failing message => exact .failing message

theorem alike_append (log : ExposureLog) (more : List Exposure) : (log.append more).Alike log := by
  cases log with
  | missing => exact .missing
  | recording exposures => exact .recording _ _
  | failing message => exact .failing message

theorem Alike.expose {other : ExposureLog} (h : log.Alike other) (m : Manifest) (name : String)
    (event : ExposureEvent) (context : Value) :
    (log.expose m name event context).1 = (other.expose m name event context).1 ∧
      (log.expose m name event context).2.Alike (other.expose m name event context).2 := by
  unfold ExposureLog.expose
  cases m.find? name with
  | none => exact ⟨rfl, h⟩
  | some config =>
    cases h with
    | missing => exact ⟨rfl, .missing⟩
    | recording => exact ⟨rfl, .recording _ _⟩
    | failing message => exact ⟨rfl, .failing message⟩

end ExposureLog

namespace Session

variable {s t : Session}

/-- What logs record in a run, call by call: the exposures by which a log is longer after a call
than before it. A log that is put in the place of another one is not longer for that. -/
def recorded (s : Session) : List Call → List Exposure
  | [] => []
  | c :: rest =>
    let t := (s.step c).2.1
    (if c.log?.isSome then [] else t.log.exposures.drop s.log.exposures.length) ++ t.recorded rest

theorem run_cons (s : Session) (c : Call) (rest : List Call) :
    s.run (c :: rest) =
      ((s.step c).1 :: ((s.step c).2.1.run rest).1, ((s.step c).2.1.run rest).2) :=
  rfl

theorem noticesOf_cons (s : Session) (c : Call) (rest : List Call) :
    s.noticesOf (c :: rest) = (s.step c).2.2 :: (s.step c).2.1.noticesOf rest :=
  rfl

theorem run_append (s : Session) (before after : List Call) :
    s.run (before ++ after) =
      ((s.run before).1 ++ ((s.run before).2.run after).1, ((s.run before).2.run after).2) := by
  induction before generalizing s with
  | nil => rfl
  | cons c rest ih => simp only [List.cons_append, run_cons, ih]

theorem noticesOf_append (s : Session) (before after : List Call) :
    s.noticesOf (before ++ after) = s.noticesOf before ++ (s.run before).2.noticesOf after := by
  induction before generalizing s with
  | nil => rfl
  | cons c rest ih => simp only [List.cons_append, noticesOf_cons, run_cons, ih]

theorem length_run (s : Session) (calls : List Call) : (s.run calls).1.length = calls.length := by
  induction calls generalizing s with
  | nil => rfl
  | cons c rest ih => simp only [run_cons, List.length_cons, ih]

theorem length_noticesOf (s : Session) (calls : List Call) :
    (s.noticesOf calls).length = calls.length := by
  induction calls generalizing s with
  | nil => rfl
  | cons c rest ih => simp only [noticesOf_cons, List.length_cons, ih]

theorem step_manifest (s : Session) (c : Call) :
    (s.step c).2.1.snapshot.manifest = c.manifestAfter s.snapshot.manifest := by
  cases c <;> rfl

/-- A call that installs no log leaves the installed one with the exposure it has to record. -/
theorem step_log {c : Call} (h : c.log? = none) : (s.step c).2.1.log =
    s.log.append (c.exposure? s.snapshot.manifest s.log.isRecording).toList := by
  cases c with
  | setLog log => cases h
  | expose name event context => exact ExposureLog.expose_log
  | _ => exact (ExposureLog.append_nil _).symm

theorem step_recording (s : Session) (c : Call) :
    (s.step c).2.1.log.isRecording = c.recordingAfter s.log.isRecording := by
  cases h : c.log? with
  | none => rw [step_log h, ExposureLog.isRecording_append, Call.recordingAfter, h]; rfl
  | some log =>
    cases c with
    | setLog => cases h; rfl
    | _ => cases h

/-- What the log gains in a call is what the call has to record. -/
theorem gained_eq {c : Call} (h : c.log? = none) :
    (s.step c).2.1.log.exposures.drop s.log.exposures.length =
      (c.exposure? s.snapshot.manifest s.log.isRecording).toList := by
  rw [step_log h]
  cases hl : s.log with
  | recording exposures => simp [ExposureLog.append, ExposureLog.exposures]
  | _ => cases c <;> rfl

theorem recorded_eq (s : Session) (calls : List Call) :
    s.recorded calls = Call.exposuresOf s.snapshot.manifest s.log.isRecording calls := by
  induction calls generalizing s with
  | nil => rfl
  | cons c rest ih =>
    have hgain : (if c.log?.isSome then []
        else (s.step c).2.1.log.exposures.drop s.log.exposures.length) =
        (c.exposure? s.snapshot.manifest s.log.isRecording).toList := by
      cases h : c.log? with
      | none => exact gained_eq h
      | some log =>
        cases c with
        | setLog => rfl
        | _ => cases h
    unfold recorded Call.exposuresOf
    dsimp only
    rw [hgain, ih, step_manifest, step_recording]

/-- As long as no other log is installed, a log keeps what it has and adds what calls have to
record. -/
theorem run_log {calls : List Call} (h : ∀ c ∈ calls, c.log? = none) : (s.run calls).2.log =
    s.log.append (Call.exposuresOf s.snapshot.manifest s.log.isRecording calls) := by
  induction calls generalizing s with
  | nil => exact (ExposureLog.append_nil _).symm
  | cons c rest ih =>
    rw [List.forall_mem_cons] at h
    rw [run_cons, ih h.2, step_log h.1, ExposureLog.append_append, ExposureLog.isRecording_append,
      step_manifest, Call.exposuresOf, Call.recordingAfter, h.1]
    rfl

/-- Sessions that differ at most in what is recorded. -/
structure Alike (s t : Session) : Prop where
  snapshot : s.snapshot = t.snapshot
  registry : s.registry = t.registry
  now : s.now = t.now
  log : s.log.Alike t.log

theorem Alike.step (h : s.Alike t) (c : Call) :
    (s.step c).1 = (t.step c).1 ∧ (s.step c).2.2 = (t.step c).2.2 ∧
      (s.step c).2.1.Alike (t.step c).2.1 := by
  obtain ⟨snapshot, registry, now, log⟩ := s
  obtain ⟨hs, hr, hn, hl⟩ := h
  dsimp only at hs hr hn hl
  subst hs hr hn
  cases c with
  | setLog log => exact ⟨rfl, rfl, rfl, rfl, rfl, .refl log⟩
  | expose name event context =>
    obtain ⟨hreply, hlog⟩ := hl.expose t.snapshot.manifest name event context
    exact ⟨congrArg Reply.exposed hreply, rfl, rfl, rfl, rfl, hlog⟩
  | _ => exact ⟨rfl, rfl, rfl, rfl, rfl, hl⟩

theorem Alike.run (h : s.Alike t) (calls : List Call) :
    (s.run calls).1 = (t.run calls).1 ∧ s.noticesOf calls = t.noticesOf calls := by
  induction calls generalizing s t with
  | nil => exact ⟨rfl, rfl⟩
  | cons c rest ih =>
    obtain ⟨hreply, hnotices, hnext⟩ := h.step c
    obtain ⟨hreplies, hmore⟩ := ih hnext
    simp only [run_cons, noticesOf_cons]
    exact ⟨by rw [hreply, hreplies], by rw [hnotices, hmore]⟩

theorem step_expose_alike (s : Session) (name : String) (event : ExposureEvent)
    (context : Value) : (s.step (.expose name event context)).2.1.Alike s := by
  refine ⟨rfl, rfl, rfl, ?_⟩
  rw [step_log rfl]
  exact ExposureLog.alike_append _ _

/-- In every run the logs record, in the order of the calls and once each, exactly the exposures
that are asked for while a log records and whose name is in the manifest that is current; a log
keeps them as long as it is installed. The answer to an exposure tells whether the name is unknown,
else whether there is no log, else whether the log refuses. Without the call, all other calls are
answered the same. -/
theorem run_exposures (s : Session) :
    (∀ calls, s.recorded calls = Call.exposuresOf s.snapshot.manifest s.log.isRecording calls) ∧
    (∀ before calls, (∀ c ∈ calls, c.log? = none) →
      (s.run (before ++ calls)).2.log = (s.run before).2.log.append
        (Call.exposuresOf (s.run before).2.snapshot.manifest (s.run before).2.log.isRecording
          calls)) ∧
    (∀ before name event context after, ∃ outcome,
      (s.run (before ++ .expose name event context :: after)).1[before.length]? =
        some (.exposed outcome) ∧
      (s.run before).2.log.Answers (s.run before).2.snapshot.manifest name event context outcome) ∧
    (∀ before name event context after,
      (s.run (before ++ .expose name event context :: after)).1.eraseIdx before.length =
        (s.run (before ++ after)).1 ∧
      (s.noticesOf (before ++ .expose name event context :: after)).eraseIdx before.length =
        s.noticesOf (before ++ after)) := by
  refine ⟨recorded_eq s, fun before calls h => ?_, fun before name event context after => ?_,
    fun before name event context after => ?_⟩
  · rw [run_append]
    exact run_log h
  · refine ⟨_, ?_, ExposureLog.expose_answers⟩
    have hl : (s.run before).1.length ≤ before.length := Nat.le_of_eq (length_run s before)
    rw [run_append, List.getElem?_append_right hl, length_run, run_cons]
    simp [step]
  · obtain ⟨hreplies, hnotices⟩ :=
      (step_expose_alike (s.run before).2 name event context).run after
    have hl := length_run s before
    have hl' := length_noticesOf s before
    rw [run_append, run_append, noticesOf_append, noticesOf_append, run_cons, noticesOf_cons,
      List.eraseIdx_append_of_length_le (Nat.le_of_eq hl),
      List.eraseIdx_append_of_length_le (Nat.le_of_eq hl'), hl, hl']
    simp [hreplies, hnotices]

/-- An exposure that is recorded, and one of the same name after it is gone from the manifest. -/
theorem run_exposures_goneName :
    let s := start [("banner", shownToAll)] (.ofInt 5) (.recording [])
    let shown := Call.expose "banner" { ExposureEvent.blank with userId := .text "u1" } .null
    let calls := [shown, .check "banner", .swap ⟨1, []⟩, shown]
    let event := { ExposureEvent.blank with userId := .text "u1", eventType := .text "EXPOSE" }
    (∀ c ∈ calls, c.log? = none) ∧
      (s.run calls).2.log = .recording [⟨event, shownToAll, .null⟩] ∧
      s.recorded calls = [⟨event, shownToAll, .null⟩] := by
  intro s shown calls event
  have hlog : ∀ c ∈ calls, c.log? = none := by simp [calls, shown, Call.log?]
  have hexposures : Call.exposuresOf s.snapshot.manifest s.log.isRecording calls =
      [⟨event, shownToAll, .null⟩] := rfl
  obtain ⟨hrecorded, hkept, -, -⟩ := run_exposures s
  refine ⟨hlog, ?_, (hrecorded calls).trans hexposures⟩
  calc (s.run calls).2.log
      = s.log.append (Call.exposuresOf s.snapshot.manifest s.log.isRecording calls) :=
        hkept [] calls hlog
    _ = .recording [⟨event, shownToAll, .null⟩] := by rw [hexposures]; rfl

end Session
end SplitTest
