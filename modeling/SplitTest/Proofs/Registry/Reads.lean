import SplitTest.Proofs.Registry.Isolation

/-! Calls over a source that changes while they are answered. All calls but one ask for a snapshot
once; the check of all names asks again for each name, and its answer may belong to no snapshot. -/
namespace SplitTest

namespace Session

/-- A call over a source that may give another snapshot each time it is asked: `reads n` is what it
gives when it is asked for the `n`-th time. -/
def stepReading (s : Session) (reads : Nat → Snapshot) : Call → Reply × Session × List Notice
  | .faults =>
    let a := s.registry.faults reads
    (.faults a.value, { s with registry := a.registry }, a.notices)
  | c => { s with snapshot := reads 0 }.step c

/-- The session after calls, each with what the source gives while it is answered. -/
def afterReading (s : Session) : List (Call × (Nat → Snapshot)) → Session
  | [] => s
  | (c, reads) :: rest => (s.stepReading reads c).2.1.afterReading rest

/-- What a call is answered on one manifest, with the clock and the log of a session. -/
def replyOn (s : Session) (m : Manifest) (c : Call) : Reply :=
  (UncachedSession.step ⟨m, s.now, s.log⟩ c).1

end Session

/-- Every snapshot that a source gives is the one of its number. -/
def ReadsFrom (contents : Nat → Manifest) (reads : Nat → Snapshot) : Prop :=
  ∀ n, (reads n).manifest = contents (reads n).number

namespace Manifest

/-- The names of a manifest, each with the manifest that is current when it is looked at. -/
def namesRead (reads : Nat → Manifest) : List (String × Manifest) :=
  (reads 0).names.mapIdx fun i name => (name, reads (i + 1))

theorem faultsAmong_congr {entries others : List (String × Manifest)}
    (h : List.Forall₂ (fun e o => e.1 = o.1 ∧ e.2.check e.1 = o.2.check o.1) entries others) :
    faultsAmong entries = faultsAmong others := by
  induction h with
  | nil => rfl
  | @cons e o rest more hhead _ ih =>
    obtain ⟨name, m⟩ := e
    obtain ⟨other, k⟩ := o
    obtain ⟨rfl, hcheck⟩ := hhead
    unfold faultsAmong
    unfold check at hcheck
    dsimp only at hcheck ⊢
    rw [ih]
    cases hm : m.experiment name with
    | ok x =>
      rw [hm] at hcheck
      obtain ⟨y, hy, -⟩ := Except.map_eq_ok_iff.mp hcheck.symm
      rw [hy]
    | error e =>
      rw [hm] at hcheck
      rw [Except.map_eq_error_iff.mp hcheck.symm]

end Manifest

namespace Registry

variable {contents : Nat → Manifest} {r : Registry} {reads : Nat → Snapshot}

/-- The check of all names tells of each name what compiling afresh gives on the snapshot that is
read for it, and the registry stays coherent. -/
theorem faults_reads (h : r.Coherent contents) (hs : ReadsFrom contents reads) :
    (r.faults reads).value =
        Manifest.faultsAmong (Manifest.namesRead fun n => (reads n).manifest) ∧
      (r.faults reads).registry.Coherent contents := by
  have hall : ∀ entry ∈ (reads 0).manifest.names.mapIdx fun i name => (name, reads (i + 1)),
      entry.2.manifest = contents entry.2.number := by
    intro entry hentry
    obtain ⟨i, hi, rfl⟩ := List.mem_mapIdx.mp hentry
    exact hs (i + 1)
  have hmap : ((reads 0).manifest.names.mapIdx fun i name => (name, reads (i + 1))).map
      (fun entry => (entry.1, entry.2.manifest)) =
        Manifest.namesRead fun n => (reads n).manifest := by
    refine List.ext_getElem? fun i => ?_
    simp [Manifest.namesRead, Function.comp_def]
  rw [← hmap]
  exact faultsAmong_spec h hall

end Registry

namespace Session

variable {contents : Nat → Manifest} {s : Session} {reads : Nat → Snapshot}

/-- A call that asks once is answered as on what it is given, and the registry stays coherent. -/
theorem stepReading_once (h : s.registry.Coherent contents) (hs : ReadsFrom contents reads)
    {c : Call} (hc : c ≠ .faults) :
    (s.stepReading reads c).1 = s.replyOn (reads 0).manifest c ∧
      (s.stepReading reads c).2.1.registry.Coherent contents := by
  have hco : Coherent contents { s with snapshot := reads 0 } := ⟨hs 0, h⟩
  have hstep : s.stepReading reads c = { s with snapshot := reads 0 }.step c := by
    cases c with
    | faults => exact absurd rfl hc
    | _ => rfl
  rw [hstep]
  cases hnone : c.snapshot? with
  | none =>
    obtain ⟨hreply, -, hafter⟩ := step_spec hco c (by simp [hnone])
    exact ⟨hreply, hafter.registry⟩
  | some t =>
    cases c with
    | swap => exact ⟨rfl, h⟩
    | _ => cases hnone

theorem stepReading_faults (h : s.registry.Coherent contents) (hs : ReadsFrom contents reads) :
    (s.stepReading reads .faults).1 =
        .faults (Manifest.faultsAmong (Manifest.namesRead fun n => (reads n).manifest)) ∧
      (s.stepReading reads .faults).2.1.registry.Coherent contents := by
  obtain ⟨hvalue, hafter⟩ := Registry.faults_reads h hs
  exact ⟨congrArg Reply.faults hvalue, hafter⟩

theorem stepReading_coherent (h : s.registry.Coherent contents) (hs : ReadsFrom contents reads)
    (c : Call) : (s.stepReading reads c).2.1.registry.Coherent contents := by
  by_cases hc : c = .faults
  · subst hc
    exact (stepReading_faults h hs).2
  · exact (stepReading_once h hs hc).2

theorem afterReading_coherent {calls : List (Call × (Nat → Snapshot))}
    (h : s.registry.Coherent contents) (hcalls : ∀ call ∈ calls, ReadsFrom contents call.2) :
    (s.afterReading calls).registry.Coherent contents := by
  induction calls generalizing s with
  | nil => exact h
  | cons call rest ih =>
    rw [List.forall_mem_cons] at hcalls
    exact ih (stepReading_coherent h hcalls.1 call.1) hcalls.2

/-- Each name has the same check on the first manifest and on the one that is read for it. -/
def Steady (reads : Nat → Manifest) : Prop :=
  ∀ i name, (reads 0).names[i]? = some name → (reads (i + 1)).check name = (reads 0).check name

theorem faultsAmong_of_steady {reads : Nat → Manifest} (h : Steady reads) :
    Manifest.faultsAmong (Manifest.namesRead reads) = (reads 0).faults := by
  refine Manifest.faultsAmong_congr (List.forall₂_iff_get.mpr ⟨by simp [Manifest.namesRead], ?_⟩)
  intro i hi _
  have hlt : i < (reads 0).names.length := by simpa [Manifest.namesRead] using hi
  have hname : (reads 0).names[i]? = some (reads 0).names[i] := List.getElem?_eq_getElem hlt
  simpa [Manifest.namesRead] using h i _ hname

/-- Whatever the source gave in earlier calls and gives in this one, the answer is the one on the
snapshot that is read first, unless the call is the check of all names. That one tells of each name
of the first snapshot what a snapshot read later gives; it is the answer on the first one if these
agree. -/
theorem stepReading_eq_replyOn (manifest : Manifest) (now : Double) (log : ExposureLog)
    {earlier : List (Call × (Nat → Snapshot))}
    (hearlier : ∀ call ∈ earlier, ReadsFrom contents call.2) (hs : ReadsFrom contents reads) :
    let s := (start manifest now log).afterReading earlier
    (∀ c, c ≠ .faults → (s.stepReading reads c).1 = s.replyOn (reads 0).manifest c) ∧
      (s.stepReading reads .faults).1 =
        .faults (Manifest.faultsAmong (Manifest.namesRead fun n => (reads n).manifest)) ∧
      (Steady (fun n => (reads n).manifest) →
        (s.stepReading reads .faults).1 = s.replyOn (reads 0).manifest .faults) := by
  intro s
  have h : s.registry.Coherent contents := afterReading_coherent Registry.empty_coherent hearlier
  obtain ⟨hfaults, -⟩ := stepReading_faults h hs
  refine ⟨fun c hc => (stepReading_once h hs hc).1, hfaults, fun hsteady => ?_⟩
  rw [hfaults, faultsAmong_of_steady hsteady]
  rfl

/-- A snapshot with one experiment, and then one with another at fault beside it. -/
def extended (n : Nat) : Snapshot :=
  if n = 0 then ⟨0, [("banner", shownToAll)]⟩
  else ⟨1, [("banner", shownToAll), ("odd", { shownToAll with type := "other" })]⟩

theorem stepReading_eq_replyOn_extended :
    let contents := fun n => (extended n).manifest
    let s := (start [] (.ofInt 5) .missing).afterReading [(.faults, extended)]
    ReadsFrom contents extended ∧ Steady contents ∧
      (s.stepReading extended .faults).1 = s.replyOn [("banner", shownToAll)] .faults := by
  intro contents s
  have hs : ReadsFrom contents extended := by
    intro n
    by_cases hn : n = 0 <;> simp [contents, extended, hn]
  have hsteady : Steady contents := by
    intro i name hname
    have hmem : name ∈ ["banner"] := List.mem_of_getElem? hname
    obtain rfl := List.mem_singleton.mp hmem
    have hfirst : Manifest.check (contents 0) "banner" = .ok () := by decide +kernel
    have hlater : Manifest.check (contents 1) "banner" = .ok () := by decide +kernel
    exact hlater.trans hfirst.symm
  have hearlier : ∀ call ∈ [(Call.faults, extended)], ReadsFrom contents call.2 := by
    simpa using hs
  exact ⟨hs, hsteady, (stepReading_eq_replyOn [] (.ofInt 5) .missing hearlier hs).2.2 hsteady⟩

/-- A snapshot with an experiment, and then one without it. -/
def withdrawn (n : Nat) : Snapshot :=
  if n = 0 then ⟨0, [("banner", shownToAll)]⟩ else ⟨1, []⟩

end Session

/-- The check of all names may be answered as on no snapshot that it reads. -/
theorem Registry.faults_withdrawn :
    (empty.faults Session.withdrawn).value = .ok [("banner", .unknownExperiment "banner")] ∧
      ∀ n, (empty.faults fun _ => Session.withdrawn n).value = .ok [] := by
  refine ⟨by decide +kernel, fun n => ?_⟩
  by_cases hn : n = 0
  · subst hn
    decide +kernel
  · simp only [Session.withdrawn, hn, if_false]
    decide +kernel

end SplitTest
