import Mathlib.Data.Rat.Floor
import Mathlib.Tactic.FieldSimp
import Mathlib.Tactic.Linarith
import SplitTest.Proofs.Outcome
import SplitTest.Watcher.Basic

/-! The first load of a file, with times as they are: while the file is not there it is looked for
after every sleep, and where there is a timeout the last look is at the deadline itself. -/
namespace SplitTest

/-- The moment after so many sleeps of one length. -/
def WaitMoment.after (begin : WaitMoment ℚ) (time : ℚ) (n : ℕ) : WaitMoment ℚ :=
  ⟨begin.now + n * time, List.replicate n time ++ begin.slept⟩

@[simp] theorem WaitMoment.after_zero (begin : WaitMoment ℚ) (time : ℚ) :
    begin.after time 0 = begin := by
  simp [WaitMoment.after]

theorem WaitMoment.sleep_after (begin : WaitMoment ℚ) (time : ℚ) (n : ℕ) :
    WaitPlan.sleep .exact (begin.after time n) time = begin.after time (n + 1) := by
  have hnow : begin.now + n * time + time = begin.now + (n + 1 : ℕ) * time := by
    push_cast
    ring
  exact congrArg (WaitMoment.mk · (time :: List.replicate n time ++ begin.slept)) hnow

namespace WaitPlan

section Looks

variable {τ : Type}

/-- The moments at which a wait looks at the file, in order. -/
def looks (scale : TimeScale τ) (plan : WaitPlan τ)
    (stat : WaitMoment τ → Except FileError Fingerprint) :
    Nat → WaitMoment τ → List (WaitMoment τ)
  | 0, _ => []
  | steps + 1, m =>
    match stat m with
    | .error .notFound =>
      match plan.goOn scale m.now with
      | .error _ => [m]
      | .ok time => m :: plan.looks scale stat steps (sleep scale m time)
    | _ => [m]

/-- How a wait ends at its last look, unless it ends for want of a sleep. -/
def outcomeOf : Except FileError Fingerprint → WaitOutcome
  | .ok fingerprint => .found fingerprint
  | .error .notFound => .timedOut
  | .error e => .failed e

variable (scale : TimeScale τ) (plan : WaitPlan τ)
  {stat : WaitMoment τ → Except FileError Fingerprint} {m : WaitMoment τ}

/-- The file is not there, and the clock does not take the sleep that is next. -/
def Stalls (stat : WaitMoment τ → Except FileError Fingerprint) (m : WaitMoment τ) : Prop :=
  stat m = .error .notFound ∧
    ∃ time e, plan.nextSleep? scale m.now = some time ∧ scale.refusal? time = some e

theorem goOn_of_timedOut (h : plan.nextSleep? scale m.now = none) :
    plan.goOn scale m.now = .error .timedOut := by
  simp only [goOn, h]

theorem goOn_of_taken {time : τ} (h : plan.nextSleep? scale m.now = some time)
    (htaken : scale.refusal? time = none) : plan.goOn scale m.now = .ok time := by
  simp only [goOn, h, htaken]

theorem goOn_of_refused {time : τ} {e : SleepError}
    (h : plan.nextSleep? scale m.now = some time) (hrefused : scale.refusal? time = some e) :
    plan.goOn scale m.now = .error (.sleepless e) := by
  simp only [goOn, h, hrefused]

theorem run_of_last (h : stat m = .error .notFound → plan.goOn scale m.now = .error .timedOut)
    (steps : ℕ) : plan.run scale stat (steps + 1) m = (outcomeOf (stat m), m) ∧
      plan.looks scale stat (steps + 1) m = [m] := by
  unfold run looks
  cases hstat : stat m with
  | ok fingerprint => exact ⟨rfl, rfl⟩
  | error e =>
    cases e with
    | notFound => simp [h hstat, outcomeOf]
    | _ => exact ⟨rfl, rfl⟩

theorem run_of_sleep {time : τ} (h : stat m = .error .notFound)
    (hsleep : plan.goOn scale m.now = .ok time) (steps : ℕ) :
    plan.run scale stat (steps + 1) m = plan.run scale stat steps (sleep scale m time) ∧
      plan.looks scale stat (steps + 1) m =
        m :: plan.looks scale stat steps (sleep scale m time) := by
  rw [run, looks]
  simp [h, hsleep]

theorem run_of_sleepless {e : SleepError} (h : stat m = .error .notFound)
    (hsleep : plan.goOn scale m.now = .error (.sleepless e)) (steps : ℕ) :
    plan.run scale stat (steps + 1) m = (.sleepless e, m) := by
  rw [run]
  simp [h, hsleep]

/-- A wait that is over ends as its last look tells, or for want of a sleep after it. -/
theorem outcome_of_run {steps : ℕ} {last : WaitMoment τ} {outcome : WaitOutcome}
    (h : plan.run scale stat steps m = (outcome, last)) (hover : outcome ≠ .pending) :
    outcome = outcomeOf (stat last) ∧ ¬ plan.Stalls scale stat last ∨
      (∃ e, outcome = .sleepless e) ∧ plan.Stalls scale stat last := by
  induction steps generalizing m with
  | zero => exact absurd (Prod.mk.inj h).1.symm hover
  | succ steps ih =>
    by_cases hlast : stat m = .error .notFound → plan.nextSleep? scale m.now = none
    · rw [(run_of_last scale plan (fun habsent => goOn_of_timedOut scale plan (hlast habsent))
        steps).1] at h
      obtain ⟨rfl, rfl⟩ := Prod.mk.inj h
      refine .inl ⟨rfl, ?_⟩
      rintro ⟨habsent, time, e, htime, -⟩
      exact absurd ((hlast habsent).symm.trans htime) (by simp)
    · obtain ⟨habsent, hmore⟩ := Classical.not_imp.mp hlast
      obtain ⟨time, htime⟩ := Option.ne_none_iff_exists'.mp hmore
      cases hrefusal : scale.refusal? time with
      | none =>
        have hgoOn := goOn_of_taken scale plan htime hrefusal
        rw [(run_of_sleep scale plan habsent hgoOn steps).1] at h
        exact ih h
      | some e =>
        have hgoOn := goOn_of_refused scale plan htime hrefusal
        rw [run_of_sleepless scale plan habsent hgoOn steps] at h
        obtain ⟨rfl, rfl⟩ := Prod.mk.inj h
        exact .inr ⟨⟨e, rfl⟩, habsent, time, e, htime, hrefusal⟩

end Looks

/-- How a wait from a moment on comes to its last look: with how many looks before it at most, and
until when. -/
structure Ends (bound : ℕ) (deadline : ℚ) (stat : WaitMoment ℚ → Except FileError Fingerprint)
    (begin : WaitMoment ℚ) (looks : List (WaitMoment ℚ)) (last : WaitMoment ℚ) : Prop where
  count : looks.length ≤ bound + 1
  inTime : ∀ m ∈ looks, m.now ≤ deadline
  /-- The file was not there at any look before the last one. -/
  firstHit : ∃ before, looks = before ++ [last] ∧ ∀ m ∈ before, stat m = .error .notFound
  /-- There is one sleep between two looks, and the clock is moved by sleeps only. -/
  sleeps : ∃ slept, last.slept = slept ++ begin.slept ∧ looks.length = slept.length + 1 ∧
    last.now = begin.now + slept.sum
  atDeadline : stat last = .error .notFound → last.now = deadline

section Exact

variable {interval deadline : ℚ} {stat : WaitMoment ℚ → Except FileError Fingerprint}
  {m : WaitMoment ℚ}

theorem goOn_exact (interval deadline now : ℚ) :
    goOn .exact ⟨interval, some deadline⟩ now =
      if deadline ≤ now then .error .timedOut else .ok (min interval (deadline - now)) := by
  simp only [goOn, nextSleep?, TimeScale.exact, decide_eq_true_eq, sub_nonpos]
  split_ifs with _ hshort
  · rfl
  · rw [min_eq_right hshort.le]
  · rw [min_eq_left (not_lt.mp hshort)]

/-- In exact time every sleep is taken. -/
theorem not_stalls_exact (plan : WaitPlan ℚ) : ¬ plan.Stalls .exact stat m := by
  rintro ⟨-, time, e, -, he⟩
  cases he

theorem Ends.of_last (hm : m.now ≤ deadline) (h : stat m = .error .notFound → m.now = deadline) :
    Ends 0 deadline stat m [m] m :=
  ⟨le_rfl, by simpa using hm, ⟨[], rfl, by simp⟩, ⟨[], rfl, rfl, by simp⟩, h⟩

theorem Ends.mono {bound bound' : ℕ} {looks : List (WaitMoment ℚ)} {last : WaitMoment ℚ}
    (h : Ends bound deadline stat m looks last) (hb : bound ≤ bound') :
    Ends bound' deadline stat m looks last :=
  { h with count := h.count.trans (by omega) }

theorem Ends.cons {bound : ℕ} {time : ℚ} {looks : List (WaitMoment ℚ)} {last : WaitMoment ℚ}
    (hm : m.now ≤ deadline) (h : stat m = .error .notFound)
    (hrest : Ends bound deadline stat (sleep .exact m time) looks last) :
    Ends (bound + 1) deadline stat m (m :: looks) last := by
  obtain ⟨before, rfl, hbefore⟩ := hrest.firstHit
  obtain ⟨slept, hslept, hlength, hnow⟩ := hrest.sleeps
  refine ⟨Nat.succ_le_succ hrest.count, List.forall_mem_cons.mpr ⟨hm, hrest.inTime⟩,
    ⟨m :: before, rfl, List.forall_mem_cons.mpr ⟨h, hbefore⟩⟩, ⟨slept ++ [time], ?_, ?_, ?_⟩,
    hrest.atDeadline⟩
  · rw [hslept, List.append_assoc]
    rfl
  · rw [List.length_cons, hlength, List.length_append, List.length_singleton]
  · rw [hnow, List.sum_append, List.sum_singleton]
    simp only [sleep, TimeScale.exact]
    ring

/-- A sleep takes one interval off the remaining time, or all of it. -/
theorem ceil_remaining_sleep (hp : 0 < interval) (hm : m.now < deadline) :
    ⌈(deadline - (sleep .exact m (min interval (deadline - m.now))).now) / interval⌉₊ + 1 ≤
      ⌈(deadline - m.now) / interval⌉₊ := by
  have hremaining : 0 < (deadline - m.now) / interval := div_pos (by linarith) hp
  have hceil : 0 < ⌈(deadline - m.now) / interval⌉₊ := Nat.ceil_pos.mpr hremaining
  simp only [sleep, TimeScale.exact]
  rcases le_total interval (deadline - m.now) with hle | hle
  · have hless : (deadline - (m.now + interval)) / interval =
        (deadline - m.now) / interval - 1 := by
      field_simp
      ring
    rw [min_eq_left hle, hless, Nat.ceil_sub_one]
    omega
  · have hnone : (deadline - (m.now + (deadline - m.now))) / interval = 0 := by
      rw [add_sub_cancel, sub_self, zero_div]
    rw [min_eq_right hle, hnone, Nat.ceil_zero]
    exact hceil

/-- With enough steps for the time that remains, a wait comes to its last look. -/
theorem exists_ends (hp : 0 < interval) (stat : WaitMoment ℚ → Except FileError Fingerprint)
    {steps : ℕ} (hm : m.now ≤ deadline)
    (hsteps : ⌈(deadline - m.now) / interval⌉₊ < steps) :
    ∃ last, run .exact ⟨interval, some deadline⟩ stat steps m = (outcomeOf (stat last), last) ∧
      Ends ⌈(deadline - m.now) / interval⌉₊ deadline stat m
        (looks .exact ⟨interval, some deadline⟩ stat steps m) last := by
  -- The measure is the number of intervals that remain: each sleep takes one off.
  induction steps generalizing m with
  | zero => omega
  | succ steps ih =>
    have hnext := goOn_exact interval deadline m.now
    by_cases hlast : stat m = .error .notFound ∧ m.now < deadline
    · obtain ⟨habsent, hbefore⟩ := hlast
      rw [if_neg (not_le.mpr hbefore)] at hnext
      have hless := ceil_remaining_sleep (m := m) hp hbefore
      have hnow : (sleep .exact m (min interval (deadline - m.now))).now ≤ deadline := by
        have := min_le_right interval (deadline - m.now)
        simp only [sleep, TimeScale.exact]
        linarith
      obtain ⟨last, hrun, hends⟩ := ih hnow (by omega)
      obtain ⟨hrun', hlooks⟩ := run_of_sleep .exact _ habsent hnext steps
      rw [hrun', hlooks]
      exact ⟨last, hrun, (hends.cons hm habsent).mono hless⟩
    · have hover : stat m = .error .notFound → deadline ≤ m.now := fun h =>
        not_lt.mp fun hbefore => hlast ⟨h, hbefore⟩
      obtain ⟨hrun, hlooks⟩ := run_of_last .exact ⟨interval, some deadline⟩
        (fun h : stat m = _ => hnext.trans (if_pos (hover h))) steps
      rw [hrun, hlooks]
      exact ⟨m, rfl, (Ends.of_last hm fun h => le_antisymm hm (hover h)).mono (Nat.zero_le _)⟩

/-- Without a deadline, every look that does not find the file is followed by a sleep of one
interval. -/
theorem run_after (begin : WaitMoment ℚ) (n steps : ℕ)
    (h : ∀ k < n, stat (begin.after interval k) = .error .notFound) :
    run .exact ⟨interval, none⟩ stat (n + steps) begin =
        run .exact ⟨interval, none⟩ stat steps (begin.after interval n) ∧
      looks .exact ⟨interval, none⟩ stat (n + steps) begin =
        (List.range n).map (begin.after interval) ++
          looks .exact ⟨interval, none⟩ stat steps (begin.after interval n) := by
  induction n generalizing steps with
  | zero => simp
  | succ n ih =>
    obtain ⟨hrun, hlooks⟩ := ih (steps + 1) fun k hk => h k (by omega)
    obtain ⟨hrun', hlooks'⟩ := run_of_sleep .exact ⟨interval, none⟩ (h n (by omega)) rfl steps
    have hsteps : n + 1 + steps = n + (steps + 1) := by omega
    rw [hsteps, hrun, hlooks, hrun', hlooks', WaitMoment.sleep_after, List.range_succ,
      List.map_append, List.append_assoc]
    exact ⟨rfl, rfl⟩

end Exact
end WaitPlan

namespace Watcher

variable {α : Type}

/-- What a watcher starts with once its wait is over; `content` is what opening the file gives. -/
def ofOutcome (reader : SnapshotReader α) (path : FilePath)
    (content : Except FileError (List UInt8)) :
    WaitOutcome → Except OpeningError (Watcher α × List Notice)
  | .found fingerprint => load reader path fingerprint content
  | .timedOut => .error (.timedOut path)
  | .failed e => .error (.stat path e)
  | .sleepless e => .error (.sleep e)
  | .pending => .error .pending

/-- The first load of a file with times of any scale, and the moment it comes at. -/
def firstLoad {τ : Type} (scale : TimeScale τ) (reader : SnapshotReader α) (path : FilePath)
    (interval : τ) (timeout : Option τ) (stat : WaitMoment τ → Except FileError Fingerprint)
    (content : WaitMoment τ → Except FileError (List UInt8)) (steps : ℕ) (begin : WaitMoment τ) :
    Except OpeningError (Watcher α × List Notice) × WaitMoment τ :=
  let plan : WaitPlan τ := ⟨interval, timeout.map (scale.add begin.now)⟩
  let (outcome, moment) := plan.run scale stat steps begin
  (ofOutcome reader path (content moment) outcome, moment)

theorem firstLoad_of_run {τ : Type} {scale : TimeScale τ} {interval : τ}
    {stat : WaitMoment τ → Except FileError Fingerprint} {steps : ℕ} {begin last : WaitMoment τ}
    {outcome : WaitOutcome} (reader : SnapshotReader α) (path : FilePath) (timeout : Option τ)
    (content : WaitMoment τ → Except FileError (List UInt8))
    (h : WaitPlan.run scale ⟨interval, timeout.map (scale.add begin.now)⟩ stat steps begin =
      (outcome, last)) :
    firstLoad scale reader path interval timeout stat content steps begin =
      (ofOutcome reader path (content last) outcome, last) := by
  unfold firstLoad
  simp only [h]

/-- Watchers start with a first load whose times are doubles. -/
theorem start_eq_firstLoad (scale : TimeScale Double) (reader : SnapshotReader α)
    (path : FilePath) (interval : Double) (timeout : Option Double)
    (stat : WaitMoment Double → Except FileError Fingerprint)
    (content : WaitMoment Double → Except FileError (List UInt8)) (steps : ℕ)
    (begin : WaitMoment Double) :
    let opening := start scale reader path interval timeout stat content steps begin
    let loaded := firstLoad scale reader path interval timeout stat content steps begin
    opening.watcher = loaded.1.map (·.1) ∧ opening.moment = loaded.2 := by
  unfold start firstLoad
  dsimp only
  generalize WaitPlan.run _ _ _ _ _ = result
  obtain ⟨outcome, moment⟩ := result
  cases outcome with
  | found fingerprint =>
    simp only [ofOutcome]
    cases load reader path fingerprint (content moment) <;> exact ⟨rfl, rfl⟩
  | _ => exact ⟨rfl, rfl⟩

/-- A first load in exact time. With a timeout it always ends, after no more looks at the file than
there are intervals up to the deadline, and one: at the first look that does not find the file
missing, else at the deadline, where it has timed out. Without a timeout it sleeps one interval
after each look until the file is there. -/
theorem firstLoad_inTime {interval : ℚ} (hp : 0 < interval) (reader : SnapshotReader α)
    (path : FilePath) (stat : WaitMoment ℚ → Except FileError Fingerprint)
    (content : WaitMoment ℚ → Except FileError (List UInt8)) (begin : WaitMoment ℚ) :
    (∀ (timeout : ℚ) (steps : ℕ), 0 ≤ timeout → ⌈timeout / interval⌉₊ < steps →
      ∃ last, firstLoad .exact reader path interval (some timeout) stat content steps begin =
          (ofOutcome reader path (content last) (WaitPlan.outcomeOf (stat last)), last) ∧
        WaitPlan.Ends ⌈timeout / interval⌉₊ (begin.now + timeout) stat begin
          (WaitPlan.looks .exact ⟨interval, some (begin.now + timeout)⟩ stat steps begin) last) ∧
    ∀ n : ℕ, (∀ k < n, stat (begin.after interval k) = .error .notFound) →
      firstLoad .exact reader path interval none stat content n begin =
          (.error .pending, begin.after interval n) ∧
        ∀ fingerprint, stat (begin.after interval n) = .ok fingerprint → ∀ steps, n < steps →
          firstLoad .exact reader path interval none stat content steps begin =
              (load reader path fingerprint (content (begin.after interval n)),
                begin.after interval n) ∧
            WaitPlan.looks .exact ⟨interval, none⟩ stat steps begin =
              (List.range (n + 1)).map (begin.after interval) := by
  constructor
  · intro timeout steps ht hsteps
    have hremaining : begin.now + timeout - begin.now = timeout := by ring
    have henough : ⌈(begin.now + timeout - begin.now) / interval⌉₊ < steps := by rwa [hremaining]
    obtain ⟨last, hrun, hends⟩ :=
      WaitPlan.exists_ends hp stat (le_add_of_nonneg_right ht) henough
    rw [hremaining] at hends
    exact ⟨last, firstLoad_of_run reader path (some timeout) content hrun, hends⟩
  · intro n habsent
    constructor
    · exact firstLoad_of_run reader path none content (WaitPlan.run_after begin n 0 habsent).1
    · intro fingerprint hfound steps hsteps
      obtain ⟨more, rfl⟩ := Nat.exists_eq_add_of_lt hsteps
      obtain ⟨hrun, hlooks⟩ := WaitPlan.run_after begin n (more + 1) habsent
      obtain ⟨hlast, hlook⟩ := WaitPlan.run_of_last .exact ⟨interval, none⟩
        (fun h => absurd (hfound.symm.trans h) (by simp)) more
      rw [hlast, hfound] at hrun
      rw [hlook] at hlooks
      have hload := firstLoad_of_run reader path none content hrun
      refine ⟨hload, ?_⟩
      rw [add_assoc, hlooks, List.range_succ, List.map_append]
      rfl

/-- A file that is there from some time on. -/
def presentFrom (time : ℚ) (m : WaitMoment ℚ) : Except FileError Fingerprint :=
  if m.now < time then .error .notFound else .ok ⟨1, 1⟩

def wholeFile : SnapshotReader (List UInt8) := fun bytes => .ok (bytes, [])

def dataPath : FilePath := ⟨"", ["data"]⟩

theorem firstLoad_inTime_presentAtDeadline :
    (0 : ℚ) < 2 ∧ (0 : ℚ) ≤ 5 ∧ ⌈(5 / 2 : ℚ)⌉₊ = 3 ∧
    (∃ last : WaitMoment ℚ, last.now = 5 ∧
      firstLoad .exact wholeFile dataPath 2 (some 5) (presentFrom 5) (fun _ => .ok [7]) 4
        TimeScale.exact.start = (.ok (⟨dataPath, ⟨1, 1⟩, [7], 0, false⟩, []), last)) ∧
    firstLoad .exact wholeFile dataPath 2 none (presentFrom 3) (fun _ => .ok [7]) 9
      TimeScale.exact.start =
        (.ok (⟨dataPath, ⟨1, 1⟩, [7], 0, false⟩, []), TimeScale.exact.start.after 2 2) := by
  have hp : (0 : ℚ) < 2 := by norm_num
  have hceil : ⌈(5 / 2 : ℚ)⌉₊ = 3 := by
    rw [Nat.ceil_eq_iff (by norm_num)]
    norm_num
  have htimed := (firstLoad_inTime hp wholeFile dataPath (presentFrom 5) (fun _ => .ok [7])
    TimeScale.exact.start).1 5 4 (by norm_num) (by omega)
  have huntimed := (firstLoad_inTime hp wholeFile dataPath (presentFrom 3) (fun _ => .ok [7])
    TimeScale.exact.start).2 2
  refine ⟨hp, by norm_num, hceil, ?_, ?_⟩
  · obtain ⟨last, hload, hends⟩ := htimed
    have hthere : ¬ last.now < 5 := fun h => by
      have hdeadline := hends.atDeadline (if_pos h)
      simp only [TimeScale.start, TimeScale.exact] at hdeadline
      linarith
    have hfound : presentFrom 5 last = .ok ⟨1, 1⟩ := if_neg hthere
    obtain ⟨before, hlooks, -⟩ := hends.firstHit
    have hin := hends.inTime last (by simp [hlooks])
    simp only [TimeScale.start, TimeScale.exact] at hin
    rw [hfound] at hload
    exact ⟨last, by linarith, hload⟩
  · have habsent : ∀ k < 2, presentFrom 3 (TimeScale.exact.start.after 2 k) = .error .notFound := by
      decide +kernel
    exact ((huntimed habsent).2 ⟨1, 1⟩ (by decide +kernel) 9 (by omega)).1

end Watcher
end SplitTest
