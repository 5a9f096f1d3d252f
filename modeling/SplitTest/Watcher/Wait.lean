import SplitTest.FileTree
import SplitTest.Number.Floating

/-! Waiting for a file: it is looked for again and again, with sleeps in between, until it is there
or a deadline has come. -/
namespace SplitTest

/-- Why a clock does not take a sleep. -/
inductive SleepError where
  | notANumber
  /-- Longer, forwards or backwards, than the system counts. -/
  | outOfRange
  | negative
deriving DecidableEq, Repr

def SleepError.message : SleepError → String
  | notANumber => "Invalid value NaN (not a number)"
  | outOfRange => "timestamp out of range for platform time_t"
  | negative => "sleep length must be non-negative"

/-- The first number of nanoseconds that the system cannot count, as it does so in 64 bits. -/
def SleepError.limit : Int := 9223372036854775808

/-- Why the system does not sleep for so many seconds, if it does not. -/
def SleepError.ofSeconds? (time : Double) : Option SleepError :=
  let nanoseconds := time.mul (.ofInt 1000000000)
  if time.isNaN then some .notANumber
  else if !nanoseconds.ltInt limit || nanoseconds.ltInt (-limit) then some .outOfRange
  else if time.ltInt 0 then some .negative
  else none

/-- What a wait does with times: how it computes with them, and which sleeps it can take. -/
structure TimeScale (τ : Type) where
  zero : τ
  add : τ → τ → τ
  sub : τ → τ → τ
  le : τ → τ → Bool
  lt : τ → τ → Bool
  /-- Why a sleep is not taken, if it is not. -/
  refusal? : τ → Option SleepError

/-- Times as doubles, each sum and difference rounded, on the clock of the system. -/
def TimeScale.double : TimeScale Double :=
  ⟨.ofInt 0, Floating.add, Floating.sub, Floating.le, Floating.lt, SleepError.ofSeconds?⟩

/-- Times as they are, on a clock that takes every sleep. -/
def TimeScale.exact : TimeScale Rat :=
  ⟨0, (· + ·), (· - ·), (· ≤ ·), (· < ·), fun _ => none⟩

structure WaitPlan (τ : Type) where
  /-- How long to sleep at most. -/
  interval : τ
  /-- When to give up, if ever. -/
  deadline : Option τ

/-- A moment of a wait: the time, and the sleeps up to it, the last one first. -/
structure WaitMoment (τ : Type) where
  now : τ
  slept : List τ

/-- The start of all waits. -/
def TimeScale.start {τ : Type} (scale : TimeScale τ) : WaitMoment τ := ⟨scale.zero, []⟩

inductive WaitOutcome where
  | found (fingerprint : Fingerprint)
  | timedOut
  /-- The file cannot be looked at for another reason than that it is not there. -/
  | failed (error : FileError)
  /-- The clock does not take the sleep that is next. -/
  | sleepless (error : SleepError)
  /-- Not yet, after as many steps as were allowed. -/
  | pending
deriving DecidableEq, Repr

namespace WaitPlan

variable {τ : Type}

/-- How long to sleep at a time, nothing if the deadline has come. -/
def nextSleep? (scale : TimeScale τ) (plan : WaitPlan τ) (now : τ) : Option τ :=
  match plan.deadline with
  | none => some plan.interval
  | some deadline =>
    let remaining := scale.sub deadline now
    if scale.le remaining scale.zero then none
    else some (if scale.lt remaining plan.interval then remaining else plan.interval)

/-- How a wait goes on at a time at which the file is not there: with a sleep, unless it ends. -/
def goOn (scale : TimeScale τ) (plan : WaitPlan τ) (now : τ) : Except WaitOutcome τ :=
  match plan.nextSleep? scale now with
  | none => .error .timedOut
  | some time =>
    match scale.refusal? time with
    | none => .ok time
    | some e => .error (.sleepless e)

/-- The moment after a sleep that was taken. -/
def sleep (scale : TimeScale τ) (m : WaitMoment τ) (time : τ) : WaitMoment τ :=
  ⟨scale.add m.now time, time :: m.slept⟩

/-- Waits from a moment on. `stat` tells what looking at the file gives at each moment. -/
def run (scale : TimeScale τ) (plan : WaitPlan τ)
    (stat : WaitMoment τ → Except FileError Fingerprint) :
    Nat → WaitMoment τ → WaitOutcome × WaitMoment τ
  | 0, m => (.pending, m)
  | steps + 1, m =>
    match stat m with
    | .ok fingerprint => (.found fingerprint, m)
    | .error .notFound =>
      match plan.goOn scale m.now with
      | .error outcome => (outcome, m)
      | .ok time => plan.run scale stat steps (sleep scale m time)
    | .error e => (.failed e, m)

end WaitPlan
end SplitTest
