import SplitTest.Configuration.Basic

/-! The moments at which experiments start and stop, as dates and times. -/
namespace SplitTest

inductive MomentError where
  | secondsTooLarge
  | yearTooLarge
  | calendar (error : CalendarError)
deriving DecidableEq, Repr

def MomentError.message : MomentError → String
  | secondsTooLarge => "timestamp out of range for platform time_t"
  | yearTooLarge => "[Errno 75] Value too large for defined data type"
  | calendar e => e.message

/-- Whole seconds and microseconds of a number of seconds: the fraction times a million is rounded
as a product and then to the nearest integer, an even one in a tie. -/
def splitSeconds (seconds : Rat) : Int × Nat :=
  let whole := truncate seconds
  let million : Double := .ofInt 1000000
  let fraction : Double := .ofRat false (seconds - whole)
  let micro := ((fraction.mul million).toRat?.map roundEven).getD 0
  if 1000000 ≤ micro then (whole + 1, (micro - 1000000).toNat)
  else if micro < 0 then (whole - 1, (micro + 1000000).toNat)
  else (whole, micro.toNat)

/-- The moment a finite number of seconds after 1970. Seconds reach `2 ^ 63` to either side, years,
counted from 1900 on, have 32 bits; then the year is checked. -/
def momentAfter (seconds : Rat) : Except MomentError DateTime :=
  let (whole, micro) := splitSeconds seconds
  if whole < -0x8000000000000000 ∨ 0x8000000000000000 < whole then .error .secondsTooLarge
  else
    let t := DateTime.ofSeconds whole micro
    let yearOfEra := t.date.year - 1900
    if yearOfEra < -0x80000000 ∨ 0x80000000 ≤ yearOfEra then .error .yearTooLarge
    else if t.date.year < 1 ∨ 9999 < t.date.year then
      .error (.calendar (.year (t.date.year.bmod 0x100000000)))
    else .ok t

def Double.moment (x : Double) : Except MomentError DateTime :=
  match x.toRat? with
  | none => .error .secondsTooLarge
  | some seconds => momentAfter seconds

def Configuration.startMoment (c : Configuration) : Except MomentError DateTime :=
  c.startTs.moment

def Configuration.stopMoment (c : Configuration) : Except MomentError DateTime :=
  c.stopTs.moment

end SplitTest
