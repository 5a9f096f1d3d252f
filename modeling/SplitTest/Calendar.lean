import SplitTest.Number.Numeral

/-! The proleptic Gregorian calendar: dates, times of day, and counting days from 1970. -/
namespace SplitTest

inductive CalendarError where
  | year (year : Int)
  | month
  | day
  | hour
  | minute
  | second
  | offset (seconds : Int)
deriving DecidableEq, Repr

/-- A span of time in days and seconds, parts that are zero left out. -/
def spanText (seconds : Int) : String :=
  let days := seconds.fdiv 86400
  let rest := seconds.fmod 86400
  let parts := (if days = 0 then [] else ["days=" ++ intText days]) ++
    (if rest = 0 then [] else ["seconds=" ++ intText rest])
  "datetime.timedelta(" ++ (if parts.isEmpty then "0" else ", ".intercalate parts) ++ ")"

def CalendarError.message : CalendarError → String
  | .year y => "year " ++ intText y ++ " is out of range"
  | .month => "month must be in 1..12"
  | .day => "day is out of range for month"
  | .hour => "hour must be in 0..23"
  | .minute => "minute must be in 0..59"
  | .second => "second must be in 0..59"
  | .offset s => "offset must be a timedelta strictly between -timedelta(hours=24) and " ++
      "timedelta(hours=24), not " ++ spanText s ++ "."

/-- Every fourth year is a leap year, but of the full centuries only every fourth. -/
def isLeapYear (year : Int) : Bool :=
  year % 4 = 0 && (year % 100 ≠ 0 || year % 400 = 0)

def daysInMonth (year : Int) (month : Nat) : Nat :=
  match month with
  | 2 => if isLeapYear year then 29 else 28
  | 4 | 6 | 9 | 11 => 30
  | _ => 31

structure Date where
  year : Int
  month : Nat
  day : Nat
deriving DecidableEq, Repr

namespace Date

/-- A date of the years 1 to 9999; the year is checked first, then month and day. -/
def ofParts (year : Int) (month day : Nat) : Except CalendarError Date :=
  if year < 1 ∨ 9999 < year then .error (.year year)
  else if month < 1 ∨ 12 < month then .error .month
  else if day < 1 ∨ daysInMonth year month < day then .error .day
  else .ok ⟨year, month, day⟩

/-- Days from 1 January 1970, with years that begin in March. -/
def toDays (d : Date) : Int :=
  let y := if d.month ≤ 2 then d.year - 1 else d.year
  let era := y.fdiv 400
  let yearOfEra := y - era * 400
  let shifted : Int := if 2 < d.month then d.month - 3 else d.month + 9
  let dayOfYear := (153 * shifted + 2) / 5 + d.day - 1
  era * 146097 + (yearOfEra * 365 + yearOfEra / 4 - yearOfEra / 100 + dayOfYear) - 719468

/-- The date a number of days from 1 January 1970. -/
def ofDays (days : Int) : Date :=
  let z := days + 719468
  let era := z.fdiv 146097
  let dayOfEra := z - era * 146097
  let yearOfEra := (dayOfEra - dayOfEra / 1460 + dayOfEra / 36524 - dayOfEra / 146096) / 365
  let dayOfYear := dayOfEra - (365 * yearOfEra + yearOfEra / 4 - yearOfEra / 100)
  let shifted := (5 * dayOfYear + 2) / 153
  let day := dayOfYear - (153 * shifted + 2) / 5 + 1
  let month := if shifted < 10 then shifted + 3 else shifted - 9
  ⟨yearOfEra + era * 400 + (if month ≤ 2 then 1 else 0), month.toNat, day.toNat⟩

def parts (d : Date) : List String :=
  [intText d.year, natText d.month, natText d.day]

/-- Year, month and day in four, two and two digits. -/
def text (d : Date) : String :=
  String.ofList (paddedNumeral 4 d.year.toNat ++ '-' :: paddedNumeral 2 d.month ++
    '-' :: paddedNumeral 2 d.day)

end Date

/-- A time of day to the microsecond. -/
structure TimeOfDay where
  hour : Nat
  minute : Nat
  second : Nat
  microsecond : Nat
deriving DecidableEq, Repr

namespace TimeOfDay

def ofParts (hour minute second microsecond : Nat) : Except CalendarError TimeOfDay :=
  if 23 < hour then .error .hour
  else if 59 < minute then .error .minute
  else if 59 < second then .error .second
  else .ok ⟨hour, minute, second, microsecond⟩

/-- Seconds from midnight, microseconds left aside. -/
def toSeconds (t : TimeOfDay) : Nat :=
  t.hour * 3600 + t.minute * 60 + t.second

/-- Hour and minute, with the second and the microsecond up to the last that is not zero. -/
def parts (t : TimeOfDay) : List String :=
  [natText t.hour, natText t.minute] ++
    (if t.second = 0 ∧ t.microsecond = 0 then [] else [natText t.second]) ++
    (if t.microsecond = 0 then [] else [natText t.microsecond])

/-- Hours, minutes and seconds, with microseconds if there are any. -/
def text (t : TimeOfDay) : String :=
  String.ofList (paddedNumeral 2 t.hour ++ ':' :: paddedNumeral 2 t.minute ++
    ':' :: paddedNumeral 2 t.second ++
    (if t.microsecond = 0 then [] else '.' :: paddedNumeral 6 t.microsecond))

end TimeOfDay

/-- A date with a time of day and, where known, an offset from universal time in seconds. -/
structure DateTime where
  date : Date
  time : TimeOfDay
  offset : Option Int
deriving DecidableEq, Repr

namespace DateTime

/-- An offset of less than a day. -/
def checkOffset (seconds : Int) : Except CalendarError Int :=
  if 86400 ≤ seconds.natAbs then .error (.offset seconds) else .ok seconds

/-- Seconds from 1970 on the clock of the place, or of universal time where the offset is known. -/
def toSeconds (t : DateTime) : Int :=
  t.date.toDays * 86400 + t.time.toSeconds - t.offset.getD 0

/-- The same moment; times without an offset agree only with each other. -/
def sameMoment (s t : DateTime) : Bool :=
  s.offset.isSome == t.offset.isSome && s.toSeconds == t.toSeconds &&
    s.time.microsecond == t.time.microsecond

def offsetText (seconds : Int) : String :=
  let s := seconds.natAbs
  String.ofList ((if seconds < 0 then '-' else '+') :: paddedNumeral 2 (s / 3600) ++
    ':' :: paddedNumeral 2 (s / 60 % 60))

/-- An offset by name, as a span of time if it is not zero. -/
def offsetName (seconds : Int) : String :=
  if seconds = 0 then "datetime.timezone.utc"
  else "datetime.timezone(" ++ spanText seconds ++ ")"

def parts (t : DateTime) : List String :=
  t.date.parts ++ t.time.parts ++ (t.offset.map fun s => "tzinfo=" ++ offsetName s).toList

def text (separator : String) (t : DateTime) : String :=
  t.date.text ++ separator ++ t.time.text ++ (t.offset.map offsetText).getD ""

/-- The moment some seconds and microseconds after 1970, in universal time. -/
def ofSeconds (seconds : Int) (microsecond : Nat) : DateTime :=
  let rest := (seconds.fmod 86400).toNat
  ⟨Date.ofDays (seconds.fdiv 86400),
    ⟨rest / 3600, rest / 60 % 60, rest % 60, microsecond⟩, some 0⟩

end DateTime
end SplitTest
