import LineScan.Decimal.Integer

/-!
# Dates and times

A configuration file may hold dates, times of day, and both together, with or without an offset
from universal time. Each has a plain text, and a *structural* text that names its parts, which is
used inside lists and tables.
-/

namespace LineScan

/-- A day of the calendar. -/
structure Date where
  year : Nat
  month : Nat
  day : Nat
  deriving DecidableEq, Repr

/-- A time of day, down to microseconds. -/
structure TimeOfDay where
  hour : Nat
  minute : Nat
  second : Nat
  micro : Nat
  deriving DecidableEq, Repr

/-- A number with at least `width` digits. -/
def padded (width n : Nat) : String :=
  let ds := Decimal.natText n
  String.ofList (List.replicate (width - ds.length) '0' ++ ds)

namespace Date

/-- The year has 366 days. -/
def isLeap (year : Nat) : Bool := year % 4 == 0 && (year % 100 != 0 || year % 400 == 0)

/-- How many days a month has. -/
def daysIn (year month : Nat) : Nat :=
  if month == 2 then if isLeap year then 29 else 28
  else if month == 4 || month == 6 || month == 9 || month == 11 then 30
  else 31

/-- The date exists: the year is positive, and month and day are in range. -/
def isValid (d : Date) : Bool :=
  1 ≤ d.year && 1 ≤ d.month && d.month ≤ 12 && 1 ≤ d.day && d.day ≤ daysIn d.year d.month

/-- Year, month and day, joined by hyphens. -/
def text (d : Date) : String := s!"{padded 4 d.year}-{padded 2 d.month}-{padded 2 d.day}"

/-- The parts, separated by commas. -/
def parts (d : Date) : String := s!"{d.year}, {d.month}, {d.day}"

end Date

namespace TimeOfDay

/-- Hour, minute and second, joined by colons; microseconds follow a point unless they are zero. -/
def text (t : TimeOfDay) : String :=
  let whole := s!"{padded 2 t.hour}:{padded 2 t.minute}:{padded 2 t.second}"
  if t.micro == 0 then whole else s!"{whole}.{padded 6 t.micro}"

/-- The parts, separated by commas; trailing zero seconds and microseconds are left out. -/
def parts (t : TimeOfDay) : String :=
  if t.micro != 0 then s!"{t.hour}, {t.minute}, {t.second}, {t.micro}"
  else if t.second != 0 then s!"{t.hour}, {t.minute}, {t.second}"
  else s!"{t.hour}, {t.minute}"

end TimeOfDay

/-- An offset from universal time in minutes, as sign, hours and minutes. -/
def offsetText (minutes : Int) : String :=
  let n := minutes.natAbs
  let sign := if minutes < 0 then "-" else "+"
  s!"{sign}{padded 2 (n / 60)}:{padded 2 (n % 60)}"

/-- An offset as a time zone: a negative one counts as a day less, plus seconds. -/
def offsetParts (minutes : Int) : String :=
  if minutes == 0 then "datetime.timezone.utc"
  else
    let days := minutes.fdiv 1440
    let seconds := minutes.fmod 1440 * 60
    let span :=
      if days == 0 then s!"seconds={seconds}"
      else if seconds == 0 then s!"days={days}"
      else s!"days={days}, seconds={seconds}"
    s!"datetime.timezone(datetime.timedelta({span}))"

end LineScan
