/-!
# Instants and the calendar

An instant is a number of whole seconds since the start of 1970 and a fraction in nanoseconds. A
fraction of a full second or more stands for a leap second: it belongs to the second after the one
counted. `civil` finds the date in the proleptic Gregorian calendar, and `ofCivil` goes back.
-/

namespace DirectoryLogin.Time

structure Instant where
  /-- Whole seconds since the start of 1970. -/
  seconds : Int
  /-- Nanoseconds after them; a thousand million or more within a leap second. -/
  nanos : Nat
  deriving DecidableEq, Repr

/-- The length of a day in seconds. -/
def daySeconds : Int := 86400

/-- A second in nanoseconds. -/
def secondNanos : Nat := 1000000000

/-- A date and a time of day. -/
structure Civil where
  year : Int
  month : Nat
  day : Nat
  hour : Nat
  minute : Nat
  second : Nat
  nanos : Nat
  deriving DecidableEq, Repr

/-- The date of a day counted from the start of 1970. Years are counted from March, so that the
leap day is the last of its year, in cycles of 400 years or 146097 days. -/
def dateOfDays (days : Int) : Int × Nat × Nat :=
  let z := days + 719468
  let era := z.fdiv 146097
  let dayOfEra := (z.fmod 146097).toNat
  let yearOfEra :=
    (dayOfEra - dayOfEra / 1460 + dayOfEra / 36524 - dayOfEra / 146096) / 365
  let dayOfYear := dayOfEra - (365 * yearOfEra + yearOfEra / 4 - yearOfEra / 100)
  let monthFromMarch := (5 * dayOfYear + 2) / 153
  let day := dayOfYear - (153 * monthFromMarch + 2) / 5 + 1
  let month := if monthFromMarch < 10 then monthFromMarch + 3 else monthFromMarch - 9
  let year := era * 400 + yearOfEra + (if month ≤ 2 then 1 else 0)
  (year, month, day)

/-- The day of a date, counted from the start of 1970. -/
def daysOfDate (year : Int) (month day : Nat) : Int :=
  let y := if month ≤ 2 then year - 1 else year
  let era := y.fdiv 400
  let yearOfEra := y - era * 400
  let monthFromMarch : Int := if month > 2 then month - 3 else month + 9
  let dayOfYear := (153 * monthFromMarch + 2) / 5 + day - 1
  era * 146097 + (yearOfEra * 365 + yearOfEra / 4 - yearOfEra / 100 + dayOfYear) - 719468

/-- The calendar date and time of an instant. A leap second is the sixty-first of its minute. -/
def civil (t : Instant) : Civil :=
  let (year, month, day) := dateOfDays (t.seconds.fdiv daySeconds)
  let s := (t.seconds.fmod daySeconds).toNat
  let leap := t.nanos / secondNanos
  ⟨year, month, day, s / 3600, s / 60 % 60, s % 60 + leap, t.nanos % secondNanos⟩

/-- Instants in order of time. -/
def Instant.before (a b : Instant) : Bool :=
  a.seconds < b.seconds || (a.seconds == b.seconds && a.nanos < b.nanos)

/-- The instant a number of seconds later. -/
def Instant.later (t : Instant) (seconds : Nat) : Instant :=
  if t.nanos < secondNanos then { t with seconds := t.seconds + seconds }
  else if seconds == 0 then t
  else ⟨t.seconds + seconds, t.nanos - secondNanos⟩

/-- The instant a number of seconds earlier. A leap second counts as the second before it. -/
def Instant.earlier (t : Instant) (seconds : Nat) : Instant :=
  ⟨t.seconds - seconds, t.nanos % secondNanos⟩

/-- The first and the last second that the calendar covers: the years -262143 to 262142. -/
def firstSecond : Int := daysOfDate (-262143) 1 1 * daySeconds

def lastSecond : Int := daysOfDate 262143 1 1 * daySeconds - 1

/-- The instant of a Unix time, where the calendar covers it. A leap second can only follow the
last second of a minute. -/
def Instant.ofUnix? (seconds : Int) (nanos : Nat) : Option Instant :=
  if seconds < firstSecond || lastSecond < seconds then none
  else if nanos < secondNanos || (nanos < 2 * secondNanos && seconds.fmod 60 == 59) then
    some ⟨seconds, nanos⟩
  else none

end DirectoryLogin.Time
