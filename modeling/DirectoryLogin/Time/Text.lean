import DirectoryLogin.Time.Calendar

/-!
# Instants as text

Instants are written in universal time. Three forms are those of RFC 3339:

* `exact` writes the fraction with none, three, six or nine digits, the fewest that lose nothing;
* `stored` is the same with the offset `+00:00` for the final `Z`;
* `millis` always writes three digits and drops the rest.

`httpDate` is the form that HTTP headers take.

In all of them a year takes at least four digits; beyond 9999 it has a plus sign in front, and a negative year
has a minus sign.
-/

namespace DirectoryLogin.Time

/-- A number with zeros in front up to a width. -/
def padded (width n : Nat) : String :=
  let digits := toString n
  String.ofList (List.replicate (width - digits.length) '0') ++ digits

/-- A year, with a sign where it has other than four digits. -/
def yearText (year : Int) : String :=
  if year < 0 then "-" ++ padded 4 year.natAbs
  else if year ≤ 9999 then padded 4 year.natAbs
  else "+" ++ toString year.natAbs

/-- The date and the time up to the second. -/
def civilText (c : Civil) : String :=
  yearText c.year ++ "-" ++ padded 2 c.month ++ "-" ++ padded 2 c.day ++ "T" ++ padded 2 c.hour ++
    ":" ++ padded 2 c.minute ++ ":" ++ padded 2 c.second

/-- A fraction in nanoseconds, in the fewest groups of three digits. -/
def fractionText (nanos : Nat) : String :=
  if nanos == 0 then ""
  else if nanos % 1000000 == 0 then "." ++ padded 3 (nanos / 1000000)
  else if nanos % 1000 == 0 then "." ++ padded 6 (nanos / 1000)
  else "." ++ padded 9 nanos

/-- The text that keeps the whole fraction. -/
def exact (t : Instant) : String :=
  let c := civil t
  civilText c ++ fractionText c.nanos ++ "Z"

/-- The text under which an instant is stored. -/
def stored (t : Instant) : String :=
  let c := civil t
  civilText c ++ fractionText c.nanos ++ "+00:00"

/-- The text to the millisecond. -/
def millis (t : Instant) : String :=
  let c := civil t
  civilText c ++ "." ++ padded 3 (c.nanos / 1000000) ++ "Z"

/-- The days of the week from Thursday on, the first day of 1970. -/
def dayNames : List String := ["Thu", "Fri", "Sat", "Sun", "Mon", "Tue", "Wed"]

def monthNames : List String :=
  ["Jan", "Feb", "Mar", "Apr", "May", "Jun", "Jul", "Aug", "Sep", "Oct", "Nov", "Dec"]

/-- The date and the time in HTTP headers. -/
def httpDate (t : Instant) : String :=
  let c := civil t
  let weekday := ((t.seconds.fdiv daySeconds).fmod 7).toNat
  dayNames.getD weekday "" ++ ", " ++ padded 2 c.day ++ " " ++ monthNames.getD (c.month - 1) "" ++
    " " ++ yearText c.year ++ " " ++ padded 2 c.hour ++ ":" ++ padded 2 c.minute ++ ":" ++
    padded 2 c.second ++ " GMT"

/-- The calendar year of an instant has four digits, as stored timestamps must. -/
def fourDigitYear (t : Instant) : Bool :=
  let year := (civil t).year
  0 ≤ year && year ≤ 9999

end DirectoryLogin.Time
