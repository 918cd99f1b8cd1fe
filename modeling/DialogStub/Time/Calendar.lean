/-!
# The Gregorian calendar

Days are counted from 1970-01-01, and the calendar reaches to all years in both directions.

* `Calendar.Date` — a year, a month and a day of the month;
* `Calendar.daysOf` — the number of a day;
* `Calendar.dateOf` — the date of a numbered day.

Both count years from the first of March, so that the leap day ends a year, and eras of 400
years, which all have the same length.
-/

namespace DialogStub.Calendar

/-- A date. -/
structure Date where
  year : Int
  month : Nat
  day : Nat
  deriving DecidableEq, Repr

/-- Whether February has a 29th. -/
def isLeap (year : Int) : Bool :=
  year % 4 = 0 && (year % 100 ≠ 0 || year % 400 = 0)

/-- The length of a month. -/
def monthLength (year : Int) (month : Nat) : Nat :=
  if month = 2 then (if isLeap year then 29 else 28)
  else if month = 4 ∨ month = 6 ∨ month = 9 ∨ month = 11 then 30
  else 31

/-- Whether a date stands in the calendar. -/
def Date.isValid (d : Date) : Bool :=
  1 ≤ d.month && d.month ≤ 12 && 1 ≤ d.day && d.day ≤ monthLength d.year d.month

/-- The days of an era. -/
def eraDays : Int := 146097

/-- The first day of an era is this many days before day zero, for era zero. -/
def eraOffset : Int := 719468

/-- The number of a day. -/
def daysOf (d : Date) : Int :=
  let y := if d.month ≤ 2 then d.year - 1 else d.year
  let era := y / 400
  let yearOfEra := y % 400
  let marchMonth : Int := if d.month ≤ 2 then d.month + 9 else d.month - 3
  let dayOfYear := (153 * marchMonth + 2) / 5 + d.day - 1
  let dayOfEra := yearOfEra * 365 + yearOfEra / 4 - yearOfEra / 100 + dayOfYear
  era * eraDays + dayOfEra - eraOffset

/-- The date of a numbered day. -/
def dateOf (days : Int) : Date :=
  let z := days + eraOffset
  let era := z / eraDays
  let dayOfEra := z % eraDays
  let yearOfEra :=
    (dayOfEra - dayOfEra / 1460 + dayOfEra / 36524 - dayOfEra / 146096) / 365
  let dayOfYear := dayOfEra - (365 * yearOfEra + yearOfEra / 4 - yearOfEra / 100)
  let marchMonth := (5 * dayOfYear + 2) / 153
  let day := dayOfYear - (153 * marchMonth + 2) / 5 + 1
  let month := if marchMonth < 10 then marchMonth + 3 else marchMonth - 9
  let year := yearOfEra + era * 400 + (if month ≤ 2 then 1 else 0)
  ⟨year, month.toNat, day.toNat⟩

end DialogStub.Calendar
