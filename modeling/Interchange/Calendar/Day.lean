/-!
# Days

The proleptic Gregorian calendar.  A day is counted from 1970-01-01; a civil date is a year, which
may be zero or negative, a month and a day of the month.

* `Civil.toDay`, `Civil.ofDay` — the two views of a day.
* `Civil.isValid` — whether there is such a date within the years that the library covers.
-/

namespace Interchange.Calendar

/-- A date by year, month and day of the month. -/
structure Civil where
  year : Int
  month : Nat
  day : Nat
deriving Repr, DecidableEq

/-- The first year that the library covers. -/
def firstYear : Int := -262143

/-- The last year that the library covers. -/
def lastYear : Int := 262142

def isLeap (year : Int) : Bool := year % 4 = 0 && (year % 100 ≠ 0 || year % 400 = 0)

/-- The number of days of a month. -/
def daysIn (year : Int) (month : Nat) : Nat :=
  if month = 2 then if isLeap year then 29 else 28
  else if month = 4 || month = 6 || month = 9 || month = 11 then 30
  else 31

namespace Civil

/-- Whether the calendar has the date and the library covers its year. -/
def isValid (c : Civil) : Bool :=
  firstYear ≤ c.year && c.year ≤ lastYear && 1 ≤ c.month && c.month ≤ 12 && 1 ≤ c.day &&
    c.day ≤ daysIn c.year c.month

/-- The days from 1970-01-01 to a date.  Years are taken to begin in March, so that the leap day
is the last of its year; 400 of them have 146097 days. -/
def toDay (c : Civil) : Int :=
  let y := if c.month ≤ 2 then c.year - 1 else c.year
  let era := y.fdiv 400
  let yearOfEra := y - era * 400
  let month : Int := if c.month ≤ 2 then c.month + 9 else c.month - 3
  let dayOfYear := (153 * month + 2) / 5 + c.day - 1
  let dayOfEra := yearOfEra * 365 + yearOfEra / 4 - yearOfEra / 100 + dayOfYear
  era * 146097 + dayOfEra - 719468

/-- The date of a day. -/
def ofDay (n : Int) : Civil :=
  let z := n + 719468
  let era := z.fdiv 146097
  let dayOfEra := z - era * 146097
  let yearOfEra := (dayOfEra - dayOfEra / 1460 + dayOfEra / 36524 - dayOfEra / 146096) / 365
  let dayOfYear := dayOfEra - (365 * yearOfEra + yearOfEra / 4 - yearOfEra / 100)
  let month := (5 * dayOfYear + 2) / 153
  let day := dayOfYear - (153 * month + 2) / 5 + 1
  let civilMonth := if month < 10 then month + 3 else month - 9
  let year := yearOfEra + era * 400
  ⟨if civilMonth ≤ 2 then year + 1 else year, civilMonth.toNat, day.toNat⟩

end Civil

end Interchange.Calendar
