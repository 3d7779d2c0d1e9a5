import Interchange.Calendar.Day
/-!
# Instants

An instant is a second of UTC, counted from the beginning of 1970, and nanoseconds into it.  From
10^9 nanoseconds on it lies in the leap second that follows.

* `Instant.ofMillis?`, `Instant.millis` — as milliseconds since 1970.
* `DateFormat.render` — the texts in which dates are given out.
-/

namespace Interchange.Calendar

/-- An instant of UTC. -/
structure Instant where
  seconds : Int
  nanos : Nat
deriving Repr, DecidableEq

namespace Instant

/-- The day of the instant. -/
def day (i : Instant) : Int := i.seconds.fdiv 86400

/-- The date of the instant. -/
def civil (i : Instant) : Civil := Civil.ofDay i.day

/-- The second within its day. -/
def secondOfDay (i : Instant) : Nat := (i.seconds.fmod 86400).toNat

/-- Milliseconds since the beginning of 1970, fractions cut off. -/
def millis (i : Instant) : Int := i.seconds * 1000 + (i.nanos / 1000000 : Nat)

/-- The instant of a count of milliseconds, if the library covers its year. -/
def ofMillis? (n : Int) : Option Instant :=
  let i : Instant := ⟨n.fdiv 1000, (n.fmod 1000).toNat * 1000000⟩
  if firstYear ≤ i.civil.year && i.civil.year ≤ lastYear then some i else none

end Instant

/-- A number with zeros in front up to a width. -/
def padded (width n : Nat) : String :=
  let ds := Nat.toDigits 10 n
  String.ofList (List.replicate (width - ds.length) '0' ++ ds)

/-- A year with at least four digits, and with a sign outside of 0 to 9999. -/
def yearText (y : Int) : String :=
  if 0 ≤ y && y ≤ 9999 then padded 4 y.toNat
  else (if y < 0 then "-" else "+") ++ padded 4 y.natAbs

/-- The forms in which a date is given out. -/
inductive DateFormat
  | iso
  | us
  | eu
  | timestamp
  | epoch
deriving DecidableEq

/-- The text of an instant in a form.  In a leap second the seconds are one more than 59. -/
def DateFormat.render (f : DateFormat) (i : Instant) : String :=
  let c := i.civil
  let y := yearText c.year
  let m := padded 2 c.month
  let d := padded 2 c.day
  match f with
  | .iso => s!"{y}-{m}-{d}"
  | .us => s!"{m}/{d}/{y}"
  | .eu => s!"{d}/{m}/{y}"
  | .timestamp =>
    let s := i.secondOfDay
    let leap := i.nanos / 1000000000
    let hour := padded 2 (s / 3600)
    let minute := padded 2 (s / 60 % 60)
    let second := padded 2 (s % 60 + leap)
    let milli := padded 3 (i.nanos % 1000000000 / 1000000)
    s!"{y}-{m}-{d}T{hour}:{minute}:{second}.{milli}Z"
  | .epoch => toString i.millis

end Interchange.Calendar
