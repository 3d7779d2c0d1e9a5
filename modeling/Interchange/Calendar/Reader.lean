import Interchange.Calendar.Instant
import Interchange.Number.Numeral
import Interchange.Text.Blank
/-!
# Reading dates

A date may be written in several ways; the first of the forms below that fits the whole text is
taken.

1. RFC 3339, with an offset: `2024-03-07T10:20:30.5Z`, `2024-03-07 10:20:30+01:00`.
2. Date and time without an offset, taken as UTC: `2024-03-07T10:20:30.5`, the same with a blank for
   the `T`, and `2024-03-07T10:20`.
3. A date, taken as its midnight: `2024-03-07`, `03/07/2024`, `2024/03/07`.
4. Milliseconds since 1970 as a whole numeral.

In the forms of 2 and 3 an item may be preceded by blanks and may have fewer digits than usual, and
the year may carry a sign and then have any number of digits.

* `Instant.parse?` — the instant of a text.
-/

namespace Interchange.Calendar

/-- One item of a written date. -/
inductive Item
  | year | month | day | hour | minute | second
  | fraction
  | blank
  | literal (c : Char)
deriving DecidableEq

/-- What was read of a date and a time; what was not read is zero. -/
structure Parts where
  year : Int := 0
  month : Nat := 0
  day : Nat := 0
  hour : Nat := 0
  minute : Nat := 0
  second : Nat := 0
  nanos : Nat := 0
deriving Repr, DecidableEq

/-- Reads at least one digit and takes at most `most`. -/
def digits? (most : Nat) (cs : List Char) : Option (Nat × List Char) :=
  let ds := (cs.takeWhile Char.isDigit).take most
  if ds.isEmpty then none else some (Numeral.ofDigits ds, cs.drop ds.length)

/-- Reads exactly `n` digits. -/
def exactDigits? (n : Nat) (cs : List Char) : Option (Nat × List Char) :=
  let ds := (cs.takeWhile Char.isDigit).take n
  if ds.length = n then some (Numeral.ofDigits ds, cs.drop n) else none

/-- The nanoseconds of the digits after a point; those beyond the ninth are cut off. -/
def nanosOf (ds : List Char) : Nat :=
  let ds := ds.take 9
  Numeral.ofDigits ds * Nat.pow 10 (9 - ds.length)

/-- Reads the digits after a point, if there is a point. -/
def fraction? : List Char → Option (Nat × List Char)
  | '.' :: cs =>
    let ds := cs.takeWhile Char.isDigit
    if ds.isEmpty then none else some (nanosOf ds, cs.drop ds.length)
  | cs => some (0, cs)

/-- Reads a year, of at most four digits unless it has a sign. -/
def year? : List Char → Option (Int × List Char)
  | '-' :: cs => (digits? cs.length cs).map fun (n, rest) => (-(n : Int), rest)
  | '+' :: cs => (digits? cs.length cs).map fun (n, rest) => ((n : Int), rest)
  | cs => (digits? 4 cs).map fun (n, rest) => ((n : Int), rest)

/-- Reads one item. -/
def Item.read (i : Item) (p : Parts) (cs : List Char) : Option (Parts × List Char) :=
  let skipped := cs.dropWhile Text.isBlank
  match i with
  | .year => (year? skipped).map fun (n, rest) => ({ p with year := n }, rest)
  | .month => (digits? 2 skipped).map fun (n, rest) => ({ p with month := n }, rest)
  | .day => (digits? 2 skipped).map fun (n, rest) => ({ p with day := n }, rest)
  | .hour => (digits? 2 skipped).map fun (n, rest) => ({ p with hour := n }, rest)
  | .minute => (digits? 2 skipped).map fun (n, rest) => ({ p with minute := n }, rest)
  | .second => (digits? 2 skipped).map fun (n, rest) => ({ p with second := n }, rest)
  | .fraction => (fraction? cs).map fun (n, rest) => ({ p with nanos := n }, rest)
  | .blank => some (p, skipped)
  | .literal c =>
    match cs with
    | d :: rest => if d = c then some (p, rest) else none
    | [] => none

/-- Reads items to the end of the text. -/
def readItems : List Item → Parts → List Char → Option Parts
  | [], p, cs => if cs.isEmpty then some p else none
  | i :: is, p, cs => (i.read p cs).bind fun (p, rest) => readItems is p rest

/-- The instant of date and time at an offset in seconds, if there is one.  Second 60 is the leap
second after 59. -/
def Parts.instant? (p : Parts) (offset : Int) : Option Instant :=
  let c : Civil := ⟨p.year, p.month, p.day⟩
  if c.isValid && p.hour ≤ 23 && p.minute ≤ 59 && p.second ≤ 60 then
    let second := min p.second 59
    let leap := if p.second = 60 then 1000000000 else 0
    let time : Nat := p.hour * 3600 + p.minute * 60 + second
    some ⟨c.toDay * 86400 + time - offset, p.nanos + leap⟩
  else none

/-- Reads an offset: `Z`, or a sign with hours and minutes.  The sign may be U+2212. -/
def offset? : List Char → Option (Int × List Char)
  | 'Z' :: cs | 'z' :: cs => some (0, cs)
  | s :: cs =>
    if s = '+' || s = '-' || s = Char.ofNat 0x2212 then
      match exactDigits? 2 cs with
      | some (hours, ':' :: cs) =>
        match exactDigits? 2 cs with
        | some (minutes, cs) =>
          if minutes ≤ 59 && hours ≤ 23 then
            let n : Int := (hours * 3600 + minutes * 60 : Nat)
            some (if s = '+' then n else -n, cs)
          else none
        | none => none
      | _ => none
    else none
  | [] => none

/-- Reads a fixed number of digits into a part, and then one of some characters. -/
def fixed? (width : Nat) (after : List Char) (cs : List Char) : Option (Nat × List Char) :=
  match exactDigits? width cs with
  | some (n, c :: rest) => if after.contains c then some (n, rest) else none
  | _ => none

/-- Reads the form of RFC 3339. -/
def rfc3339? (cs : List Char) : Option Instant := do
  let (year, cs) ← fixed? 4 ['-'] cs
  let (month, cs) ← fixed? 2 ['-'] cs
  let (day, cs) ← fixed? 2 ['T', 't', ' '] cs
  let (hour, cs) ← fixed? 2 [':'] cs
  let (minute, cs) ← fixed? 2 [':'] cs
  let (second, cs) ← exactDigits? 2 cs
  let (nanos, cs) ← fraction? cs
  let (offset, cs) ← offset? cs
  if cs.isEmpty then Parts.instant? ⟨year, month, day, hour, minute, second, nanos⟩ offset else none

/-- The items of a date in the order year, month, day. -/
def ymd (sep : Char) : List Item := [.year, .literal sep, .month, .literal sep, .day]

/-- The items of a time of day with hours and minutes. -/
def hm : List Item := [.hour, .literal ':', .minute]

/-- The items of a time of day with seconds and a fraction. -/
def hms : List Item := hm ++ [.literal ':', .second, .fraction]

/-- The forms without an offset, in the order in which they are tried. -/
def forms : List (List Item) :=
  [ymd '-' ++ .literal 'T' :: hms,
   ymd '-' ++ .blank :: hms,
   ymd '-' ++ .literal 'T' :: hm,
   ymd '-',
   [.month, .literal '/', .day, .literal '/', .year],
   ymd '/']

/-- The instant that a text denotes. -/
def Instant.parse? (text : String) : Option Instant :=
  let cs := Text.trimWhere Text.isBlank text.toList
  (rfc3339? cs).or <|
    (forms.findSome? fun items => (readItems items {} cs).bind fun p => p.instant? 0).or <|
      (Numeral.integer? (String.ofList cs)).bind Instant.ofMillis?

end Interchange.Calendar
