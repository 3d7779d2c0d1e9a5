import Interchange.Number.Binary64
/-!
# Reading numerals

The texts that configuration and data use for numbers.  A decimal numeral is a sign, digits with
at most one point, and an exponent; a point needs a digit on one side only.  The names `inf`,
`infinity` and `nan` are numerals in any case.  No numeral holds a blank or an underscore.

* `float?` — the binary64 number nearest to a decimal numeral.
* `natural?`, `integer?` — whole numerals within the bounds of 64-bit words.
-/

namespace Interchange.Numeral

/-- The value of a digit. -/
def digitValue (c : Char) : Nat := c.toNat - '0'.toNat

/-- The value of a run of digits. -/
def ofDigits (ds : List Char) : Nat := ds.foldl (fun n c => 10 * n + digitValue c) 0

/-- Splits a sign off; `true` for minus. -/
def sign : List Char → Bool × List Char
  | '-' :: cs => (true, cs)
  | '+' :: cs => (false, cs)
  | cs => (false, cs)

/-- The binary64 number nearest to `digits · 10^exponent`.  Numbers beyond the range on either
side are decided from the number of digits alone. -/
def nearest (digits : Nat) (exponent : Int) : Float :=
  if digits = 0 then 0.0
  else
    let top := exponent + (Nat.toDigits 10 digits).length
    if top > 310 then 1.0 / 0.0
    else if top < -330 then 0.0
    else if exponent ≥ 0 then Float.ofScientific digits false exponent.toNat
    else Float.ofScientific digits true (-exponent).toNat

/-- The exponent that ends a numeral: nothing, or `e` with an optional sign and digits. -/
def exponent? : List Char → Option Int
  | [] => some 0
  | c :: cs =>
    if c = 'e' || c = 'E' then
      let (negative, ds) := sign cs
      if !ds.isEmpty && ds.all Char.isDigit then
        some (if negative then -(ofDigits ds : Int) else (ofDigits ds : Int))
      else none
    else none

/-- The magnitude written by digits, point and exponent. -/
def magnitude? (cs : List Char) : Option Float :=
  let whole := cs.takeWhile Char.isDigit
  let rest := cs.dropWhile Char.isDigit
  let (fraction, rest) : List Char × List Char :=
    match rest with
    | '.' :: rest => (rest.takeWhile Char.isDigit, rest.dropWhile Char.isDigit)
    | rest => ([], rest)
  if whole.isEmpty && fraction.isEmpty then none
  else (exponent? rest).map fun e => nearest (ofDigits (whole ++ fraction)) (e - fraction.length)

/-- The number that a decimal numeral or one of the names of the special values denotes. -/
def float? (s : String) : Option Float :=
  let (negative, cs) := sign s.toList
  let name := String.ofList (cs.map Char.toLower)
  let magnitude :=
    if name = "inf" || name = "infinity" then some (1.0 / 0.0)
    else if name = "nan" then some (0.0 / 0.0)
    else magnitude? cs
  magnitude.map (Binary64.withSign negative)

/-- The bound of 64-bit words. -/
def wordBound : Nat := 0x10000000000000000

/-- A natural numeral below `2^64`; a leading plus sign is allowed. -/
def natural? (s : String) : Option Nat :=
  let cs := match s.toList with
    | '+' :: cs => cs
    | cs => cs
  if !cs.isEmpty && cs.all Char.isDigit then
    let n := ofDigits cs
    if n < wordBound then some n else none
  else none

/-- A whole numeral of the signed 64-bit range; a leading sign is allowed. -/
def integer? (s : String) : Option Int :=
  let (negative, cs) := sign s.toList
  if !cs.isEmpty && cs.all Char.isDigit then
    let n : Int := if negative then -(ofDigits cs : Int) else (ofDigits cs : Int)
    if -0x8000000000000000 ≤ n && n < 0x8000000000000000 then some n else none
  else none

end Interchange.Numeral
