import Interchange.Number.Binary64
/-!
# Shortest decimal digits

The decimal text of a binary64 number is the one with the fewest digits that reads back as the
number, and among those the one nearest to it.

A number `m · 2^q` owns the decimals that round to it: those between the midpoints to its two
neighbours, the midpoints included exactly when `m` is even.  For one, two, … seventeen digits the
two neighbours of the number on that decimal grid are tested against this interval, in exact
arithmetic; the first grid with a hit gives the digits.
-/

namespace Interchange.Shortest

/-- A decimal `digits · 10^exponent`. -/
structure Decimal where
  digits : Nat
  exponent : Int
deriving Repr, DecidableEq

/-- The interval of rationals that round to a number, over a common denominator. -/
structure Interval where
  low : Nat
  value : Nat
  high : Nat
  denominator : Nat
  closed : Bool

/-- The interval of the positive number `m · 2^q`.  Below a power of two the neighbour is half as
far away, except at the smallest exponent. -/
def interval (m : Nat) (q : Int) : Interval :=
  let narrow := m = Nat.pow 2 52 && q > -1074
  let scale := Nat.pow 2 (max q 0).toNat
  { low := (if narrow then 4 * m - 1 else 4 * m - 2) * scale
    value := 4 * m * scale
    high := (4 * m + 2) * scale
    denominator := 4 * Nat.pow 2 (max (-q) 0).toNat
    closed := m % 2 = 0 }

/-- Whether `n · 10^k` lies in the interval. -/
def Interval.holds (i : Interval) (n : Nat) (k : Int) : Bool :=
  let x := n * Nat.pow 10 (max k 0).toNat * i.denominator
  let unit := Nat.pow 10 (max (-k) 0).toNat
  if i.closed then i.low * unit ≤ x && x ≤ i.high * unit
  else i.low * unit < x && x < i.high * unit

/-- The number of decimal digits of a natural number. -/
def width (n : Nat) : Nat := (Nat.toDigits 10 n).length

/-- The exponent `e` with `10^e ≤ value < 10^(e+1)`. -/
def Interval.scientific (i : Interval) : Int :=
  if i.denominator ≤ i.value then (width (i.value / i.denominator) : Int) - 1
  else
    let w := width (i.denominator / i.value)
    if i.denominator ≤ i.value * Nat.pow 10 (w - 1) then 1 - (w : Int) else -(w : Int)

/-- The point of the grid of multiples of `10^k` that lies in the interval and is nearest to the
value; of two equally near ones the even. -/
def Interval.onGrid? (i : Interval) (k : Int) : Option Nat :=
  let num := i.value * Nat.pow 10 (max (-k) 0).toNat
  let den := i.denominator * Nat.pow 10 (max k 0).toNat
  let below := num / den
  let gap := 2 * (num % den)
  let lower := i.holds below k
  let upper := i.holds (below + 1) k
  if lower && upper then
    some (if gap < den || (gap = den && below % 2 = 0) then below else below + 1)
  else if lower then some below
  else if upper then some (below + 1)
  else none

/-- Drops the trailing zeros of the digits; `fuel` bounds their number. -/
def Decimal.strip : (fuel : Nat) → Decimal → Decimal
  | 0, d => d
  | fuel + 1, d =>
    if d.digits % 10 = 0 && d.digits ≠ 0 then
      Decimal.strip fuel ⟨d.digits / 10, d.exponent + 1⟩
    else d

/-- The first of the grids with one, two, … seventeen digits that has a point in the interval. -/
def Interval.first? (i : Interval) : Option Decimal :=
  let e := i.scientific
  (List.range 17).findSome? fun (n : Nat) =>
    (i.onGrid? (e - n)).map fun digits => Decimal.strip 20 ⟨digits, e - n⟩

/-- The shortest decimal of the magnitude of a finite number that is not zero; seventeen digits
always have a hit. -/
def ofFloat (x : Float) : Decimal :=
  let p := Binary64.decode x
  (interval p.magnitude p.exponent).first?.getD ⟨0, 0⟩

end Interchange.Shortest
