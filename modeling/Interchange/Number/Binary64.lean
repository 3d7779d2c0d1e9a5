/-!
# Exact arithmetic on binary64 numbers

A finite binary64 number is `± m · 2^e` with natural `m` and integral `e`.  This module reads that
triple off the bits and defines on it, in exact integer arithmetic, the operations that the rest
of the library needs beyond the four basic ones.

* `decode`, `ofParts` — the triple of a number, and the number nearest to a triple.
* `toInt?` — the integer that a number is, if it is one.
* `truncate`, `round`, `remainder` — toward zero, to the nearest integer with halves away from
  zero, and the remainder of the truncated quotient.
-/

namespace Interchange.Binary64

/-- A finite binary64 number as sign, magnitude and binary exponent. -/
structure Parts where
  negative : Bool
  magnitude : Nat
  exponent : Int
deriving Repr, DecidableEq

/-- Whether the sign bit is set; true of `-0.0`. -/
def signBit (x : Float) : Bool := x.toBits >>> 63 == 1

/-- The parts of a number.  The answer is of no use for a NaN or an infinity. -/
def decode (x : Float) : Parts :=
  let bits := x.toBits.toNat
  let fraction : Nat := bits % Nat.pow 2 52
  let biased : Nat := bits / Nat.pow 2 52 % Nat.pow 2 11
  if biased = 0 then ⟨signBit x, fraction, -1074⟩
  else ⟨signBit x, fraction + Nat.pow 2 52, (biased : Int) - 1075⟩

/-- Sets the sign of a magnitude. -/
def withSign (negative : Bool) (x : Float) : Float := if negative then -x else x

/-- The binary64 number with magnitude `m · 2^e`, where `m` is below `2^53`; a magnitude that needs
more than 53 bits or a smaller exponent than binary64 has is cut toward zero. -/
def ofParts (p : Parts) : Float :=
  if p.magnitude = 0 then withSign p.negative 0.0
  else
    let width := p.magnitude.log2 + 1
    let e := p.exponent + width - 53
    let e' := max e (-1074)
    let shift := p.exponent - e'
    let m :=
      if shift ≥ 0 then p.magnitude * Nat.pow 2 shift.toNat
      else p.magnitude / Nat.pow 2 (-shift).toNat
    let leading := Nat.pow 2 52
    let bits := if m < leading then m else (e' + 1075).toNat * leading + (m - leading)
    withSign p.negative (Float.ofBits (UInt64.ofNat bits))

/-- The integer that the number is, if it is one. -/
def toInt? (x : Float) : Option Int :=
  if x.isFinite then
    let p := decode x
    let magnitude? : Option Nat :=
      if p.exponent ≥ 0 then some (p.magnitude * Nat.pow 2 p.exponent.toNat)
      else
        let unit := Nat.pow 2 (-p.exponent).toNat
        if p.magnitude % unit = 0 then some (p.magnitude / unit) else none
    magnitude?.map fun n => if p.negative then -(n : Int) else (n : Int)
  else none

/-- Rounds a number to an integer, given the integral magnitude and whether the part cut off is at
least one half.  NaN, infinities and numbers without fractional bits are returned as they are. -/
def integral (adjust : (whole : Nat) → (half : Bool) → Nat) (x : Float) : Float :=
  if x.isFinite then
    let p := decode x
    if p.exponent ≥ 0 then x
    else
      let unit := Nat.pow 2 (-p.exponent).toNat
      let whole := adjust (p.magnitude / unit) (unit ≤ 2 * (p.magnitude % unit))
      ofParts ⟨p.negative, whole, 0⟩
  else x

/-- The number without its fractional part. -/
def truncate (x : Float) : Float := integral (fun whole _ => whole) x

/-- The nearest integer; a half goes away from zero. -/
def round (x : Float) : Float := integral (fun whole half => if half then whole + 1 else whole) x

/-- The remainder `x - y · truncate (x / y)`, computed exactly; it has the sign of `x`. -/
def remainder (x y : Float) : Float :=
  if !x.isFinite || y.isNaN || y == 0.0 then 0.0 / 0.0
  else if y.isInf then x
  else
    let p := decode x
    let q := decode y
    let e := min p.exponent q.exponent
    let a := p.magnitude * Nat.pow 2 (p.exponent - e).toNat
    let b := q.magnitude * Nat.pow 2 (q.exponent - e).toNat
    ofParts ⟨p.negative, a % b, e⟩

/-- `base ^ n` by repeated squaring, rounding after each product. -/
def power (base : Float) (n : Nat) : Float :=
  go base n 1.0
where
  go (square : Float) (n : Nat) (acc : Float) : Float :=
    if h : n = 0 then acc
    else
      let acc := if n % 2 = 1 then acc * square else acc
      go (square * square) (n / 2) acc
  termination_by n
  decreasing_by omega

end Interchange.Binary64
