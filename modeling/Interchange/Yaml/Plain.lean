import Interchange.Number.Numeral
/-!
# Scalars without quotes

A YAML scalar without quotes may spell nothing, a truth value, an integer in one of four bases, or a
float; every other spelling is a text.  Digits with a needless zero in front are no number.

* `Plain.isNull`, `Plain.bool?`, `Plain.integer?`, `Plain.float?` — what a spelling stands for.
* `Plain.isText` — whether a spelling is a text and nothing else.
-/

namespace Interchange.Plain

/-- Whether a spelling stands for nothing. -/
def isNull (s : String) : Bool := s ∈ ["", "~", "null", "Null", "NULL"]

/-- The truth value that is spelled. -/
def bool? (s : String) : Option Bool :=
  if s ∈ ["true", "True", "TRUE"] then some true
  else if s ∈ ["false", "False", "FALSE"] then some false
  else none

/-- The digits of an integer, and the base that its lead names. -/
def digits (cs : List Char) : Nat × List Char :=
  match cs with
  | '0' :: 'x' :: ds => (16, ds)
  | '0' :: 'o' :: ds => (8, ds)
  | '0' :: 'b' :: ds => (2, ds)
  | ds => (10, ds)

/-- The value of a digit in a base. -/
def digitIn? (base : Nat) (c : Char) : Option Nat :=
  let v :=
    if c.isDigit then some (c.toNat - '0'.toNat)
    else if 'a' ≤ c && c ≤ 'f' then some (c.toNat - 'a'.toNat + 10)
    else if 'A' ≤ c && c ≤ 'F' then some (c.toNat - 'A'.toNat + 10)
    else none
  v.filter (· < base)

/-- The value of digits in a base. -/
def digitsIn? (base : Nat) (ds : List Char) : Option Nat :=
  if ds.isEmpty then none
  else ds.foldl (fun n? c => n?.bind fun n => (digitIn? base c).map (base * n + ·)) (some 0)

/-- Whether a spelling is digits with a needless zero in front. -/
def isPadded (s : String) : Bool :=
  match (Numeral.sign s.toList).2 with
  | '0' :: d :: ds => (d :: ds).all Char.isDigit
  | _ => false

/-- The integer that is spelled; what does not fit 128 bits is no integer. -/
def integer? (s : String) : Option Int :=
  if isPadded s then none
  else
    let (negative, cs) := Numeral.sign s.toList
    let (base, ds) := digits cs
    ((digitsIn? base ds).map fun n => if negative then -(n : Int) else (n : Int)).filter
      fun n => -Int.ofNat (Nat.pow 2 127) ≤ n && n < Int.ofNat (Nat.pow 2 128)

/-- The float that is spelled. -/
def float? (s : String) : Option Float :=
  if isPadded s then none
  else if s ∈ [".inf", ".Inf", ".INF", "+.inf", "+.Inf", "+.INF"] then some (1.0 / 0.0)
  else if s ∈ ["-.inf", "-.Inf", "-.INF"] then some (-1.0 / 0.0)
  else if s ∈ [".nan", ".NaN", ".NAN"] then some (0.0 / 0.0)
  else (Numeral.float? s).filter Float.isFinite

/-- Whether a spelling is a text and nothing else. -/
def isText (s : String) : Bool :=
  !isNull s && (bool? s).isNone && (integer? s).isNone && (float? s).isNone && !isPadded s

end Interchange.Plain
