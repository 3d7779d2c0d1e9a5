import Interchange.Number.Shortest
/-!
# Layouts of floating-point text

One record value per place where a floating-point number is written.  All of them write the
shortest digits; they differ in which numbers are written with an exponent, in the form of the
exponent, in whether an integral number keeps `.0`, and in the names of the values that are not
finite.
-/

namespace Interchange

/-- How a floating-point number is written. -/
structure FloatLayout where
  /-- The smallest power of ten of a leading digit that is written without an exponent. -/
  least : Option Int
  /-- The greatest power of ten of a leading digit that is written without an exponent. -/
  greatest : Option Int
  /-- Whether a number without fraction, written without an exponent, ends in `.0`. -/
  pointZero : Bool
  /-- Whether a positive exponent carries a sign. -/
  plus : Bool
  nan : String
  infinity : String
deriving Repr, DecidableEq

namespace FloatLayout

/-- Numbers in JSON text: `1200.5`, `100.0`, `1e+16`, `0.00001`, `1e-6`. -/
def json : FloatLayout := ⟨some (-5), some 15, true, true, "NaN", "inf"⟩

/-- Numbers inside messages and texts: never an exponent, no forced fraction. -/
def plain : FloatLayout := ⟨none, none, false, false, "NaN", "inf"⟩

/-- Numbers inside a message that shows a token: `1.0`, `1e16`, `1e-5`. -/
def token : FloatLayout := ⟨some (-4), some 15, true, false, "NaN", "inf"⟩

/-- Numbers in YAML text: `1.0`, `1e16`, `.inf`. -/
def yaml : FloatLayout := ⟨some (-5), some 15, true, false, ".nan", ".inf"⟩

end FloatLayout

/-- Writes the digits of a decimal without an exponent; `e` is the power of ten of the first. -/
def positional (pointZero : Bool) (digits : List Char) (e : Int) : List Char :=
  if e < 0 then
    '0' :: '.' :: (List.replicate (-e - 1).toNat '0' ++ digits)
  else
    let whole := (e + 1).toNat
    if digits.length ≤ whole then
      digits ++ List.replicate (whole - digits.length) '0' ++ (if pointZero then ['.', '0'] else [])
    else
      digits.take whole ++ '.' :: digits.drop whole

/-- Writes the digits of a decimal with an exponent. -/
def scientific (plus : Bool) (digits : List Char) (e : Int) : List Char :=
  let mantissa :=
    match digits with
    | [] => []
    | [d] => [d]
    | d :: ds => d :: '.' :: ds
  let sign := if e < 0 then ['-'] else if plus then ['+'] else []
  mantissa ++ 'e' :: sign ++ Nat.toDigits 10 e.natAbs

/-- The text of a number in a layout. -/
def FloatLayout.render (l : FloatLayout) (x : Float) : String :=
  if x.isNaN then l.nan
  else
    let sign := if Binary64.signBit x then ['-'] else []
    if x.isInf then String.ofList (sign ++ l.infinity.toList)
    else if x == 0.0 then
      String.ofList (sign ++ '0' :: (if l.pointZero then ['.', '0'] else []))
    else
      let d := Shortest.ofFloat x
      let digits := Nat.toDigits 10 d.digits
      let e := d.exponent + digits.length - 1
      let inRange := l.least.all (· ≤ e) && l.greatest.all (e ≤ ·)
      let body := if inRange then positional l.pointZero digits e else scientific l.plus digits e
      String.ofList (sign ++ body)

end Interchange
