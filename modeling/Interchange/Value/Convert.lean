import Interchange.Number.Numeral
import Interchange.Text.Ascii
import Interchange.Text.Blank
import Interchange.Value.Text
/-!
# Conversions between values and scalars

How a value is read as a text, a number or a truth value where one of these is wanted, and how a
float becomes a value again.

* `Value.ofNumber?` — a float as a value: an integer where it is one of those that binary64 tells
  from their neighbours.
* `Value.toText`, `Value.toNumber?`, `Value.toBool` — the three readings.
-/

namespace Interchange.Value

/-- The greatest integer up to which binary64 tells all integers apart. -/
def safeInteger : Int := 0x1FFFFFFFFFFFFF

/-- A finite float as a value.  An integral one of safe size is an integer. -/
def ofNumber? (x : Float) : Option Value :=
  match Binary64.toInt? x with
  | some n =>
    if -safeInteger ≤ n ∧ n ≤ safeInteger then some (ofInt n)
    else (Number.ofFloat? x).map num
  | none => (Number.ofFloat? x).map num

/-- The text of a value: strings as they are, null as nothing, all else as compact JSON. -/
def toText : Value → String
  | str s => s
  | null => ""
  | v => v.render

/-- The number that a value denotes, if it does: a number, a truth value, or a string that holds a
numeral of a finite number between blanks. -/
def toNumber? : Value → Option Float
  | num n => some n.toFloat
  | str s => (Numeral.float? (Text.trim s)).filter Float.isFinite
  | bool b => some (if b then 1.0 else 0.0)
  | _ => none

/-- The words that say yes. -/
def affirmatives : List String := ["true", "yes", "y", "1", "on"]

/-- The truth value of a value.  A string is true if it says yes in any case; containers always
are. -/
def toBool : Value → Bool
  | bool b => b
  | num n => !(n.toFloat == 0.0)
  | str s => affirmatives.contains (Text.asciiLower (Text.trim s))
  | null => false
  | list _ | obj _ => true

end Interchange.Value
