import Interchange.Path.Access
import Interchange.Value.Convert
/-!
# Scalars and bindings

The values that an expression computes with, and the names it may use for them.  A string that
holds a numeral counts as a number.

* `Scalar` — numbers, truth values, texts and null.
* `Bindings.ofSource` — the names an expression sees: every scalar of the source document under
  its keys joined with `_`, and `value` for the value at hand.
-/

namespace Interchange.Expr

/-- A value that expressions compute with. -/
inductive Scalar
  | number (x : Float)
  | bool (b : Bool)
  | text (s : String)
  | null
deriving DecidableEq

namespace Scalar

/-- The scalar of a value that is no container. -/
def ofValue? : Value → Option Scalar
  | .null => some null
  | .bool b => some (bool b)
  | .num n => some (number n.toFloat)
  | .str s =>
    match (Numeral.float? (Text.trim s)).filter Float.isFinite with
    | some x => some (number x)
    | none => some (text s)
  | .list _ | .obj _ => none

/-- Whether the scalar counts as true: a number other than zero and NaN, a text that is not
empty. -/
def truthy : Scalar → Bool
  | number x => !(x == 0.0) && !x.isNaN
  | bool b => b
  | text s => !s.isEmpty
  | null => false

/-- The number that the scalar denotes, if it does. -/
def number? : Scalar → Option Float
  | number x => some x
  | bool b => some (if b then 1.0 else 0.0)
  | text s => Numeral.float? (Text.trim s)
  | null => none

/-- The text of the scalar. -/
def display : Scalar → String
  | number x => FloatLayout.plain.render x
  | bool b => if b then "true" else "false"
  | text s => s
  | null => "null"

/-- The scalar as a value; a number that is not finite is null. -/
def toValue : Scalar → Value
  | number x => (Value.ofNumber? x).getD .null
  | bool b => .bool b
  | text s => .str s
  | null => .null

end Scalar

/-- The scalars that names are bound to. -/
abbrev Bindings := List (String × Scalar)

namespace Bindings

/-- The scalar that a name is bound to. -/
def get? (b : Bindings) (name : String) : Option Scalar := Table.get? name b

/-- Binds a name to the scalar of a value; a container binds nothing. -/
def bind (b : Bindings) (name : String) (v : Value) : Bindings :=
  match Scalar.ofValue? v with
  | some s => Table.put name s b
  | none => b

/-- Binds names in turn. -/
def ofList (pairs : List (String × Value)) : Bindings :=
  pairs.foldl (fun b p => b.bind p.1 p.2) []

/-- The names an expression sees beside a value and its source document. -/
def ofSource (value source : Value) : Bindings :=
  (ofList source.flatten).bind "value" value

end Bindings

end Interchange.Expr
