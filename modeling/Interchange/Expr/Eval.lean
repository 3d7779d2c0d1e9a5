import Interchange.Expr.Tree
/-!
# Evaluation of expression trees

Arithmetic is that of binary64, on scalars that denote numbers.  `+` joins as soon as one side is a
text.  Comparisons are numeric if both sides denote numbers, else by the texts of the sides.
`&&` and `||` look at their right side only if they have to and give truth values.

* `Tree.eval` — the scalar of a tree.
-/

namespace Interchange.Expr

/-- The number of a scalar that has to be one. -/
def numeric (s : Scalar) : Except Fault Float :=
  match s.number? with
  | some x => .ok x
  | none => .error (.notANumber s)

/-- The order of two floats; none with a NaN. -/
def floatOrder? (x y : Float) : Option Ordering :=
  if x < y then some .lt
  else if x == y then some .eq
  else if y < x then some .gt
  else none

/-- The order of two texts by code points. -/
def textOrder (s t : String) : Ordering :=
  if s < t then .lt else if s = t then .eq else .gt

/-- The order of two scalars. -/
def order? (l r : Scalar) : Option Ordering :=
  match l.number?, r.number? with
  | some x, some y => floatOrder? x y
  | _, _ => some (textOrder l.display r.display)

/-- Equality of scalars: null equals null alone, texts and truth values their like, and all else is
compared as numbers if possible, else as texts. -/
def looselyEqual : Scalar → Scalar → Bool
  | .null, .null => true
  | .null, _ | _, .null => false
  | .text a, .text b => a == b
  | .bool a, .bool b => a == b
  | l, r =>
    match l.number?, r.number? with
    | some x, some y => x == y
    | _, _ => l.display == r.display

/-- Applies an operation to the numbers of two scalars, the left one being read first. -/
def arithmetic (f : Float → Float → Float) (l r : Scalar) : Except Fault Scalar := do
  let x ← numeric l
  let y ← numeric r
  return .number (f x y)

/-- Applies a division, whose divisor is read first and must not be zero. -/
def division (f : Float → Float → Float) (l r : Scalar) : Except Fault Scalar := do
  let y ← numeric r
  if y == 0.0 then .error .divisionByZero
  else
    let x ← numeric l
    return .number (f x y)

/-- Compares two scalars; where there is no order the comparison does not hold. -/
def comparison (p : Ordering → Bool) (l r : Scalar) : Scalar := .bool ((order? l r).any p)

/-- The sum of two numbers, or the text of one side followed by that of the other. -/
def sum : Scalar → Scalar → Except Fault Scalar
  | .text a, r => .ok (.text (a ++ r.display))
  | l, .text b => .ok (.text (l.display ++ b))
  | l, r => arithmetic (· + ·) l r

/-- Applies a binary operator to two scalars. -/
def BinaryOp.apply (op : BinaryOp) (l r : Scalar) : Except Fault Scalar :=
  match op with
  | .add => sum l r
  | .sub => arithmetic (· - ·) l r
  | .mul => arithmetic (· * ·) l r
  | .div => division (· / ·) l r
  | .rem => division Binary64.remainder l r
  | .less => .ok (comparison Ordering.isLT l r)
  | .lessEqual => .ok (comparison Ordering.isLE l r)
  | .greater => .ok (comparison Ordering.isGT l r)
  | .greaterEqual => .ok (comparison Ordering.isGE l r)
  | .equal => .ok (.bool (looselyEqual l r))
  | .notEqual => .ok (.bool (!looselyEqual l r))
  | .and => .ok (.bool (l.truthy && r.truthy))
  | .or => .ok (.bool (l.truthy || r.truthy))

/-- Applies a unary operator to a scalar. -/
def UnaryOp.apply (op : UnaryOp) (s : Scalar) : Except Fault Scalar :=
  match op with
  | .not => .ok (.bool (!s.truthy))
  | .neg => (numeric s).map fun x => .number (-x)
  | .plus => (numeric s).map .number

/-- The scalar of a tree. -/
def Tree.eval (b : Bindings) : Tree → Except Fault Scalar
  | .literal s => .ok s
  | .name s =>
    match b.get? s with
    | some x => .ok x
    | none => .error (.unbound s)
  | .unary op t => do op.apply (← t.eval b)
  | .binary .and l r => do
    let x ← l.eval b
    if x.truthy then return .bool (← r.eval b).truthy else return .bool false
  | .binary .or l r => do
    let x ← l.eval b
    if x.truthy then return .bool true else return .bool (← r.eval b).truthy
  | .binary op l r => do
    let x ← l.eval b
    let y ← r.eval b
    op.apply x y

end Interchange.Expr
