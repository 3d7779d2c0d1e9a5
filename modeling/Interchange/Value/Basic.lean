import Interchange.Table
/-!
# Values

The one dynamic type of the library: JSON values.  Messages, configuration fragments, lookup
entries and replies are all of this type.

A number is an integer that fits a signed or an unsigned 64-bit word, or a finite binary64 number;
`1` and `1.0` are different values.  An object is a list of members.  The operations of this module
keep the members of an object sorted by key, each key once (`Table.Sorted`); a record that is
printed in the order of its declaration uses the same type with its members in that order.

* `Value.same` — the equality of JSON values, which does not tell `0.0` from `-0.0`.
-/

namespace Interchange

/-- A JSON number. -/
inductive Number
  | int (val : Int) (inRange : -0x8000000000000000 ≤ val ∧ val < 0x10000000000000000)
  | float (val : Float) (finite : val.isFinite = true)
deriving DecidableEq

namespace Number

/-- The integer as a number, if a 64-bit word holds it. -/
def ofInt? (n : Int) : Option Number :=
  if h : -0x8000000000000000 ≤ n ∧ n < 0x10000000000000000 then some (.int n h) else none

/-- The float as a number, if it is finite. -/
def ofFloat? (x : Float) : Option Number :=
  if h : x.isFinite = true then some (.float x h) else none

/-- The nearest binary64 number. -/
def toFloat : Number → Float
  | .int n _ => Float.ofInt n
  | .float x _ => x

/-- Numeric equality within one representation; an integer never equals a float. -/
def same : Number → Number → Bool
  | .int m _, .int n _ => m == n
  | .float x _, .float y _ => x == y
  | _, _ => false

end Number

/-- A JSON value. -/
inductive Value
  | null
  | bool (b : Bool)
  | num (n : Number)
  | str (s : String)
  | list (items : List Value)
  | obj (members : List (String × Value))

instance : Inhabited Value := ⟨.null⟩

mutual

/-- Equality of values is decided member by member. -/
def Value.decEq : (a b : Value) → Decidable (a = b)
  | .null, .null => isTrue rfl
  | .bool a, .bool b => if h : a = b then isTrue (h ▸ rfl) else isFalse (by simp [h])
  | .num a, .num b => if h : a = b then isTrue (h ▸ rfl) else isFalse (by simp [h])
  | .str a, .str b => if h : a = b then isTrue (h ▸ rfl) else isFalse (by simp [h])
  | .list a, .list b =>
    match Value.decEqItems a b with
    | isTrue h => isTrue (h ▸ rfl)
    | isFalse h => isFalse (by simp [h])
  | .obj a, .obj b =>
    match Value.decEqMembers a b with
    | isTrue h => isTrue (h ▸ rfl)
    | isFalse h => isFalse (by simp [h])
  | .null, .bool _ | .null, .num _ | .null, .str _ | .null, .list _ | .null, .obj _
  | .bool _, .null | .bool _, .num _ | .bool _, .str _ | .bool _, .list _ | .bool _, .obj _
  | .num _, .null | .num _, .bool _ | .num _, .str _ | .num _, .list _ | .num _, .obj _
  | .str _, .null | .str _, .bool _ | .str _, .num _ | .str _, .list _ | .str _, .obj _
  | .list _, .null | .list _, .bool _ | .list _, .num _ | .list _, .str _ | .list _, .obj _
  | .obj _, .null | .obj _, .bool _ | .obj _, .num _ | .obj _, .str _ | .obj _, .list _ =>
    isFalse (by simp)

/-- Equality of lists of values. -/
def Value.decEqItems : (a b : List Value) → Decidable (a = b)
  | [], [] => isTrue rfl
  | [], _ :: _ | _ :: _, [] => isFalse (by simp)
  | x :: xs, y :: ys =>
    match Value.decEq x y, Value.decEqItems xs ys with
    | isTrue hx, isTrue hxs => isTrue (hx ▸ hxs ▸ rfl)
    | isFalse hx, _ => isFalse (by simp [hx])
    | _, isFalse hxs => isFalse (by simp [hxs])

/-- Equality of lists of members. -/
def Value.decEqMembers : (a b : List (String × Value)) → Decidable (a = b)
  | [], [] => isTrue rfl
  | [], _ :: _ | _ :: _, [] => isFalse (by simp)
  | (k, x) :: xs, (l, y) :: ys =>
    if hk : k = l then
      match Value.decEq x y, Value.decEqMembers xs ys with
      | isTrue hx, isTrue hxs => isTrue (hk ▸ hx ▸ hxs ▸ rfl)
      | isFalse hx, _ => isFalse (by simp [hx])
      | _, isFalse hxs => isFalse (by simp [hxs])
    else isFalse (by simp [hk])

end

instance : DecidableEq Value := Value.decEq

namespace Value

/-- The integer, if a 64-bit word holds it; else null. -/
def ofInt (n : Int) : Value := (Number.ofInt? n).elim null num

/-- A count; it stops at the largest 64-bit word. -/
def count (n : Nat) : Value := ofInt (min n 0xFFFFFFFFFFFFFFFF)

/-- The float, if it is finite; else null. -/
def ofFloat (x : Float) : Value := (Number.ofFloat? x).elim null num

/-- An object with its members in the order of keys. -/
def ofMembers (ms : List (String × Value)) : Value := obj (Table.ofList ms)

/-- The empty object. -/
def empty : Value := obj []

/-- The value of an option; nothing is null. -/
def ofOption : Option Value → Value := fun v => v.getD null

def isNull : Value → Bool
  | null => true
  | _ => false

def isObject : Value → Bool
  | obj _ => true
  | _ => false

def isContainer : Value → Bool
  | obj _ | list _ => true
  | _ => false

/-- The text of a string value. -/
def text? : Value → Option String
  | str s => some s
  | _ => none

/-- The member of an object under a key. -/
def member? (key : String) : Value → Option Value
  | obj ms => Table.get? key ms
  | _ => none

mutual

/-- Equality of JSON values: floats are compared as numbers, all else by shape. -/
def same : Value → Value → Bool
  | null, null => true
  | bool a, bool b => a == b
  | num a, num b => a.same b
  | str a, str b => a == b
  | list a, list b => sameItems a b
  | obj a, obj b => sameMembers a b
  | _, _ => false

/-- Equality of lists, item by item. -/
def sameItems : List Value → List Value → Bool
  | [], [] => true
  | x :: xs, y :: ys => same x y && sameItems xs ys
  | _, _ => false

/-- Equality of sorted members, one by one. -/
def sameMembers : List (String × Value) → List (String × Value) → Bool
  | [], [] => true
  | (k, x) :: xs, (l, y) :: ys => k == l && same x y && sameMembers xs ys
  | _, _ => false

end

end Value

end Interchange
