import Interchange.Value.Basic
/-!
# Documents as they are read

A configuration text is first read for its shape alone, and then a record or a value is read off
the shape.  The shape keeps what the second reading may depend on: the order of members, repeated
keys, the spelling of scalars that were written without quotes, and the place where the text
stopped making sense.

A text that is broken somewhere still has a shape up to that place.  Since a record is read off in
the order of the text, a wrong value before the break is reported before the break is.
-/

namespace Interchange

/-- The shape of a document. -/
inductive Shape
  | null
  | bool (b : Bool)
  | num (n : Number)
  | str (s : String)
  /-- A scalar written without quotes, in a format where its type depends on what is wanted. -/
  | plain (spelling : String)
  | list (items : List Shape)
  | map (members : List (String × Shape))
  /-- Well-formed text that no value can hold: a number beyond every float, or nesting beyond the
  limit.  It may be skipped but not read. -/
  | unreadable
  /-- The text is malformed here; nothing after it was read. -/
  | broken

namespace Shape

instance : Inhabited Shape := ⟨.null⟩

mutual

/-- The shape of a value. -/
def ofValue : Value → Shape
  | .null => .null
  | .bool b => .bool b
  | .num n => .num n
  | .str s => .str s
  | .list items => .list (ofItems items)
  | .obj members => .map (ofMembers members)

/-- The shapes of the items of a list. -/
def ofItems : List Value → List Shape
  | [] => []
  | v :: vs => ofValue v :: ofItems vs

/-- The shapes of the members of an object. -/
def ofMembers : List (String × Value) → List (String × Shape)
  | [] => []
  | (k, v) :: ms => (k, ofValue v) :: ofMembers ms

end

mutual

/-- Whether the text stopped making sense inside this part. -/
def isBroken : Shape → Bool
  | .broken => true
  | .list items => anyBroken items
  | .map members => anyMemberBroken members
  | _ => false

/-- Whether an item is broken. -/
def anyBroken : List Shape → Bool
  | [] => false
  | n :: ns => isBroken n || anyBroken ns

/-- Whether a member is broken. -/
def anyMemberBroken : List (String × Shape) → Bool
  | [] => false
  | (_, n) :: ms => isBroken n || anyMemberBroken ms

end

end Shape

end Interchange
