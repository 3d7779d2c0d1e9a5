import Interchange.Path.Access
import Interchange.Proofs.Outcome
import Interchange.Proofs.Table
import Interchange.Record.Reader
/-!
# Values in order

An object keeps its members by key, each key once, and so does every object inside of it.  Such a
value is determined by what is read from it, and it is the same value when it is stored and read
again.

* `Value.InOrder` — the objects of a value keep their members by key.
* `Value.InOrder.get?` — what stands in a value in order is in order.
* `Reader.inOrder_value`, `Reader.value_ofValue` — values are read in order, and those are read
  back.
-/

namespace Interchange

namespace Value

mutual

/-- **A value is in order** if each of its objects has its members in the order of keys, each key
once. -/
def InOrder : Value → Prop
  | null | bool _ | num _ | str _ => True
  | list items => ItemsInOrder items
  | obj members => Table.Sorted members ∧ MembersInOrder members

/-- All items are in order. -/
def ItemsInOrder : List Value → Prop
  | [] => True
  | v :: vs => v.InOrder ∧ ItemsInOrder vs

/-- The values of all members are in order. -/
def MembersInOrder : List (String × Value) → Prop
  | [] => True
  | m :: ms => m.2.InOrder ∧ MembersInOrder ms

end

mutual

/-- Whether a value is in order can be computed. -/
def decideInOrder : (v : Value) → Decidable v.InOrder
  | null | bool _ | num _ | str _ => isTrue trivial
  | list items => decideItemsInOrder items
  | obj members =>
    have := decideMembersInOrder members
    inferInstanceAs (Decidable (Table.Sorted members ∧ MembersInOrder members))

/-- Whether items are in order can be decided, one after the other. -/
def decideItemsInOrder : (items : List Value) → Decidable (ItemsInOrder items)
  | [] => isTrue trivial
  | v :: vs =>
    have := decideInOrder v
    have := decideItemsInOrder vs
    inferInstanceAs (Decidable (v.InOrder ∧ ItemsInOrder vs))

/-- So it can for the values of members. -/
def decideMembersInOrder : (members : List (String × Value)) → Decidable (MembersInOrder members)
  | [] => isTrue trivial
  | (_, v) :: ms =>
    have := decideInOrder v
    have := decideMembersInOrder ms
    inferInstanceAs (Decidable (v.InOrder ∧ MembersInOrder ms))

end

instance (v : Value) : Decidable v.InOrder := decideInOrder v

variable {v c : Value} {s : String} {segments : List String}

/-- Items are in order if each of them is, -/
theorem itemsInOrder_iff {items : List Value} : ItemsInOrder items ↔ ∀ v ∈ items, v.InOrder := by
  induction items with
  | nil => exact iff_of_true trivial (List.forall_mem_nil _)
  | cons v vs ih => rw [ItemsInOrder, ih, List.forall_mem_cons]

/-- and so are the values of members. -/
theorem membersInOrder_iff {ms : List (String × Value)} :
    MembersInOrder ms ↔ ∀ m ∈ ms, m.2.InOrder := by
  induction ms with
  | nil => exact iff_of_true trivial (List.forall_mem_nil _)
  | cons m ms ih => rw [MembersInOrder, ih, List.forall_mem_cons]

/-- What stands one segment down in a value in order is in order. -/
theorem InOrder.child? (ordered : v.InOrder) (present : v.child? s = some c) : c.InOrder := by
  cases v with
  | obj ms => exact membersInOrder_iff.mp ordered.2 _ (Table.mem_of_get? present)
  | list items =>
      obtain ⟨i, -, found⟩ := Option.bind_eq_some_iff.mp present
      exact itemsInOrder_iff.mp ordered _ (List.mem_of_getElem? found)
  | _ => cases present

/-- **What stands in a value in order** is in order. -/
theorem InOrder.get? (ordered : v.InOrder) (held : v.get? segments = some c) : c.InOrder := by
  induction segments generalizing v with
  | nil =>
      cases held
      exact ordered
  | cons s rest ih =>
      obtain ⟨below, present, held⟩ := Option.bind_eq_some_iff.mp held
      exact ih (ordered.child? present) held

end Value

namespace Reader

/-! ### Reading values -/

open Value

/-- A number has no members. -/
theorem inOrder_ofFloat (x : Float) : (Value.ofFloat x).InOrder := by
  rw [Value.ofFloat]
  cases Number.ofFloat? x <;> trivial

/-- The value of a scalar without quotes is no object. -/
theorem inOrder_plainValue {s : String} {v : Value} (read : plainValue s = .ok v) : v.InOrder := by
  rw [plainValue] at read
  repeat' split at read
  all_goals cases read
  all_goals first | trivial | exact inOrder_ofFloat _

mutual

/-- **Values are read in order**, whatever the order of members in the document. -/
theorem inOrder_value : ∀ {n : Shape} {v : Value}, value n = .ok v → v.InOrder
  | .null, v, read | .bool _, v, read | .num _, v, read | .str _, v, read => by
    cases read
    trivial
  | .plain _, v, read => inOrder_plainValue read
  | .list ns, v, read => by
    obtain ⟨vs, items, made⟩ := bind_eq_ok.mp read
    cases made
    exact itemsInOrder_iff.mpr (inOrder_valueItems items)
  | .map ms, v, read => by
    obtain ⟨ws, members, made⟩ := bind_eq_ok.mp read
    cases made
    exact ⟨Table.sorted_ofList ws, membersInOrder_iff.mpr fun m member =>
      inOrder_valueMembers members m (Table.mem_of_mem_ofList member)⟩
  | .unreadable, v, read | .broken, v, read => by cases read

/-- What is read as the items of a list is in order, -/
theorem inOrder_valueItems : ∀ {ns : List Shape} {vs : List Value}, valueItems ns = .ok vs →
    ∀ v ∈ vs, v.InOrder
  | [], vs, read => by
    cases read
    exact List.forall_mem_nil _
  | n :: ns, vs, read => by
    obtain ⟨w, first, read⟩ := bind_eq_ok.mp read
    obtain ⟨ws, rest, made⟩ := bind_eq_ok.mp read
    cases made
    exact List.forall_mem_cons.mpr ⟨inOrder_value first, inOrder_valueItems rest⟩

/-- and so are the values of what is read as the members of an object. -/
theorem inOrder_valueMembers : ∀ {ns : List (String × Shape)} {ms : List (String × Value)},
    valueMembers ns = .ok ms → ∀ m ∈ ms, m.2.InOrder
  | [], ms, read => by
    cases read
    exact List.forall_mem_nil _
  | (k, n) :: ns, ms, read => by
    obtain ⟨w, first, read⟩ := bind_eq_ok.mp read
    obtain ⟨ws, rest, made⟩ := bind_eq_ok.mp read
    cases made
    exact List.forall_mem_cons.mpr ⟨inOrder_value first, inOrder_valueMembers rest⟩

end

mutual

/-- **A value in order is read back** from its shape. -/
theorem value_ofValue : ∀ {v : Value}, v.InOrder → value (.ofValue v) = .ok v
  | .null, _ | .bool _, _ | .num _, _ | .str _, _ => rfl
  | .list items, ordered => by
    rw [Shape.ofValue, value, valueItems_ofItems ordered]
    rfl
  | .obj ms, ordered => by
    rw [Shape.ofValue, value, valueMembers_ofMembers ordered.2]
    exact congrArg (fun ms => Except.ok (obj ms)) ordered.1.ofList

/-- Items in order are read as they are, -/
theorem valueItems_ofItems : ∀ {items : List Value}, ItemsInOrder items →
    valueItems (Shape.ofItems items) = .ok items
  | [], _ => rfl
  | v :: vs, ordered => by
    rw [Shape.ofItems, valueItems, value_ofValue ordered.1, valueItems_ofItems ordered.2]
    rfl

/-- and so are the values of members. -/
theorem valueMembers_ofMembers : ∀ {ms : List (String × Value)}, MembersInOrder ms →
    valueMembers (Shape.ofMembers ms) = .ok ms
  | [], _ => rfl
  | (k, v) :: ms, ordered => by
    rw [Shape.ofMembers, valueMembers, value_ofValue ordered.1, valueMembers_ofMembers ordered.2]
    rfl

end

end Reader

end Interchange
