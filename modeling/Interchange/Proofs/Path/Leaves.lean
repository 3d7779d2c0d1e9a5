import Interchange.Path.Access
import Interchange.Text.Pieces
/-!
# The leaves of a document and their names

A place in a document is known by the turns on the way down to it: the key of a member, or the index
of an item.  The leaves of a document are its scalars with their places.  A document is flattened on
its way down, where the name of a place is made of the name of the place above it; so the names of
its leaves are the texts of their turns, joined.

* `Path.nameOf?` — the name of a place.
* `Value.leaves` — every scalar of a document with its place.
* `Value.isContainer_of_mem_leaves` — leaves are scalars.
* `Value.flatten_eq_leaves` — a flattened document is its leaves, in their order, with their names.
-/

namespace Interchange

namespace Path

/-- **A turn on the way down** into a document: to the member under a key, or to the item at an
index. -/
inductive Turn
  | key (key : String)
  | index (i : Nat)
deriving DecidableEq

/-- The text of a turn in names. -/
def Turn.text : Turn → String
  | key k => k
  | index i => toString i

/-- **The name of a place**: the texts of its turns, joined with `_`. -/
def nameOf (place : List Turn) : String := Text.join "_" (place.map Turn.text)

/-- The name of a place, if it has one: where no turn leads to is the document itself. -/
def nameOf? (place : List Turn) : Option String :=
  if place = [] then none else some (nameOf place)

theorem nameOf?_concat (place : List Turn) (t : Turn) :
    nameOf? (place ++ [t]) = some (Value.joinName (nameOf? place) t.text) := by
  cases place with
  | nil => simp [nameOf?, nameOf, Text.join, Value.joinName]
  | cons u place =>
      have deep : (u :: place).map Turn.text ≠ [] := by simp
      rw [nameOf?, nameOf?, if_neg (by simp), if_neg (by simp), nameOf, List.map_append, Text.join,
        String.intercalate_append_of_ne_nil deep (by simp), List.map_singleton,
        String.intercalate_singleton]
      rfl

end Path

namespace Value

mutual

/-- **The leaves of a document**: its scalars in its order, each with its place. -/
def leaves : Value → List (List Path.Turn × Value)
  | list items => itemLeaves 0 items
  | obj ms => memberLeaves ms
  | scalar => [([], scalar)]

/-- The leaves below the items of a list, from an index on. -/
def itemLeaves (i : Nat) : List Value → List (List Path.Turn × Value)
  | [] => []
  | v :: vs => (leaves v).map (fun l => (.index i :: l.1, l.2)) ++ itemLeaves (i + 1) vs

/-- The leaves below the members of an object. -/
def memberLeaves : List (String × Value) → List (List Path.Turn × Value)
  | [] => []
  | (k, v) :: ms => (leaves v).map (fun l => (.key k :: l.1, l.2)) ++ memberLeaves ms

end

/-- The leaves below the members of an object are those of their values. -/
theorem mem_memberLeaves_iff {ms : List (String × Value)} {l : List Path.Turn × Value} :
    l ∈ memberLeaves ms ↔ ∃ m ∈ ms, ∃ below ∈ m.2.leaves, (.key m.1 :: below.1, below.2) = l := by
  induction ms with
  | nil => simp [memberLeaves]
  | cons m ms ih =>
      rw [memberLeaves, List.mem_append, List.mem_map, ih]
      simp only [List.mem_cons, or_and_right, exists_or, exists_eq_left]

mutual

/-- **Leaves are scalars.** -/
theorem isContainer_of_mem_leaves : ∀ {v : Value}, ∀ l ∈ v.leaves, l.2.isContainer = false
  | list items, l, member => isContainer_of_mem_itemLeaves l (by rwa [leaves] at member)
  | obj ms, l, member => isContainer_of_mem_memberLeaves l (by rwa [leaves] at member)
  | null, l, member | bool _, l, member | num _, l, member | str _, l, member => by
    rw [leaves, List.mem_singleton] at member
    · rw [member]
      rfl
    all_goals nofun

theorem isContainer_of_mem_itemLeaves : ∀ {i : Nat} {items : List Value},
    ∀ l ∈ itemLeaves i items, l.2.isContainer = false
  | _, [], l, member => by simp [itemLeaves] at member
  | _, v :: vs, l, member => by
    rw [itemLeaves, List.mem_append, List.mem_map] at member
    rcases member with ⟨below, inside, rfl⟩ | later
    · exact isContainer_of_mem_leaves below inside
    · exact isContainer_of_mem_itemLeaves l later

theorem isContainer_of_mem_memberLeaves : ∀ {ms : List (String × Value)},
    ∀ l ∈ memberLeaves ms, l.2.isContainer = false
  | [], l, member => by simp [memberLeaves] at member
  | (k, v) :: ms, l, member => by
    rw [memberLeaves, List.mem_append, List.mem_map] at member
    rcases member with ⟨below, inside, rfl⟩ | later
    · exact isContainer_of_mem_leaves below inside
    · exact isContainer_of_mem_memberLeaves l later

end

/-- A leaf below a place, with its name. -/
def named? (place : List Path.Turn) (l : List Path.Turn × Value) : Option (String × Value) :=
  (Path.nameOf? (place ++ l.1)).map fun name => (name, l.2)

theorem named?_concat (place : List Path.Turn) (t : Path.Turn) :
    named? (place ++ [t]) = named? place ∘ fun l => (t :: l.1, l.2) := by
  funext l
  rw [Function.comp_apply, named?, named?, List.append_assoc, List.singleton_append]

mutual

/-- Below a place, the leaves are listed under the names of their places. -/
theorem flattenFrom_nameOf? (place : List Path.Turn) :
    ∀ v : Value, flattenFrom (Path.nameOf? place) v = v.leaves.filterMap (named? place)
  | list items => by rw [flattenFrom, leaves, flattenItems_nameOf?]
  | obj ms => by rw [flattenFrom, leaves, flattenMembers_nameOf?]
  | null | bool _ | num _ | str _ => by
    cases name : Path.nameOf? place <;> simp [flattenFrom, leaves, named?, name]

theorem flattenItems_nameOf? (place : List Path.Turn) : ∀ (i : Nat) (items : List Value),
    flattenItems (Path.nameOf? place) i items = (itemLeaves i items).filterMap (named? place)
  | _, [] => by rw [flattenItems, itemLeaves, List.filterMap_nil]
  | i, v :: vs => by
    have name : some (joinName (Path.nameOf? place) (toString i)) =
        Path.nameOf? (place ++ [.index i]) := (Path.nameOf?_concat place (.index i)).symm
    rw [flattenItems, itemLeaves, List.filterMap_append, List.filterMap_map, ← named?_concat,
      name, flattenFrom_nameOf? _ v, flattenItems_nameOf? place (i + 1) vs]

theorem flattenMembers_nameOf? (place : List Path.Turn) : ∀ ms : List (String × Value),
    flattenMembers (Path.nameOf? place) ms = (memberLeaves ms).filterMap (named? place)
  | [] => by rw [flattenMembers, memberLeaves, List.filterMap_nil]
  | (k, v) :: ms => by
    have name : some (joinName (Path.nameOf? place) k) = Path.nameOf? (place ++ [.key k]) :=
      (Path.nameOf?_concat place (.key k)).symm
    rw [flattenMembers, memberLeaves, List.filterMap_append, List.filterMap_map, ← named?_concat,
      name, flattenFrom_nameOf? _ v, flattenMembers_nameOf? place ms]

end

/-- **A flattened document** is its leaves, in their order, with the names of their places. -/
theorem flatten_eq_leaves (v : Value) : v.flatten = v.leaves.filterMap (named? []) :=
  flattenFrom_nameOf? [] v

end Value

end Interchange
