import Interchange.Proofs.Path.Leaves
import Interchange.Proofs.Value.InOrder
import Mathlib.Data.List.Basic
/-!
# The places of leaves

Different places may have the same name when their keys and indices are joined, and so it is by
their places that the leaves of a document are told apart.  The value in a place is found on the way
down by its turns, with no look at the list of leaves.  That the list has each scalar in its place
is told turn by turn, and here it matters that no key stands twice in an object: the second member
of that name would be listed and never be found.

* `Value.standing?` — the value in a place.
* `Value.mem_leaves_iff` — a leaf is listed in every place where a scalar stands, and nowhere else.
* `Value.pairwise_leaves` — the leaves are listed by their places, in the order of the document.
* `Value.flatten_lists` — a flattened document lists every leaf once, under the name of its place.
-/

namespace Interchange

namespace Path

/-- **Which turn comes first** in a document: members stand by their keys, and items by their
indices. -/
inductive Turn.Before : Turn → Turn → Prop
  | key {k l : String} (less : k < l) : Before (key k) (key l)
  | index {i j : Nat} (less : i < j) : Before (index i) (index j)

theorem Turn.Before.irrefl (t : Turn) : ¬ t.Before t := by
  rintro (less | less)
  · exact String.lt_irrefl _ less
  · exact Nat.lt_irrefl _ less

/-- The order of a document: of two places, that one comes first which turns off first where they
part. -/
def Earlier (p q : List Turn) : Prop := List.Lex Turn.Before p q

theorem Earlier.ne {p q : List Turn} (earlier : Earlier p q) : p ≠ q := by
  rintro rfl
  exact List.lex_irrefl Turn.Before.irrefl p earlier

end Path

namespace Value

/-- The value behind a turn. -/
def behind? : Path.Turn → Value → Option Value
  | .key k, obj ms => Table.get? k ms
  | .index i, list items => items[i]?
  | _, _ => none

/-- **The value in a place.** -/
def standing? (v : Value) : List Path.Turn → Option Value
  | [] => some v
  | t :: place => (v.behind? t).bind fun c => c.standing? place

/-! ### Leaves and their places -/

variable {v x : Value} {place : List Path.Turn}

theorem mem_itemLeaves_iff {i : Nat} {items : List Value} :
    (place, x) ∈ itemLeaves i items ↔
      ∃ j c rest, items[j]? = some c ∧ (rest, x) ∈ c.leaves ∧ place = .index (i + j) :: rest := by
  induction items generalizing i with
  | nil => simp [itemLeaves]
  | cons v vs ih =>
      rw [itemLeaves, List.mem_append, ih, List.mem_map]
      constructor
      · rintro (⟨l, inside, same⟩ | ⟨j, c, rest, found, inside, rfl⟩)
        · cases same
          exact ⟨0, v, l.1, rfl, inside, rfl⟩
        · exact ⟨j + 1, c, rest, found, inside, by rw [Nat.add_right_comm, Nat.add_assoc]⟩
      · rintro ⟨j, c, rest, found, inside, rfl⟩
        cases j with
        | zero =>
            cases found
            exact .inl ⟨(rest, x), inside, rfl⟩
        | succ j =>
            exact .inr ⟨j, c, rest, found, inside, by rw [Nat.add_right_comm, Nat.add_assoc]⟩

theorem leaves_of_not_container (scalar : v.isContainer = false) : v.leaves = [([], v)] := by
  cases v with
  | list items => cases scalar
  | obj ms => cases scalar
  | null | bool _ | num _ | str _ => simp [leaves]

/-- Below a container, every leaf is a turn away. -/
theorem ne_nil_of_mem_leaves (container : v.isContainer = true) {l : List Path.Turn × Value}
    (member : l ∈ v.leaves) : l.1 ≠ [] := by
  obtain ⟨place, x⟩ := l
  cases v with
  | list items =>
      rw [leaves, mem_itemLeaves_iff] at member
      obtain ⟨_, _, _, -, -, rfl⟩ := member
      exact List.cons_ne_nil _ _
  | obj ms =>
      rw [leaves, mem_memberLeaves_iff] at member
      obtain ⟨_, -, _, -, same⟩ := member
      cases same
      exact List.cons_ne_nil _ _
  | _ => cases container

/-- A leaf at no distance is the document itself. -/
theorem mem_leaves_nil : ([], x) ∈ v.leaves ↔ v = x ∧ x.isContainer = false := by
  cases container : v.isContainer with
  | false =>
      rw [leaves_of_not_container container, List.mem_singleton, Prod.mk.injEq]
      constructor
      · rintro ⟨-, rfl⟩
        exact ⟨rfl, container⟩
      · rintro ⟨rfl, -⟩
        exact ⟨rfl, rfl⟩
  | true =>
      refine iff_of_false (fun inside => ne_nil_of_mem_leaves container inside rfl) ?_
      rintro ⟨rfl, scalar⟩
      rw [container] at scalar
      cases scalar

/-- Any other leaf is one of what is behind its first turn. -/
theorem mem_leaves_cons (ordered : v.InOrder) {t : Path.Turn} :
    (t :: place, x) ∈ v.leaves ↔ ∃ c, v.behind? t = some c ∧ (place, x) ∈ c.leaves := by
  cases v with
  | list items =>
      rw [leaves, mem_itemLeaves_iff]
      constructor
      · rintro ⟨j, c, rest, found, inside, same⟩
        cases same
        exact ⟨c, by rw [behind?, Nat.zero_add, found], inside⟩
      · rintro ⟨c, found, inside⟩
        cases t with
        | key k => cases found
        | index j => exact ⟨j, c, place, found, inside, by rw [Nat.zero_add]⟩
  | obj ms =>
      rw [leaves, mem_memberLeaves_iff]
      constructor
      · rintro ⟨m, member, below, inside, same⟩
        cases same
        exact ⟨m.2, ordered.1.get?_of_mem member, inside⟩
      · rintro ⟨c, found, inside⟩
        cases t with
        | index j => cases found
        | key k => exact ⟨(k, c), Table.mem_of_get? found, (place, x), inside, rfl⟩
  | null | bool _ | num _ | str _ =>
      rw [leaves_of_not_container rfl, List.mem_singleton]
      refine iff_of_false nofun ?_
      rintro ⟨c, found, -⟩
      cases t <;> cases found

/-- What is behind a turn is in order as well. -/
theorem InOrder.behind {t : Path.Turn} {c : Value} (ordered : v.InOrder)
    (found : v.behind? t = some c) : c.InOrder := by
  cases v with
  | list items =>
      cases t with
      | key k => cases found
      | index j => exact itemsInOrder_iff.mp ordered c (List.mem_of_getElem? found)
  | obj ms =>
      cases t with
      | index j => cases found
      | key k => exact membersInOrder_iff.mp ordered.2 _ (Table.mem_of_get? found)
  | null | bool _ | num _ | str _ => cases t <;> cases found

/-- **A leaf is listed in every place where a scalar stands**, and nowhere else. -/
theorem mem_leaves_iff (ordered : v.InOrder) :
    (place, x) ∈ v.leaves ↔ v.standing? place = some x ∧ x.isContainer = false := by
  induction place generalizing v with
  | nil => rw [mem_leaves_nil, standing?, Option.some.injEq]
  | cons t place ih =>
      rw [mem_leaves_cons ordered, standing?, Option.bind_eq_some_iff]
      constructor
      · rintro ⟨c, found, inside⟩
        obtain ⟨held, scalar⟩ := (ih (ordered.behind found)).mp inside
        exact ⟨⟨c, found, held⟩, scalar⟩
      · rintro ⟨⟨c, found, held⟩, scalar⟩
        exact ⟨c, found, (ih (ordered.behind found)).mpr ⟨held, scalar⟩⟩

/-! ### Their order -/

mutual

/-- **The leaves are listed in the order of the document.** -/
theorem pairwise_leaves : ∀ {v : Value}, v.InOrder →
    v.leaves.Pairwise fun l m => Path.Earlier l.1 m.1
  | list items, ordered => by
    rw [leaves]
    exact pairwise_itemLeaves 0 ordered
  | obj ms, ordered => by
    rw [leaves]
    exact pairwise_memberLeaves ordered.1 ordered.2
  | null, _ | bool _, _ | num _, _ | str _, _ => by
    rw [leaves_of_not_container rfl]
    exact List.pairwise_singleton _ _

theorem pairwise_itemLeaves : ∀ (i : Nat) {items : List Value}, ItemsInOrder items →
    (itemLeaves i items).Pairwise fun l m => Path.Earlier l.1 m.1
  | _, [], _ => by
    rw [itemLeaves]
    exact List.Pairwise.nil
  | i, v :: vs, ordered => by
    rw [itemLeaves, List.pairwise_append]
    refine ⟨?_, pairwise_itemLeaves (i + 1) ordered.2, ?_⟩
    · exact List.pairwise_map.mpr ((pairwise_leaves ordered.1).imp .cons)
    · rintro l first ⟨place, x⟩ later
      obtain ⟨below, -, rfl⟩ := List.mem_map.mp first
      obtain ⟨j, c, rest, -, -, rfl⟩ := mem_itemLeaves_iff.mp later
      exact .rel (.index (by omega))

theorem pairwise_memberLeaves : ∀ {ms : List (String × Value)}, Table.Sorted ms →
    MembersInOrder ms → (memberLeaves ms).Pairwise fun l m => Path.Earlier l.1 m.1
  | [], _, _ => by
    rw [memberLeaves]
    exact List.Pairwise.nil
  | (k, v) :: ms, sorted, ordered => by
    rw [memberLeaves, List.pairwise_append]
    refine ⟨?_, pairwise_memberLeaves sorted.tail ordered.2, ?_⟩
    · exact List.pairwise_map.mpr ((pairwise_leaves ordered.1).imp .cons)
    · intro l first l' later
      obtain ⟨below, -, rfl⟩ := List.mem_map.mp first
      obtain ⟨other, member, rest, -, rfl⟩ := mem_memberLeaves_iff.mp later
      exact .rel (.key (sorted.head_lt _ member))

end

/-! ### The list of names -/

/-- **The leaves of a document, each once**, with their places. -/
structure Listing (v : Value) (ls : List (List Path.Turn × Value)) : Prop where
  /-- A leaf is listed in every place where a scalar stands, and nowhere else; -/
  complete : ∀ place x, (place, x) ∈ ls ↔ v.standing? place = some x ∧ x.isContainer = false
  /-- all are listed in the order of the document, -/
  inOrder : ls.Pairwise fun l m => Path.Earlier l.1 m.1
  /-- and no place is listed twice. -/
  once : (ls.map Prod.fst).Nodup

theorem listing_leaves (ordered : v.InOrder) : Listing v v.leaves where
  complete _ _ := mem_leaves_iff ordered
  inOrder := pairwise_leaves ordered
  once := List.pairwise_map.mpr ((pairwise_leaves ordered).imp Path.Earlier.ne)

/-- The leaves below a container all have names. -/
theorem flatten_eq_map (container : v.isContainer = true) :
    v.flatten = v.leaves.map fun l => (Path.nameOf l.1, l.2) := by
  rw [flatten_eq_leaves, ← List.filterMap_eq_map]
  refine List.filterMap_congr fun l member => ?_
  rw [named?, List.nil_append, Path.nameOf?, if_neg (ne_nil_of_mem_leaves container member)]
  rfl

/-- **A flattened document lists every leaf once**, in the order of the document and under the name
of its place. -/
theorem flatten_lists (container : v.isContainer = true) (ordered : v.InOrder) :
    ∃ ls, Listing v ls ∧ v.flatten = ls.map fun l => (Path.nameOf l.1, l.2) :=
  ⟨v.leaves, listing_leaves ordered, flatten_eq_map container⟩

/-- Two leaves of a quote with the same name, a null among the units, and two containers without
anything in them. -/
theorem quote_listed :
    let units := Value.list [.str "3", .null, .list []]
    let risk := Value.obj [("state", .str "CA"), ("units", units)]
    let quote := Value.obj [("fees", .obj []), ("risk", risk), ("risk_state", .bool true)]
    quote.isContainer = true ∧ quote.InOrder ∧
      quote.flatten = [("risk_state", .str "CA"), ("risk_units_0", .str "3"),
        ("risk_units_1", .null), ("risk_state", .bool true)] ∧
      ∃ ls, Listing quote ls ∧ quote.flatten = ls.map fun l => (Path.nameOf l.1, l.2) := by
  intro units risk quote
  have ordered : quote.InOrder := by decide +kernel
  exact ⟨rfl, ordered, by decide +kernel, flatten_lists rfl ordered⟩

end Value

end Interchange
