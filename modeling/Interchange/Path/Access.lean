import Interchange.Number.Numeral
import Interchange.Path.Segments
import Interchange.Value.Basic
/-!
# Reading and writing at a path

A segment names a member of an object, or an item of a list if it is an index.  Reading stops at
the first segment that names nothing.  Writing makes what is missing: a scalar or a missing value
in the way becomes an object, and a list is filled up with nulls to the index that is written.  A
list that is entered by a segment which is no index becomes an object.

A write reaches for an item of each list that it enters, and there is no document if the item lies
outside of the list.  `set` is the document that a write makes; `trySet` makes it with every such
access checked, and tells of the first that fails.

* `Value.get?`, `Value.set`, `Value.trySet`, `Value.remove` — on a list of segments.
* `Value.at?`, `Value.present?`, `Value.write`, `Value.tryWrite`, `Value.take` — on a path text.
* `Value.flatten` — every scalar of a document under the keys and indices that lead to it.
* `Value.merge` — writes one document over another, object by object.
-/

namespace Interchange

/-- The index that a segment denotes. -/
def Path.index? (segment : String) : Option Nat := Numeral.natural? segment

namespace Value

/-- The value one segment further down. -/
def child? (segment : String) : Value → Option Value
  | obj ms => Table.get? segment ms
  | list items => (Path.index? segment).bind fun i => items[i]?
  | _ => none

/-- The value that the segments lead to. -/
def get? (v : Value) : List String → Option Value
  | [] => some v
  | s :: segments => (v.child? s).bind fun c => get? c segments

/-- The length of a list after it was filled up to an index.  Lengths are 64-bit words, so there
is none that covers the greatest index. -/
def lengthFor (index : Nat) : Nat := (UInt64.ofNat index + 1).toNat

/-- Cuts or fills a list with nulls to a length. -/
def resize (items : List Value) (length : Nat) : List Value :=
  items.take length ++ List.replicate (length - items.length) null

/-- Fills a list up so that it has an item at an index. -/
def pad (items : List Value) (index : Nat) : List Value :=
  if index < items.length then items else resize items (lengthFor index)

/-- Writes a value one segment down. -/
def put (v : Value) (segment : String) (x : Value) : Value :=
  match v with
  | list items =>
    match Path.index? segment with
    | some i => list ((pad items i).set i x)
    | none => obj [(segment, x)]
  | obj ms => obj (Table.put segment x ms)
  | _ => obj [(segment, x)]

/-- The container that writing enters by a segment: the one that is there, or an empty object. -/
def enter (v : Value) (segment : String) : Value :=
  match v.child? segment with
  | some c => if c.isContainer then c else empty
  | none => empty

/-- Writes a value at the place that the segments lead to. -/
def set (v : Value) (segments : List String) (x : Value) : Value :=
  match segments with
  | [] => x
  | [s] => v.put s x
  | s :: rest => v.put s (set (v.enter s) rest x)

/-- An access to an item that lies outside of its list. -/
structure OutOfBounds where
  index : Nat
  length : Nat
deriving DecidableEq

/-- The wording of a failed access. -/
def OutOfBounds.message (e : OutOfBounds) : String :=
  s!"index out of bounds: the len is {e.length} but the index is {e.index}"

/-- An item that a write reaches for: the list as it stands, and the index. -/
structure Site where
  items : List Value
  index : Nat

/-- The access to an item, for which its list was filled up. -/
def Site.access (t : Site) : Except OutOfBounds Unit :=
  let length := (pad t.items t.index).length
  if t.index < length then .ok () else .error ⟨t.index, length⟩

/-- The item that a write reaches for one segment down, if it enters a list by an index. -/
def site? (v : Value) (segment : String) : Option Site :=
  match v with
  | list items => (Path.index? segment).map fun i => ⟨items, i⟩
  | _ => none

/-- The access that a write makes when it goes down by a segment. -/
def reach (v : Value) (segment : String) : Except OutOfBounds Unit :=
  match v.site? segment with
  | some t => t.access
  | none => .ok ()

/-- Writes a value at the place that the segments lead to, with the access to each item on the way
checked. -/
def trySet (v : Value) (segments : List String) (x : Value) : Except OutOfBounds Value :=
  match segments with
  | [] => .ok x
  | s :: rest => do
    v.reach s
    return v.put s (← trySet (v.enter s) rest x)

/-- The document without the value one segment down. -/
def drop (v : Value) (segment : String) : Value :=
  match v with
  | obj ms => obj (Table.erase segment ms)
  | list items =>
    match Path.index? segment with
    | some i => list (items.eraseIdx i)
    | none => list items
  | v => v

/-- Takes out the value that the segments lead to; the answer is that value, if there is one, and
the document without it. -/
def remove (v : Value) (segments : List String) : Option Value × Value :=
  match segments with
  | [] => (none, v)
  | [s] =>
    match v.child? s with
    | some c => (some c, v.drop s)
    | none => (none, v)
  | s :: rest =>
    match v.child? s with
    | some c =>
      match remove c rest with
      | (some x, c) => (some x, v.put s c)
      | (none, _) => (none, v)
    | none => (none, v)

/-- The value at a path. -/
def at? (v : Value) (path : String) : Option Value := v.get? (Path.segments path)

/-- The value at a path, if it is there and not null. -/
def present? (v : Value) (path : String) : Option Value := (v.at? path).filter fun x => !x.isNull

/-- Writes a value at a path; at the empty path it becomes the document. -/
def write (v : Value) (path : String) (x : Value) : Value := v.set (Path.segments path) x

/-- Writes a value at a path, with each access checked. -/
def tryWrite (v : Value) (path : String) (x : Value) : Except OutOfBounds Value :=
  v.trySet (Path.segments path) x

/-- Takes out the value at a path. -/
def take (v : Value) (path : String) : Option Value × Value := v.remove (Path.segments path)

/-- The name of a place below a named one. -/
def joinName (lead : Option String) (key : String) : String :=
  match lead with
  | some name => name ++ "_" ++ key
  | none => key

mutual

/-- Appends the scalars of a document to names made so far; `lead` is the name of the place. -/
def flattenFrom (lead : Option String) : Value → List (String × Value)
  | list items => flattenItems lead 0 items
  | obj ms => flattenMembers lead ms
  | scalar =>
    match lead with
    | some name => [(name, scalar)]
    | none => []

/-- The named scalars below the items of a list, from an index on. -/
def flattenItems (lead : Option String) (index : Nat) : List Value → List (String × Value)
  | [] => []
  | v :: vs =>
    flattenFrom (some (joinName lead (toString index))) v ++ flattenItems lead (index + 1) vs

/-- The named scalars below the members of an object. -/
def flattenMembers (lead : Option String) : List (String × Value) → List (String × Value)
  | [] => []
  | (k, v) :: ms => flattenFrom (some (joinName lead k)) v ++ flattenMembers lead ms

end

/-- The scalars of a document, named by their keys and indices joined with `_`.  A document that is
itself a scalar has no name and is left out. -/
def flatten (v : Value) : List (String × Value) := flattenFrom none v

mutual

/-- Writes `patch` over a document: objects are merged key by key, all else is replaced. -/
def merge : (target patch : Value) → Value
  | obj target, obj patch => obj (mergeMembers target patch)
  | _, patch => patch

/-- Writes the members of a patch over those of an object, in their order. -/
def mergeMembers : (target patch : List (String × Value)) → List (String × Value)
  | target, [] => target
  | target, (k, p) :: patch =>
    let merged :=
      match Table.get? k target with
      | some t => if t.isObject then merge t p else p
      | none => p
    mergeMembers (Table.put k merged target) patch

end

end Value

end Interchange
