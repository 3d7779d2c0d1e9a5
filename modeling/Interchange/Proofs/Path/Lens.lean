import Interchange.Proofs.Path.Frame
/-!
# Reading and writing as a lens

What was written at a path is read there, the last of two writes stands, and writing what is there
changes nothing.  Reading and writing go the same way: each segment names a member or an item by the
container that it meets, and a write that replaces a container, or fills one up, leaves one in which
the segment names what was written.  The only index that cannot be written is the greatest 64-bit
word, for no length of a list covers it.

* `Value.HasRoom` — a segment that can be written one step down; `Value.HasRoomAlong` on a way.
* `Value.child?_put_self`, `Value.put_put`, `Value.put_of_child?` — the laws of one step.
* `Value.StopsShortOf.set_comm` — two writes at places that do not overlap may be exchanged.
* `Value.write_isLens` — the laws of a path.
-/

namespace Interchange

namespace Value

/-! ### Filling up -/

/-- The length that a list is filled up to does not wrap around for an index that a list can
have. -/
theorem lengthFor_of_lt {index : Nat} (covered : index + 1 < Numeral.wordBound) :
    lengthFor index = index + 1 := by
  have word : index % 2 ^ 64 = index := Nat.mod_eq_of_lt (Nat.lt_of_succ_lt covered)
  rw [lengthFor, UInt64.toNat_add, UInt64.toNat_ofNat', word]
  exact Nat.mod_eq_of_lt covered

/-- A list that is filled up keeps its items, and has nulls behind them. -/
theorem pad_eq_append {index : Nat} (covered : index + 1 < Numeral.wordBound)
    (items : List Value) :
    pad items index = items ++ List.replicate (index + 1 - items.length) null := by
  rw [pad]
  split
  · next inside => rw [Nat.sub_eq_zero_of_le inside, List.replicate_zero, List.append_nil]
  · next outside =>
      rw [resize, lengthFor_of_lt covered, List.take_of_length_le (by omega)]

/-- So the index is inside of the list that was filled up. -/
theorem lt_length_pad {index : Nat} (covered : index + 1 < Numeral.wordBound)
    (items : List Value) : index < (pad items index).length := by
  rw [pad_eq_append covered, List.length_append, List.length_replicate]
  omega

/-- A list that has the item is left as it is. -/
theorem pad_of_lt {index : Nat} {items : List Value} (inside : index < items.length) :
    pad items index = items := if_pos inside

/-- A list that has the item after it was filled up was filled up with nulls to just that item. -/
theorem pad_eq_append_of_lt_length {index : Nat} {items : List Value}
    (filled : index < (pad items index).length) :
    pad items index = items ++ List.replicate (index + 1 - items.length) null := by
  rcases Nat.lt_or_ge index items.length with inside | outside
  · rw [pad_of_lt inside, Nat.sub_eq_zero_of_le inside, List.replicate_zero, List.append_nil]
  · refine pad_eq_append (Nat.lt_of_not_le fun greatest => ?_) items
    -- From the greatest word on, the length that was to cover the index is no more than it.
    have short : lengthFor index ≤ index :=
      Nat.le_of_lt_succ (Nat.lt_of_lt_of_le (UInt64.toNat_lt _) greatest)
    rw [pad, if_neg (Nat.not_lt.mpr outside), resize, List.length_append, List.length_take,
      List.length_replicate] at filled
    omega

/-! ### One step -/

/-- Whether a segment can be written: a list has no room for the greatest word as an index. -/
def HasRoom : Value → String → Prop
  | list _, s => ∀ i ∈ Path.index? s, i + 1 < Numeral.wordBound
  | _, _ => True

/-- A way that can be written: there is room for each segment in the container that writing enters
by those before it. -/
inductive HasRoomAlong : Value → List String → Prop
  | nil (v : Value) : HasRoomAlong v []
  | cons {v : Value} {s : String} {rest : List String} (room : v.HasRoom s)
      (below : HasRoomAlong (v.enter s) rest) : HasRoomAlong v (s :: rest)

/-- There is room along a way if there is room for its first segment, and along the rest in the
container that the segment enters. -/
theorem hasRoomAlong_cons {v : Value} {s : String} {rest : List String} :
    v.HasRoomAlong (s :: rest) ↔ v.HasRoom s ∧ (v.enter s).HasRoomAlong rest := by
  constructor
  · rintro (_ | ⟨room, below⟩)
    exact ⟨room, below⟩
  · rintro ⟨room, below⟩
    exact .cons room below

instance : (v : Value) → (s : String) → Decidable (v.HasRoom s)
  | list _, s => inferInstanceAs (Decidable (∀ i ∈ Path.index? s, i + 1 < Numeral.wordBound))
  | null, _ | bool _, _ | num _, _ | str _, _ | obj _, _ => isTrue trivial

instance decidableHasRoomAlong : (v : Value) → (segments : List String) →
    Decidable (v.HasRoomAlong segments)
  | v, [] => isTrue (.nil v)
  | v, s :: rest =>
    have := decidableHasRoomAlong (v.enter s) rest
    decidable_of_iff _ hasRoomAlong_cons.symm

variable {v x y : Value} {s : String} {segments : List String}

/-- Whether a list that is filled up for a segment is long enough for it: there is room for it, or
it is an index of an item. -/
def Fits : Value → String → Prop
  | list items, s => ∀ i ∈ Path.index? s, i < (pad items i).length
  | _, _ => True

/-- A segment fits where there is room for it. -/
theorem HasRoom.fits (room : v.HasRoom s) : v.Fits s := by
  cases v with
  | list items => exact fun i index => lt_length_pad (room i index) items
  | _ => trivial

/-- A segment under which something is found fits. -/
theorem fits_of_child? (present : v.child? s = some x) : v.Fits s := by
  cases v with
  | list items =>
      intro i index
      have found : items[i]? = some x := by
        rw [child?, index] at present
        exact present
      have inside := (List.getElem?_eq_some_iff.mp found).1
      rwa [pad_of_lt inside]
  | _ => trivial

/-- What is put under a segment that fits is found there. -/
theorem child?_put_of_fits (fits : v.Fits s) : (v.put s x).child? s = some x := by
  cases v with
  | obj ms => exact Table.get?_put_self s x ms
  | list items =>
      cases index : Path.index? s with
      | none => simp [put, index, child?, Table.get?]
      | some i =>
          simp only [put, child?, index, Option.bind_some]
          exact List.getElem?_set_self (fits i index)
  | _ => simp [put, child?, Table.get?]

/-- A second value under it replaces the first. -/
theorem put_put_of_fits (fits : v.Fits s) : (v.put s x).put s y = v.put s y := by
  cases v with
  | obj ms => exact congrArg obj (Table.put_put y)
  | list items =>
      cases index : Path.index? s with
      | none => simp [put, index, Table.put, Table.get?, Table.overwrite]
      | some i =>
          have filled : pad ((pad items i).set i x) i = (pad items i).set i x :=
            pad_of_lt (by rw [List.length_set]; exact fits i index)
          simp only [put, index, filled, List.set_set]
  | _ => simp [put, Table.put, Table.get?, Table.overwrite]

/-- What was written one step down is read there. -/
theorem child?_put_self (room : v.HasRoom s) (x : Value) : (v.put s x).child? s = some x :=
  child?_put_of_fits room.fits

/-- The last of two writes one step down stands. -/
theorem put_put (room : v.HasRoom s) : (v.put s x).put s y = v.put s y :=
  put_put_of_fits room.fits

/-- Writing what is there changes nothing. -/
theorem put_of_child? (present : v.child? s = some x) : v.put s x = v := by
  cases v with
  | obj ms => exact congrArg obj (Table.put_of_get? present)
  | list items =>
      obtain ⟨i, index, found⟩ := Option.bind_eq_some_iff.mp present
      obtain ⟨inside, rfl⟩ := List.getElem?_eq_some_iff.mp found
      simp only [put, index, pad_of_lt inside, List.set_getElem_self]
  | _ => cases present

/-- A value that something was put into is an object or a list, -/
theorem isContainer_put (v : Value) (s : String) (x : Value) :
    (v.put s x).isContainer = true := by
  cases v with
  | list items =>
      rw [put]
      cases Path.index? s <;> rfl
  | _ => rfl

/-! ### A way -/

/-- and so is a document that was written below its root. -/
theorem isContainer_set (v : Value) (deep : segments ≠ []) (x : Value) :
    (v.set segments x).isContainer = true := by
  cases segments with
  | nil => exact absurd rfl deep
  | cons s rest =>
      rw [set_cons]
      exact isContainer_put _ _ _

/-- Only containers have something further down. -/
theorem isContainer_of_get? (deep : segments ≠ []) (held : v.get? segments = some x) :
    v.isContainer = true := by
  cases segments with
  | nil => exact absurd rfl deep
  | cons s rest => cases v <;> first | rfl | cases held

/-- A container is found only below containers. -/
theorem isContainer_of_get?_container (held : v.get? segments = some x)
    (container : x.isContainer = true) : v.isContainer = true := by
  cases segments with
  | nil =>
      cases held
      exact container
  | cons s rest => exact isContainer_of_get? (by simp) held

/-- A write enters the container that it finds, and makes none. -/
theorem enter_of_child? (present : v.child? s = some x) (container : x.isContainer = true) :
    v.enter s = x := by
  simp only [enter, present, container, if_true]

/-- Writing goes on in what stands below, if the place that is written is there. -/
theorem set_cons_of_child? {rest : List String} {c : Value} (present : v.child? s = some c)
    (held : c.get? rest = some x) (y : Value) : v.set (s :: rest) y = v.put s (c.set rest y) := by
  rw [set_cons]
  cases rest with
  | nil => rfl
  | cons t rest => rw [enter_of_child? present (isContainer_of_get? (by simp) held)]

/-- What writing enters again is what a write left behind. -/
theorem enter_put_self {v : Value} {s : String} {segments : List String} (room : v.HasRoom s)
    (deep : segments ≠ []) (w x : Value) :
    (v.put s (w.set segments x)).enter s = w.set segments x :=
  enter_of_child? (child?_put_self room _) (isContainer_set w deep x)

/-- **A read after a write** gives what was written. -/
theorem get?_set_self (room : v.HasRoomAlong segments) (x : Value) :
    (v.set segments x).get? segments = some x := by
  induction room with
  | nil v => rfl
  | cons room _ ih => rw [set_cons, get?, child?_put_self room, Option.bind_some, ih]

/-- **The last of two writes** stands. -/
theorem set_set (room : v.HasRoomAlong segments) (x y : Value) :
    (v.set segments x).set segments y = v.set segments y := by
  induction room with
  | nil v => rfl
  | @cons v s rest room _ ih =>
      have again : ((v.put s ((v.enter s).set rest x)).enter s).set rest y =
          (v.enter s).set rest y := by
        cases rest with
        | nil => rfl
        | cons t rest =>
            rw [enter_put_self room (by simp), ih]
      rw [set_cons, set_cons, again, put_put room, set_cons]

/-- **Writing what is there** changes nothing. -/
theorem set_of_get? (held : v.get? segments = some x) : v.set segments x = v := by
  induction segments generalizing v with
  | nil =>
      cases held
      rfl
  | cons s rest ih =>
      obtain ⟨c, present, below⟩ := Option.bind_eq_some_iff.mp held
      rw [set_cons_of_child? present below, ih below, put_of_child? present]

/-- Another member is entered as before. -/
theorem enter_put_of_ne {ms : List (String × Value)} {s t : String} (ne : t ≠ s) (x : Value) :
    ((obj ms).put s x).enter t = (obj ms).enter t := by
  simp only [enter, put, child?, Table.get?_put_of_ne ne]

/-- **Two writes at places that do not overlap** may be exchanged in a document that ends before
both. -/
theorem StopsShortOf.set_comm {p q : List String} (apart : ¬ Path.Overlap p q) (x y : Value) :
    ∀ {v : Value}, v.StopsShortOf p → v.StopsShortOf q →
      (v.set p x).set q y = (v.set q y).set p x := by
  induction p generalizing q with
  | nil => exact absurd Path.overlap_nil_left apart
  | cons s p ih =>
      intro v shortP shortQ
      obtain ⟨ms, rfl⟩ := shortP.exists_obj
      cases q with
      | nil => exact absurd Path.overlap_nil_right apart
      | cons t q =>
          by_cases same : s = t
          · -- Both writes enter the same object, in which they may be exchanged.
            subst same
            rw [Path.overlap_cons_iff] at apart
            have deepP : p ≠ [] := fun root => apart (root ▸ Path.overlap_nil_left)
            have deepQ : q ≠ [] := fun root => apart (root ▸ Path.overlap_nil_right)
            have room : (obj ms).HasRoom s := trivial
            have below := ih apart (shortP.enter deepP).1 (shortQ.enter deepQ).1
            rw [set_cons, set_cons, enter_put_self room deepP, put_put room, below, set_cons,
              set_cons, enter_put_self room deepQ, put_put room]
          · rw [set_cons, set_cons, enter_put_of_ne (Ne.symm same), set_cons, set_cons,
              enter_put_of_ne same]
            exact congrArg obj (shortP.1.put_comm same _ _)

/-- **Reading and writing at a path is a lens**, on every document and at every path at which no
list is entered by the greatest word as an index: what was written is read, the last of two writes
stands, and writing what is there changes nothing. -/
theorem write_isLens {d : Value} {path : String} (room : d.HasRoomAlong (Path.segments path))
    (v w : Value) :
    (d.write path v).at? path = some v ∧ (d.write path v).write path w = d.write path w ∧
      (d.at? path = some v → d.write path v = d) :=
  ⟨get?_set_self room v, set_set room v w, set_of_get?⟩

/-- A list is filled up for a third driver, whose age can be written again; and to write the first
driver again changes nothing. -/
theorem third_driver_written :
    let d := Value.obj [("drivers", .list [.str "Ann"]), ("state", .str "CA")]
    let third := "$.drivers[+2].age"
    let first := "drivers['0']"
    d.HasRoomAlong (Path.segments third) ∧ d.HasRoomAlong (Path.segments first) ∧
      (d.write third (.bool true)).at? third = some (.bool true) ∧
      (d.write third (.bool true)).write third .null = d.write third .null ∧
      d.write first (.str "Ann") = d := by
  intro d third first
  have roomThird : d.HasRoomAlong (Path.segments third) := by decide +kernel
  have roomFirst : d.HasRoomAlong (Path.segments first) := by decide +kernel
  obtain ⟨read, again, -⟩ := write_isLens roomThird (.bool true) .null
  have same := (write_isLens roomFirst (.str "Ann") .null).2.2
  exact ⟨roomThird, roomFirst, read, again, same (by decide +kernel)⟩

end Value

end Interchange
