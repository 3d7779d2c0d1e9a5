import Interchange.Proofs.Path.Locality
import Interchange.Proofs.Value.InOrder
/-!
# Taking a value out

Taking out goes the way that reading goes: it answers with what is read, and where nothing is read
it changes nothing and makes no container.  Where something is read, the container that holds it is
replaced by one without it, and all that stands beside that container is left alone.  An object
gets the member back when it is written again; the items of a list close ranks.

* `Value.fst_remove` — what is taken out is what is read.
* `Value.remove_of_get?_eq_none` — nothing is changed where nothing is read.
* `Value.remove_of_child?` — what is taken out further down is taken out of what stands below.
* `Value.remove_of_get?` — the document that is left.
* `Value.TakesOut`, `Value.take_takesOut` — what is promised of taking out, and that it is kept.
-/

namespace Interchange

namespace Value

variable {v c x : Value} {s t : String} {rest segments lead : List String}

/-! ### Reading in what is entered -/

/-- Reading goes on in the container that writing enters: one that had to be made holds nothing. -/
theorem get?_enter (deep : segments ≠ []) : (v.enter s).get? segments = v.get? (s :: segments) := by
  obtain ⟨t, rest, rfl⟩ := List.exists_cons_of_ne_nil deep
  rw [enter, get?.eq_2 v]
  cases v.child? s with
  | none => rfl
  | some c => cases c <;> rfl

/-- A list that can be read is entered by a write, and none other is. -/
theorem get?_enter_eq_list_iff {items : List Value} :
    (v.enter s).get? segments = some (list items) ↔
      v.get? (s :: segments) = some (list items) := by
  refine ⟨get?_of_get?_enter, fun held => ?_⟩
  cases segments with
  | nil =>
      obtain ⟨c, present, here⟩ := Option.bind_eq_some_iff.mp held
      cases here
      rw [enter_of_child? present rfl, get?]
  | cons t rest => rw [get?_enter (by simp), held]

/-! ### Taking out -/

theorem remove_of_child?_eq_none (absent : v.child? s = none) :
    v.remove (s :: rest) = (none, v) := by
  cases rest <;> simp [remove, absent]

theorem remove_singleton (present : v.child? s = some c) : v.remove [s] = (some c, v.drop s) := by
  simp [remove, present]

/-- What is taken out further down is taken out of what stands below. -/
theorem remove_of_child? (deep : rest ≠ []) (present : v.child? s = some c) :
    v.remove (s :: rest) =
      ((c.remove rest).1, if (c.remove rest).1.isSome then v.put s (c.remove rest).2 else v) := by
  obtain ⟨t, rest, rfl⟩ := List.exists_cons_of_ne_nil deep
  rw [remove, present]
  · dsimp only
    rcases c.remove (t :: rest) with ⟨_ | x, left⟩ <;> rfl
  · simp

/-- What is taken out is what is read. -/
theorem fst_remove (deep : segments ≠ []) : (v.remove segments).1 = v.get? segments := by
  induction segments generalizing v with
  | nil => exact absurd rfl deep
  | cons s rest ih =>
      rw [get?]
      cases present : v.child? s with
      | none => rw [remove_of_child?_eq_none present, Option.bind_none]
      | some c =>
          cases rest with
          | nil => rw [remove_singleton present, Option.bind_some, get?]
          | cons t rest => rw [remove_of_child? (by simp) present, ih (by simp), Option.bind_some]

/-- Where nothing is read, nothing is taken out, and no container is made. -/
theorem remove_of_get?_eq_none (absent : v.get? segments = none) :
    v.remove segments = (none, v) := by
  cases segments with
  | nil => cases absent
  | cons s rest =>
      cases present : v.child? s with
      | none => exact remove_of_child?_eq_none present
      | some c =>
          rw [get?, present, Option.bind_some] at absent
          have deep : rest ≠ [] := by
            rintro rfl
            cases absent
          rw [remove_of_child? deep present, fst_remove deep, absent]
          rfl

/-- Taking out leaves a container behind where one stood. -/
theorem isContainer_snd_remove (container : v.isContainer = true) :
    (v.remove segments).2.isContainer = true := by
  cases segments with
  | nil => exact container
  | cons s rest =>
      cases present : v.child? s with
      | none => rw [remove_of_child?_eq_none present, container]
      | some c =>
          by_cases deep : rest = []
          · subst deep
            rw [remove_singleton present]
            cases v with
            | list items => rw [drop]; split <;> rfl
            | _ => exact container
          · rw [remove_of_child? deep present]
            dsimp only
            split
            · exact isContainer_put _ _ _
            · exact container

/-! ### A way that is there -/

theorem get?_append (v : Value) (lead rest : List String) :
    v.get? (lead ++ rest) = (v.get? lead).bind fun c => c.get? rest := by
  induction lead generalizing v with
  | nil => rfl
  | cons s lead ih =>
      rw [List.cons_append, get?, get?, Option.bind_assoc]
      exact congrArg _ (funext ih)

/-- A write in place of what is there reads it again. -/
theorem get?_set_of_get? (held : v.get? lead = some c) (x : Value) :
    (v.set lead x).get? lead = some x := by
  induction lead generalizing v with
  | nil => rfl
  | cons s lead ih =>
      obtain ⟨below, present, held⟩ := Option.bind_eq_some_iff.mp held
      rw [set_cons_of_child? present held, get?, child?_put_of_fits (fits_of_child? present),
        Option.bind_some, ih held]

/-- The last of two writes in place of what is there stands. -/
theorem set_set_of_get? (held : v.get? lead = some c) (x y : Value) :
    (v.set lead x).set lead y = v.set lead y := by
  induction lead generalizing v with
  | nil => rfl
  | cons s lead ih =>
      obtain ⟨below, present, held⟩ := Option.bind_eq_some_iff.mp held
      have fits := fits_of_child? present
      rw [set_cons_of_child? present held,
        set_cons_of_child? (child?_put_of_fits fits) (get?_set_of_get? held x), ih held,
        put_put_of_fits fits, set_cons_of_child? present held]

/-- A write below a container that is there is a write of that container. -/
theorem set_concat_of_get? (held : v.get? lead = some c) (container : c.isContainer = true)
    (s : String) (x : Value) : v.set (lead ++ [s]) x = v.set lead (c.put s x) := by
  induction lead generalizing v with
  | nil =>
      cases held
      rfl
  | cons k lead ih =>
      obtain ⟨below, present, held⟩ := Option.bind_eq_some_iff.mp held
      have entered := enter_of_child? present (isContainer_of_get?_container held container)
      rw [List.cons_append, set_cons, entered, ih held, set_cons_of_child? present held]

/-- What stands beside a value that is there is left alone by a write in its place. -/
theorem child?_put_beside (present : v.child? s = some c) (ne : s ≠ t) (separates : v.Separates s t)
    (x : Value) : (v.put s x).child? t = v.child? t := by
  cases v with
  | obj ms => exact Table.get?_put_of_ne ne.symm x ms
  | list items =>
      obtain ⟨i, index, found⟩ := Option.bind_eq_some_iff.mp present
      obtain ⟨j, same, other⟩ := separates
      obtain rfl : j = i := Option.some.inj (same.symm.trans index)
      have inside := (List.getElem?_eq_some_iff.mp found).1
      simp only [put, child?, index, pad_of_lt inside]
      cases seen : Path.index? t with
      | none => rfl
      | some k =>
          have apart : j ≠ k := fun one => other (one ▸ seen)
          exact List.getElem?_set_ne apart
  | _ => cases present

/-- **What stands beside a way that is there** is left alone by a write at its end. -/
theorem get?_set_beside {a q : List String} (parts : Path.PartsAt a s t lead q)
    (held : v.get? lead = some c) (separates : ∀ b, v.get? a = some b → b.Separates s t)
    (x : Value) : (v.set lead x).get? q = v.get? q := by
  induction lead generalizing v a q with
  | nil => exact absurd (List.prefix_nil.mp parts.left) (by simp)
  | cons k lead ih =>
      obtain ⟨below, present, held⟩ := Option.bind_eq_some_iff.mp held
      rw [set_cons_of_child? present held]
      rcases parts.cases_cons with ⟨rfl, rfl, q, rfl⟩ | ⟨a, q, rfl, rfl, deeper⟩
      · rw [get?, get?, child?_put_beside present parts.ne (separates v rfl)]
      · rw [get?, get?, child?_put_of_fits (fits_of_child? present), present, Option.bind_some,
          Option.bind_some]
        refine ih deeper held fun b standing => separates b ?_
        rw [get?, present, Option.bind_some, standing]

/-! ### What is left -/

/-- **The document that is left** is the document with the container that held the value without
it. -/
theorem remove_of_get? (held : v.get? lead = some c) (present : c.child? s = some x) :
    v.remove (lead ++ [s]) = (some x, v.set lead (c.drop s)) := by
  induction lead generalizing v with
  | nil =>
      cases held
      exact remove_singleton present
  | cons k lead ih =>
      obtain ⟨below, first, held⟩ := Option.bind_eq_some_iff.mp held
      rw [List.cons_append, remove_of_child? (by simp) first, ih held,
        set_cons_of_child? first held]
      rfl

/-- An item is cut out of its list, and the others stay in order. -/
theorem exists_drop_list {items : List Value} (present : (list items).child? s = some x) :
    ∃ before after, items = before ++ x :: after ∧ Path.index? s = some before.length ∧
      (list items).drop s = list (before ++ after) := by
  obtain ⟨i, index, found⟩ := Option.bind_eq_some_iff.mp present
  obtain ⟨inside, rfl⟩ := List.getElem?_eq_some_iff.mp found
  refine ⟨items.take i, items.drop (i + 1), ?_, ?_, ?_⟩
  · rw [← List.drop_eq_getElem_cons, List.take_append_drop]
  · rw [index, List.length_take_of_le (Nat.le_of_lt inside)]
  · rw [drop, index, ← List.eraseIdx_eq_take_drop_succ]

/-- **What is promised of taking out** the value under a segment of the container that the lead
names, with the answer that is given and the document that is left. -/
structure TakesOut (d : Value) (lead : List String) (s : String) (answer : Option Value)
    (left : Value) : Prop where
  /-- The answer is what is read. -/
  answer_eq : answer = d.get? (lead ++ [s])
  /-- Where nothing is read, nothing is changed. -/
  unchanged : answer = none → left = d
  /-- What is taken out stands in a container. -/
  held : ∀ x, answer = some x → ∃ c, d.get? lead = some c ∧ c.isContainer = true
  /-- An object loses the member and nothing else: nothing is read in its place, and to write it
  there again gives the document back. -/
  member : ∀ ms x, d.get? lead = some (obj ms) → answer = some x →
    left = d.set lead (obj (Table.erase s ms)) ∧ left.get? (lead ++ [s]) = none ∧
      left.set (lead ++ [s]) x = d
  /-- A list loses the item, and the others stay in order. -/
  item : ∀ items x, d.get? lead = some (list items) → answer = some x →
    ∃ before after, items = before ++ x :: after ∧ Path.index? s = some before.length ∧
      left = d.set lead (list (before ++ after))
  /-- What stands beside the container stays as it was. -/
  beside : ∀ q a k l, Path.PartsAt a k l lead q → (∀ c, d.get? a = some c → c.Separates k l) →
    left.get? q = d.get? q

/-- The member that was taken out of an object in order is not read any more, and can be written
back. -/
theorem member_of_remove {ms : List (String × Value)} (sorted : Table.Sorted ms)
    (held : v.get? lead = some (obj ms)) (present : Table.get? s ms = some x) :
    (v.set lead (obj (Table.erase s ms))).get? (lead ++ [s]) = none ∧
      (v.set lead (obj (Table.erase s ms))).set (lead ++ [s]) x = v := by
  have standing := get?_set_of_get? held (obj (Table.erase s ms))
  constructor
  · rw [get?_append, standing, Option.bind_some, get?, child?, sorted.get?_erase_self,
      Option.bind_none]
  · calc (v.set lead (obj (Table.erase s ms))).set (lead ++ [s]) x
        = (v.set lead (obj (Table.erase s ms))).set lead ((obj (Table.erase s ms)).put s x) :=
          set_concat_of_get? standing rfl s x
      _ = v.set lead ((obj (Table.erase s ms)).put s x) := set_set_of_get? held _ _
      _ = v.set lead (obj ms) := by rw [put, sorted.put_erase present]
      _ = v := set_of_get? held

/-- Where something is taken out, it stands in a container, which is left without it. -/
theorem exists_of_fst_remove (taken : (v.remove (lead ++ [s])).1 = some x) :
    ∃ c, v.get? lead = some c ∧ c.child? s = some x ∧
      (v.remove (lead ++ [s])).2 = v.set lead (c.drop s) := by
  rw [fst_remove (by simp), get?_append] at taken
  obtain ⟨c, held, here⟩ := Option.bind_eq_some_iff.mp taken
  obtain ⟨y, present, same⟩ := Option.bind_eq_some_iff.mp here
  cases same
  exact ⟨c, held, present, congrArg Prod.snd (remove_of_get? held present)⟩

/-- **Taking out takes exactly one value out**, of every document and at every path that is not
empty. -/
theorem take_takesOut {d : Value} {path : String} (ordered : d.InOrder)
    (place : Path.segments path = lead ++ [s]) :
    TakesOut d lead s (d.take path).1 (d.take path).2 := by
  rw [take, place]
  have answered : (d.remove (lead ++ [s])).1 = d.get? (lead ++ [s]) := fst_remove (by simp)
  have unchanged : (d.remove (lead ++ [s])).1 = none → (d.remove (lead ++ [s])).2 = d := by
    intro nothing
    rw [remove_of_get?_eq_none (answered.symm.trans nothing)]
  refine ⟨answered, unchanged, ?_, ?_, ?_, ?_⟩
  · intro x taken
    obtain ⟨c, held, present, -⟩ := exists_of_fst_remove taken
    have read : c.get? [s] = some x := by rw [get?, present, Option.bind_some, get?]
    exact ⟨c, held, isContainer_of_get? (List.cons_ne_nil s []) read⟩
  · intro ms x held taken
    obtain ⟨c, same, present, left⟩ := exists_of_fst_remove taken
    obtain rfl : c = obj ms := Option.some.inj (same.symm.trans held)
    rw [left]
    exact ⟨rfl, member_of_remove (ordered.get? held).1 held present⟩
  · intro items x held taken
    obtain ⟨c, same, present, left⟩ := exists_of_fst_remove taken
    obtain rfl : c = list items := Option.some.inj (same.symm.trans held)
    obtain ⟨before, after, cut, index, dropped⟩ := exists_drop_list present
    exact ⟨before, after, cut, index, by rw [left, dropped]⟩
  · intro q a k l parts separates
    cases taken : (d.remove (lead ++ [s])).1 with
    | none => rw [unchanged taken]
    | some x =>
        obtain ⟨c, held, -, left⟩ := exists_of_fst_remove taken
        rw [left, get?_set_beside parts held separates]

/-- The age of a driver in a list is taken out of its object, and the first driver out of the
list. -/
theorem age_and_driver_taken :
    let ann := Value.obj [("age", .str "30"), ("name", .str "Ann")]
    let bo := Value.obj [("name", .str "Bo")]
    let d := Value.obj [("drivers", .list [ann, bo]), ("state", .str "CA")]
    let withoutAge := Value.obj
      [("drivers", .list [.obj [("name", .str "Ann")], bo]), ("state", .str "CA")]
    let withoutAnn := Value.obj [("drivers", .list [bo]), ("state", .str "CA")]
    d.InOrder ∧ Path.segments "$.drivers[+0]['age']" = ["drivers", "+0"] ++ ["age"] ∧
      Path.segments "drivers.0" = ["drivers"] ++ ["0"] ∧
      TakesOut d ["drivers", "+0"] "age" (some (.str "30")) withoutAge ∧
      TakesOut d ["drivers"] "0" (some ann) withoutAnn := by
  intro ann bo d withoutAge withoutAnn
  have ordered : d.InOrder := by decide +kernel
  have age : Path.segments "$.drivers[+0]['age']" = ["drivers", "+0"] ++ ["age"] := by
    decide +kernel
  have first : Path.segments "drivers.0" = ["drivers"] ++ ["0"] := by decide +kernel
  have ageTaken : d.take "$.drivers[+0]['age']" = (some (.str "30"), withoutAge) := by
    decide +kernel
  have firstTaken : d.take "drivers.0" = (some ann, withoutAnn) := by decide +kernel
  refine ⟨ordered, age, first, ?_, ?_⟩
  · have promised := take_takesOut ordered age
    rwa [ageTaken] at promised
  · have promised := take_takesOut ordered first
    rwa [firstTaken] at promised

end Value

end Interchange
