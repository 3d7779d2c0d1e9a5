import Interchange.Proofs.Xml.Message
/-!
# One trip through XML

A trip through XML may change a value: keys are made into names and may become the same, lists of
one item and lists in lists dissolve, what is empty becomes null, and texts are trimmed and typed.
Nothing of this happens a second time.

The reason lies with the reader and not with the value.  Whatever nodes it is given, if their names
are plain, then what it makes of them has a form in XML: texts were trimmed and numbers are their
own texts, a list has come from repeated elements and holds no list, and an object has come from
child elements.  The writer on its part gives plain names only.

* `Xml.HasElement` — the values that one element stands for.
* `Xml.PlainlyNamed.hasElement` — what is read from plainly named nodes is such a value.
* `Xml.plainlyNamed_nodesOf` — the nodes of every value are plainly named.
* `Xml.trip_trip` — one trip makes a value normal, and the normal values are those with an element.
-/

namespace Interchange.Xml

/-- The values that one element stands for: those that have a form in XML and are no list. -/
structure HasElement (v : Value) : Prop where
  single : v.isList = false
  form : HasForm v

/-! ### Scalars -/

/-- A number that its text reads back has the form, whatever kind of number it is. -/
theorem hasForm_of_readsBack {n : Number} (reads : n.ReadsBack) : HasForm (.num n) := by
  cases n with
  | int val inRange => trivial
  | float x finite => exact reads

/-- A text that reads as a number is typed only if it is the text of the number. -/
theorem hasElement_scalarOf {s : String} (trimmed : Text.trim s = s) :
    HasElement (scalarOf s) := by
  unfold scalarOf
  split
  · exact ⟨rfl, trivial⟩
  next filled =>
  split
  · exact ⟨rfl, trivial⟩
  next notTrue =>
  split
  · exact ⟨rfl, trivial⟩
  next notFalse =>
  have keeps (noNumber : isNumberText s = false) : HasElement (.str s) :=
    ⟨rfl, by simpa using filled, trimmed, notTrue, notFalse, noNumber⟩
  split
  · next n read =>
      split
      · next same =>
          have reads : n.ReadsBack := by
            rw [Number.ReadsBack, same, read]
          exact ⟨rfl, hasForm_of_readsBack reads⟩
      · next other => exact keeps (by simp [isNumberText, read, other])
  · next noNumber =>
      refine keeps ?_
      unfold isNumberText
      split
      · next n read => exact absurd read (noNumber n)
      · rfl

/-! ### Lists and members -/

/-- Items have the form if each of them can stand in an element, -/
theorem itemsHaveForm_iff {items : List Value} :
    ItemsHaveForm items ↔ ∀ v ∈ items, HasElement v := by
  induction items with
  | nil => simp [ItemsHaveForm]
  | cons v vs ih =>
      rw [ItemsHaveForm, List.forall_mem_cons, ih, ← and_assoc]
      exact and_congr_left fun _ => ⟨fun ⟨single, form⟩ => ⟨single, form⟩,
        fun ⟨single, form⟩ => ⟨single, form⟩⟩

/-- and members if their keys are names and their values have it. -/
theorem membersHaveForm_iff {ms : List (String × Value)} :
    MembersHaveForm ms ↔ ∀ m ∈ ms, isPlainName m.1.toList = true ∧ HasForm m.2 := by
  induction ms with
  | nil => simp [MembersHaveForm]
  | cons m ms ih =>
      obtain ⟨k, v⟩ := m
      rw [MembersHaveForm, List.forall_mem_cons, ih, and_assoc]

/-- The second value under a name makes a list with a form. -/
theorem HasElement.pair {first v : Value} (one : HasElement first) (other : HasElement v) :
    HasForm (.list [first, v]) := by
  refine ⟨Nat.le_refl 2, itemsHaveForm_iff.mpr fun w member => ?_⟩
  rcases List.mem_cons.mp member with rfl | later
  · exact one
  · rw [List.mem_singleton.mp later]
    exact other

/-- Further ones leave it one. -/
theorem HasElement.append {items : List Value} {v : Value} (form : HasForm (.list items))
    (further : HasElement v) : HasForm (.list (items ++ [v])) := by
  obtain ⟨several, inside⟩ := form
  refine ⟨by rw [List.length_append]; omega, itemsHaveForm_iff.mpr fun w member => ?_⟩
  rcases List.mem_append.mp member with earlier | last
  · exact itemsHaveForm_iff.mp inside w earlier
  · rw [List.mem_singleton.mp last]
    exact further

/-! ### Collecting any pairs -/

/-- What members are while values under names are collected: in order, with plain names and values
that have a form. -/
structure Grouped (ms : List (String × Value)) : Prop where
  sorted : Table.Sorted ms
  form : MembersHaveForm ms

/-- A plain name and a value that one element stands for. -/
structure PairHasElement (p : String × Value) : Prop where
  plain : isPlainName p.1.toList = true
  value : HasElement p.2

section Collect

variable {key : String} {v : Value} {ms pairs : List (String × Value)}

theorem grouped_nil : Grouped [] := ⟨.nil, trivial⟩

/-- A value of the form may be put under a plain name, -/
theorem Grouped.put (grouped : Grouped ms) (plain : isPlainName key.toList = true)
    (form : HasForm v) : Grouped (Table.put key v ms) := by
  refine ⟨grouped.sorted.put key v, membersHaveForm_iff.mpr fun m member => ?_⟩
  rcases Table.mem_put member with rfl | present
  · exact ⟨plain, form⟩
  · exact membersHaveForm_iff.mp grouped.form m present

/-- and what is found has the form. -/
theorem Grouped.get? (grouped : Grouped ms) (found : Table.get? key ms = some v) : HasForm v :=
  (membersHaveForm_iff.mp grouped.form _ (Table.mem_of_get? found)).2

/-- A list among the members has come from two values or more, since no value is a list. -/
theorem Grouped.addMember (grouped : Grouped ms) (pair : PairHasElement (key, v)) :
    Grouped (addMember key v ms) := by
  obtain ⟨plain, value⟩ := pair
  unfold Xml.addMember
  split
  · next items found => exact grouped.put plain (value.append (grouped.get? found))
  · next first notList found =>
      have single : first.isList = false := by
        cases first with
        | list items => exact absurd rfl (notList items)
        | _ => rfl
      have one : HasElement first := ⟨single, grouped.get? found⟩
      exact grouped.put plain (one.pair value)
  · exact grouped.put plain value.form

/-- So collecting keeps what is collected in the form. -/
theorem Grouped.foldl (grouped : Grouped ms) (formed : ∀ p ∈ pairs, PairHasElement p) :
    Grouped (pairs.foldl (fun ms p => Xml.addMember p.1 p.2 ms) ms) := by
  induction pairs generalizing ms with
  | nil => exact grouped
  | cons p pairs ih =>
      rw [List.forall_mem_cons] at formed
      exact ih (grouped.addMember formed.1) formed.2

/-- Where something was added, there is something, -/
theorem addMember_ne_nil : addMember key v ms ≠ [] := by
  unfold addMember
  split <;> exact Table.put_ne_nil

/-- and collecting more takes nothing away. -/
theorem foldl_addMember_ne_nil (filled : ms ≠ []) :
    pairs.foldl (fun ms p => addMember p.1 p.2 ms) ms ≠ [] := by
  induction pairs generalizing ms with
  | nil => exact filled
  | cons p pairs ih => exact ih addMember_ne_nil

/-- What an element holds is a value that one element stands for. -/
theorem hasElement_contentOf (formed : ∀ p ∈ pairs, PairHasElement p) (text : String) :
    HasElement (contentOf pairs text) := by
  cases pairs with
  | nil => exact hasElement_scalarOf (Text.trim_trim text)
  | cons p pairs =>
      have grouped : Grouped (collect (p :: pairs)) := grouped_nil.foldl formed
      have filled : collect (p :: pairs) ≠ [] := by
        rw [collect, List.foldl_cons]
        exact foldl_addMember_ne_nil addMember_ne_nil
      exact ⟨rfl, filled, grouped.sorted, grouped.form⟩

end Collect

/-! ### Reading any nodes -/

/-- Whether all elements of a forest have plain names. -/
def PlainlyNamed : List Node → Prop
  | [] => True
  | .text _ :: ns => PlainlyNamed ns
  | .element name children :: ns =>
    isPlainName name.toList = true ∧ PlainlyNamed children ∧ PlainlyNamed ns

/-- Nodes beside one another are plainly named one by one. -/
theorem plainlyNamed_append {ms ns : List Node} :
    PlainlyNamed (ms ++ ns) ↔ PlainlyNamed ms ∧ PlainlyNamed ns := by
  induction ms with
  | nil => simp [PlainlyNamed]
  | cons m ms ih =>
      cases m with
      | text s => simp only [List.cons_append, PlainlyNamed, ih]
      | element name children => simp only [List.cons_append, PlainlyNamed, ih, and_assoc]

/-- Plain names are names of XML. -/
theorem PlainlyNamed.named {ns : List Node} (plain : PlainlyNamed ns) : Named ns := by
  induction ns using forest_induction with
  | nil =>
      rw [Named]
      trivial
  | text s ns ih =>
      rw [PlainlyNamed] at plain
      rw [Named]
      exact ih plain
  | element name children ns inside ih =>
      rw [PlainlyNamed] at plain
      rw [Named]
      obtain ⟨valid, plainInside, plainAfter⟩ := plain
      exact ⟨isName_of_plain valid, inside plainInside, ih plainAfter⟩

/-- The children of plainly named nodes have plain names and values of the form. -/
theorem PlainlyNamed.childValues {ns : List Node} (plain : PlainlyNamed ns) :
    ∀ p ∈ childValues ns, PairHasElement p := by
  -- What an element holds is known from the pairs that its children make.
  induction ns using forest_induction with
  | nil =>
      rw [Xml.childValues]
      exact List.forall_mem_nil _
  | text s ns ih =>
      rw [PlainlyNamed] at plain
      rw [Xml.childValues]
      exact ih plain
  | element name children ns inside ih =>
      rw [PlainlyNamed] at plain
      obtain ⟨valid, plainInside, plainAfter⟩ := plain
      rw [Xml.childValues, List.forall_mem_cons]
      exact ⟨⟨valid, hasElement_contentOf (inside plainInside) _⟩, ih plainAfter⟩

/-- **What is read from plainly named nodes is a value that one element stands for.** -/
theorem PlainlyNamed.hasElement {children : List Node} (plain : PlainlyNamed children) :
    HasElement (contentValue children) :=
  hasElement_contentOf plain.childValues _

/-! ### The nodes of any value -/

mutual

/-- All elements of a value have plain names. -/
theorem plainlyNamed_nodesOf : ∀ (name : String) (v : Value), PlainlyNamed (nodesOf name v)
  | name, .null => by simp [nodesOf, PlainlyNamed, isPlainName_elementName]
  | name, .bool b => by simp [nodesOf, PlainlyNamed, isPlainName_elementName]
  | name, .num n => by simp [nodesOf, PlainlyNamed, isPlainName_elementName]
  | name, .str s => by simp [nodesOf, PlainlyNamed, isPlainName_elementName]
  | name, .list items => plainlyNamed_itemNodes (elementName name) items
  | name, .obj ms => by
      simp [nodesOf, PlainlyNamed, isPlainName_elementName, plainlyNamed_memberNodes ms]

theorem plainlyNamed_itemNodes : ∀ (name : String) (items : List Value),
    PlainlyNamed (itemNodes name items)
  | name, [] => by simp [itemNodes, PlainlyNamed]
  | name, v :: vs => by
      rw [itemNodes, plainlyNamed_append]
      exact ⟨plainlyNamed_nodesOf name v, plainlyNamed_itemNodes name vs⟩

theorem plainlyNamed_memberNodes : ∀ ms : List (String × Value), PlainlyNamed (memberNodes ms)
  | [] => by simp [memberNodes, PlainlyNamed]
  | (k, v) :: ms => by
      rw [memberNodes, plainlyNamed_append]
      exact ⟨plainlyNamed_nodesOf k v, plainlyNamed_memberNodes ms⟩

end

/-- The root element of every value, with plain names inside. -/
theorem exists_plainlyNamed (v : Value) (root : String) :
    ∃ children, ofValue root v = .element (elementName root) children ∧ PlainlyNamed children := by
  cases single : v.isList with
  | true =>
      -- The items of a list are inside the root, where those of other lists have no element around.
      cases v with
      | list items =>
          refine ⟨_, rfl, ?_⟩
          rw [PlainlyNamed]
          exact plainlyNamed_itemNodes "item" items
      | _ => cases single
  | false =>
      obtain ⟨children, written, alone⟩ := nodesOf_eq_ofValue single root
      have plain := plainlyNamed_nodesOf root v
      rw [alone, PlainlyNamed] at plain
      exact ⟨children, written, plain.2.1⟩

/-! ### Trips -/

/-- **A trip through XML**: a value is written to a document and read from it. -/
def trip (root : String) (v : Value) : Value := decode (encode v root)

/-- After a trip a value is one that an element stands for. -/
theorem hasElement_trip (root : String) (v : Value) : HasElement (trip root v) := by
  obtain ⟨children, written, plain⟩ := exists_plainlyNamed v root
  have read : trip root v = contentValue children := by
    rw [trip, decode, encode, written, (read?_render (isName_elementName root) plain.named).1]
    exact contentValue_settle children
  rw [read]
  exact plain.hasElement

/-- Such a value comes back. -/
theorem HasElement.trip {v : Value} (element : HasElement v) (root : String) : trip root v = v :=
  decode_encode element.single element.form root

/-- **One trip makes a value normal.**  A second one, under whatever root, changes nothing; and a
value that the first one does not change is one that an element stands for. -/
theorem trip_trip (root other : String) (v : Value) :
    trip other (trip root v) = trip root v ∧ (trip root v = v ↔ HasElement v) := by
  have normal := hasElement_trip root v
  refine ⟨normal.trip other, fun same => ?_, fun element => element.trip root⟩
  rw [same] at normal
  exact normal

/-- Keys that are made into the same name share a list, and a list in it dissolves. -/
example : trip "r" (.obj [("a b", .str " x "), ("a_b", .list [.list [.str "7"], .list []]),
      ("c", .obj [])]) =
    .obj [("a_b", .list [.str "x", .num (.int 7 (by decide))]), ("c", .null)] := by cbv

end Interchange.Xml
