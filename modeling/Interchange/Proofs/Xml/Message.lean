import Interchange.Proofs.Number.ReadBack
import Interchange.Proofs.Table
import Interchange.Proofs.Xml.Reader
/-!
# Values come back from XML

XML has elements and text, and no types.  A value comes back from its document if each of its parts
has a form of its own there: a list shows by its repeated elements and so needs two of them, an
object by its child elements, null by having neither children nor text, and text is typed by what
it reads as.  `HasForm` says so part by part.

The proof follows the value.  The element of a value under a key makes one pair of a name and a
value, and a list makes one pair an item (`pairsOf`); collecting the pairs of all members in the
order of their keys gives the members back, since the keys differ and no item is itself a list.

* `Xml.HasForm` — the values that have a form in XML.
* `Xml.childValues_memberNodes` — what is read from the elements of members.
* `Xml.collect_pairsOf` — the members are collected from their pairs.
* `Xml.decode_encode` — the way to XML and back keeps a value.
-/

namespace Interchange

/-- Whether a value is a list. -/
def Value.isList : Value → Bool
  | .list _ => true
  | _ => false

namespace Xml

/-! ### What seams do not change -/

/-- Character data that is written out adds no child, -/
theorem childValues_flush (run : List Char) (ns : List Node) :
    childValues (flush run ns) = childValues ns := by
  unfold flush
  split
  · rfl
  · rw [childValues]

/-- but adds to the text. -/
theorem texts_flush (run : List Char) (ns : List Node) :
    Node.texts (flush run ns) = String.ofList run.reverse ++ Node.texts ns := by
  unfold flush
  split
  · next none => simp [List.isEmpty_iff.mp none]
  · rw [Node.texts]

/-- Joining neighbouring texts does not change the text of an element. -/
theorem texts_settle (ns : List Node) (run : List Char) :
    Node.texts (settle run ns) = String.ofList run.reverse ++ Node.texts ns := by
  induction ns using forest_induction generalizing run with
  | nil => rw [settle, texts_flush]
  | text s ns ih =>
      rw [settle, ih, Node.texts, List.reverse_append, List.reverse_reverse, String.ofList_append,
        String.ofList_toList, String.append_assoc]
  | element name children ns inside ih =>
      rw [settle, texts_flush, Node.texts, Node.texts, ih]
      simp

/-- Nor does it change the values in it. -/
theorem childValues_settle (ns : List Node) (run : List Char) :
    childValues (settle run ns) = childValues ns := by
  induction ns using forest_induction generalizing run with
  | nil => rw [settle, childValues_flush]
  | text s ns ih => rw [settle, ih, childValues]
  | element name children ns inside ih =>
      rw [settle, childValues_flush, childValues, childValues, ih, inside, texts_settle]
      simp

/-- A forest with its runs of text joined has the same content. -/
theorem contentValue_settle (ns : List Node) : contentValue (settle [] ns) = contentValue ns := by
  rw [contentValue, contentValue, childValues_settle, texts_settle]
  simp

/-! ### Values with a form -/

/-- Whether a text is the text of the number that it reads as. -/
def isNumberText (s : String) : Bool :=
  match Value.parse? s with
  | some (.num n) => n.render = s
  | _ => false

/-- A text that is read back as a text: it is not empty, has no blanks at its ends, and is neither
a truth value nor the text of a number. -/
structure KeepsText (s : String) : Prop where
  filled : s ≠ ""
  trimmed : Text.trim s = s
  notTrue : s ≠ "true"
  notFalse : s ≠ "false"
  noNumber : isNumberText s = false

instance (s : String) : Decidable (KeepsText s) :=
  decidable_of_iff
    (s ≠ "" ∧ Text.trim s = s ∧ s ≠ "true" ∧ s ≠ "false" ∧ isNumberText s = false)
    ⟨fun ⟨filled, trimmed, notTrue, notFalse, noNumber⟩ =>
      ⟨filled, trimmed, notTrue, notFalse, noNumber⟩,
    fun ⟨filled, trimmed, notTrue, notFalse, noNumber⟩ =>
      ⟨filled, trimmed, notTrue, notFalse, noNumber⟩⟩

mutual

/-- **The values that have a form in XML.**  Of the numbers, an integer has one without more ado
and a float if it is read back from its text.  The characters of texts and keys are not restricted
further, since the reader takes them as they are. -/
def HasForm : Value → Prop
  | .null | .bool _ | .num (.int _ _) => True
  | .num (.float x finite) => (Number.float x finite).ReadsBack
  | .str s => KeepsText s
  | .list items => 2 ≤ items.length ∧ ItemsHaveForm items
  | .obj members => members ≠ [] ∧ Table.Sorted members ∧ MembersHaveForm members

/-- No item is a list, and all have a form. -/
def ItemsHaveForm : List Value → Prop
  | [] => True
  | v :: vs => v.isList = false ∧ HasForm v ∧ ItemsHaveForm vs

/-- All keys are names, and all values have a form. -/
def MembersHaveForm : List (String × Value) → Prop
  | [] => True
  | (k, v) :: ms => isPlainName k.toList = true ∧ HasForm v ∧ MembersHaveForm ms

end

mutual

/-- Whether a value has a form can be computed. -/
def decideForm : (v : Value) → Decidable (HasForm v)
  | .null | .bool _ | .num (.int _ _) => isTrue trivial
  | .num (.float x finite) => inferInstanceAs (Decidable (Number.float x finite).ReadsBack)
  | .str s => inferInstanceAs (Decidable (KeepsText s))
  | .list items =>
    have := decideItems items
    inferInstanceAs (Decidable (2 ≤ items.length ∧ ItemsHaveForm items))
  | .obj members =>
    have := decideMembers members
    inferInstanceAs (Decidable (members ≠ [] ∧ Table.Sorted members ∧ MembersHaveForm members))

def decideItems : (items : List Value) → Decidable (ItemsHaveForm items)
  | [] => isTrue trivial
  | v :: vs =>
    have := decideForm v
    have := decideItems vs
    inferInstanceAs (Decidable (v.isList = false ∧ HasForm v ∧ ItemsHaveForm vs))

def decideMembers : (ms : List (String × Value)) → Decidable (MembersHaveForm ms)
  | [] => isTrue trivial
  | (k, v) :: ms =>
    have := decideForm v
    have := decideMembers ms
    inferInstanceAs (Decidable (isPlainName k.toList = true ∧ HasForm v ∧ MembersHaveForm ms))

end

instance (v : Value) : Decidable (HasForm v) := decideForm v

/-! ### Scalars -/

/-- A text that is kept is read as a text again, and as the same. -/
theorem scalarOf_trim_of_keepsText {s : String} (keeps : KeepsText s) :
    scalarOf (Text.trim s) = .str s := by
  have filled : s.isEmpty = false := by
    simpa using keeps.filled
  rw [keeps.trimmed]
  simp only [scalarOf, filled, keeps.notTrue, keeps.notFalse, if_false, Bool.false_eq_true]
  have noNumber := keeps.noNumber
  unfold isNumberText at noNumber
  split
  · next n read =>
      rw [read] at noNumber
      exact if_neg (of_decide_eq_false noNumber)
  · rfl

/-- A number is not written as a text that reads as something else. -/
theorem render_ne_of_parse? {n : Number} (reads : n.ReadsBack) {s : String} {r : Option Value}
    (read : Value.parse? s = r) (other : r ≠ some (.num n)) : n.render ≠ s := by
  rintro rfl
  exact other (read.symm.trans reads)

/-- A number that is read back from its text is the scalar of it. -/
theorem scalarOf_trim_render {n : Number} (reads : n.ReadsBack) :
    scalarOf (Text.trim n.render) = .num n := by
  have filled : n.render ≠ "" :=
    render_ne_of_parse? reads (show Value.parse? "" = none by decide) (by simp)
  have notTrue : n.render ≠ "true" :=
    render_ne_of_parse? reads (show Value.parse? "true" = some (.bool true) by decide) (by simp)
  have notFalse : n.render ≠ "false" :=
    render_ne_of_parse? reads (show Value.parse? "false" = some (.bool false) by decide) (by simp)
  have held : n.render.isEmpty = false := by
    simpa using filled
  rw [n.solid_render.trim]
  rw [Number.ReadsBack] at reads
  simp [scalarOf, held, notTrue, notFalse, reads]

/-- The numbers of the form are those that their text reads back. -/
theorem HasForm.readsBack {n : Number} (form : HasForm (.num n)) : n.ReadsBack := by
  cases n with
  | int val inRange => exact Number.readsBack_int val inRange
  | float x finite => exact form

/-- The text of a truth value is a scalar that is the truth value. -/
theorem scalarOf_trim_bool (b : Bool) : scalarOf (Text.trim (Value.bool b).render) = .bool b := by
  cases b with
  | true => decide
  | false => decide

/-! ### Collecting pairs -/

/-- The pairs of a name and a value that the elements of a value make. -/
def pairsOf (name : String) : Value → List (String × Value)
  | .list items => items.map fun v => (name, v)
  | v => [(name, v)]

variable {key : String} {ms : List (String × Value)}

/-- A key that is above all that are there goes to the end. -/
theorem addMember_of_gt (above : ∀ p ∈ ms, p.1 < key) (v : Value) :
    addMember key v ms = ms ++ [(key, v)] := by
  rw [addMember, Table.get?_eq_none_of_gt above]
  exact Table.put_of_gt above

/-- The second value under a key makes a list. -/
theorem addMember_second (above : ∀ p ∈ ms, p.1 < key) {first : Value}
    (single : first.isList = false) (v : Value) :
    addMember key v (ms ++ [(key, first)]) = ms ++ [(key, .list [first, v])] := by
  rw [addMember, Table.get?_append_of_gt above]
  cases first with
  | list items => cases single
  | _ => exact Table.put_append_of_gt above _

/-- Further ones are added to it. -/
theorem addMember_list (above : ∀ p ∈ ms, p.1 < key) (items : List Value) (v : Value) :
    addMember key v (ms ++ [(key, .list items)]) = ms ++ [(key, .list (items ++ [v]))] := by
  rw [addMember, Table.get?_append_of_gt above]
  exact Table.put_append_of_gt above _

/-- Once a list has been made, further values under its key are added to it. -/
theorem foldl_addMember_list (above : ∀ p ∈ ms, p.1 < key) (items vs : List Value) :
    (vs.map fun v => (key, v)).foldl (fun ms p => addMember p.1 p.2 ms)
        (ms ++ [(key, .list items)]) =
      ms ++ [(key, .list (items ++ vs))] := by
  induction vs generalizing items with
  | nil => simp
  | cons v vs ih =>
      rw [List.map_cons, List.foldl_cons, addMember_list above, ih, List.append_assoc,
        List.singleton_append]

/-- The pairs of one value are collected into it, behind all lesser keys. -/
theorem foldl_addMember_pairsOf (above : ∀ p ∈ ms, p.1 < key) {v : Value} (form : HasForm v) :
    (pairsOf key v).foldl (fun ms p => addMember p.1 p.2 ms) ms = ms ++ [(key, v)] := by
  cases v with
  | list items =>
      obtain ⟨several, form⟩ := form
      rcases items with _ | ⟨first, _ | ⟨second, others⟩⟩
      · simp at several
      · simp at several
      · rw [ItemsHaveForm] at form
        rw [pairsOf, List.map_cons, List.map_cons, List.foldl_cons, List.foldl_cons,
          addMember_of_gt above, addMember_second above form.1, foldl_addMember_list above]
        rfl
  | _ => exact addMember_of_gt above _

/-- The members of a sorted object are collected one after the other, and none meets another. -/
theorem foldl_addMember_members (done : List (String × Value)) (sorted : Table.Sorted (done ++ ms))
    (form : MembersHaveForm ms) :
    (ms.flatMap fun m => pairsOf m.1 m.2).foldl (fun ms p => addMember p.1 p.2 ms) done =
      done ++ ms := by
  -- What is collected stays before the members to come, since the keys ascend.
  induction ms generalizing done with
  | nil => simp
  | cons m ms ih =>
      obtain ⟨k, v⟩ := m
      rw [MembersHaveForm] at form
      have above : ∀ p ∈ done, p.1 < k := fun p member =>
        (List.pairwise_append.mp sorted).2.2 p member (k, v) List.mem_cons_self
      rw [List.flatMap_cons, List.foldl_append, foldl_addMember_pairsOf above form.2.1,
        ih _ (by rwa [List.append_assoc]) form.2.2, List.append_assoc]
      rfl

/-- **The members are collected from the pairs that they make.** -/
theorem collect_pairsOf (sorted : Table.Sorted ms) (form : MembersHaveForm ms) :
    collect (ms.flatMap fun m => pairsOf m.1 m.2) = ms := by
  have collected := foldl_addMember_members [] sorted form
  exact collected

/-! ### Reading elements -/

/-- Children beside one another have their values side by side. -/
theorem childValues_append (ms ns : List Node) :
    childValues (ms ++ ns) = childValues ms ++ childValues ns := by
  induction ms with
  | nil => rw [childValues, List.nil_append, List.nil_append]
  | cons m ms ih =>
      cases m with
      | text s => rw [List.cons_append, childValues, childValues, ih]
      | element name children =>
          rw [List.cons_append, childValues, childValues, ih, List.cons_append]

/-- An element with nothing but text has a scalar for its value, -/
theorem childValues_text (name s : String) :
    childValues [.element name [.text s]] = [(name, scalarOf (Text.trim s))] := by
  simp [childValues, contentOf, Node.texts]

/-- an empty one has null, -/
theorem childValues_null (name : String) : childValues [.element name []] = [(name, .null)] := by
  simp only [childValues, contentOf, Node.texts]
  rfl

/-- and one with members has the object of their values. -/
theorem childValues_obj {name : String} (filled : ms ≠ []) (sorted : Table.Sorted ms)
    (form : MembersHaveForm ms)
    (inside : childValues (memberNodes ms) = ms.flatMap fun m => pairsOf m.1 m.2) :
    childValues [.element name (.text "" :: memberNodes ms)] = [(name, .obj ms)] := by
  have collected := collect_pairsOf sorted form
  rw [childValues, childValues, childValues, inside]
  cases pairs : ms.flatMap fun m => pairsOf m.1 m.2 with
  | nil =>
      rw [pairs] at collected
      exact absurd collected.symm filled
  | cons p ps =>
      have filling : ∀ text, contentOf (p :: ps) text = .obj (collect (p :: ps)) := fun _ => rfl
      rw [filling, ← pairs, collected]

mutual

/-- The elements of a value make its pairs. -/
theorem childValues_nodesOf : ∀ {v : Value}, HasForm v → ∀ name,
    childValues (nodesOf name v) = pairsOf (elementName name) v
  | .null, _, name => childValues_null _
  | .bool b, _, name => by
      simp only [nodesOf, childValues_text, scalarOf_trim_bool]
      rfl
  | .num n, form, name => by
      simp only [nodesOf, childValues_text, Value.render, scalarOf_trim_render form.readsBack]
      rfl
  | .str s, form, name => by
      rw [nodesOf, childValues_text, scalarOf_trim_of_keepsText form]
      rfl
  | .list items, form, name => childValues_itemNodes form.2 name
  | .obj ms, form, name => by
      rw [nodesOf]
      exact childValues_obj form.1 form.2.1 form.2.2 (childValues_memberNodes form.2.2)

/-- The elements of items make a pair each. -/
theorem childValues_itemNodes : ∀ {items : List Value}, ItemsHaveForm items → ∀ name,
    childValues (itemNodes (elementName name) items) = pairsOf (elementName name) (.list items)
  | [], _, name => by rw [itemNodes, childValues]; rfl
  | v :: vs, form, name => by
      rw [ItemsHaveForm] at form
      obtain ⟨single, formed, others⟩ := form
      -- The name of the list is made into an element name once more for each item.
      rw [itemNodes, childValues_append, childValues_nodesOf formed, childValues_itemNodes others,
        elementName_elementName]
      cases v with
      | list items => cases single
      | _ => rfl

/-- The elements of members make the pairs of the members. -/
theorem childValues_memberNodes : ∀ {ms : List (String × Value)}, MembersHaveForm ms →
    childValues (memberNodes ms) = ms.flatMap fun m => pairsOf m.1 m.2
  | [], _ => by rw [memberNodes, childValues]; rfl
  | (k, v) :: ms, form => by
      rw [MembersHaveForm] at form
      rw [memberNodes, childValues_append, childValues_nodesOf form.2.1 k,
        childValues_memberNodes form.2.2, elementName_eq_self form.1]
      rfl

end

/-! ### Documents of values -/

/-- Whatever text a name is made of, it is a name of XML. -/
theorem isName_elementName (s : String) : isName (elementName s).toList = true :=
  isName_of_plain (isPlainName_elementName s)

mutual

/-- All elements of a value have names. -/
theorem named_nodesOf : ∀ (name : String) (v : Value), Named (nodesOf name v)
  | name, .null => by simp [nodesOf, Named, isName_elementName]
  | name, .bool b => by simp [nodesOf, Named, isName_elementName]
  | name, .num n => by simp [nodesOf, Named, isName_elementName]
  | name, .str s => by simp [nodesOf, Named, isName_elementName]
  | name, .list items => named_itemNodes (elementName name) items
  | name, .obj ms => by simp [nodesOf, Named, isName_elementName, named_memberNodes ms]

theorem named_itemNodes : ∀ (name : String) (items : List Value), Named (itemNodes name items)
  | name, [] => by simp [itemNodes, Named]
  | name, v :: vs => by
      rw [itemNodes, named_append]
      exact ⟨named_nodesOf name v, named_itemNodes name vs⟩

theorem named_memberNodes : ∀ (ms : List (String × Value)), Named (memberNodes ms)
  | [] => by simp [memberNodes, Named]
  | (k, v) :: ms => by
      rw [memberNodes, named_append]
      exact ⟨named_nodesOf k v, named_memberNodes ms⟩

end

/-- The root element of a value that is no list is its only element. -/
theorem nodesOf_eq_ofValue {v : Value} (single : v.isList = false) (root : String) :
    ∃ children, ofValue root v = .element (elementName root) children ∧
      nodesOf root v = [.element (elementName root) children] := by
  cases v with
  | list items => cases single
  | _ => exact ⟨_, rfl, rfl⟩

/-- The content of the root element is read as the value. -/
theorem exists_content {v : Value} (single : v.isList = false) (form : HasForm v) (root : String) :
    ∃ children, ofValue root v = .element (elementName root) children ∧ Named children ∧
      contentValue (settle [] children) = v := by
  obtain ⟨children, written, alone⟩ := nodesOf_eq_ofValue single root
  have named := named_nodesOf root v
  have read := childValues_nodesOf form root
  have pair : pairsOf (elementName root) v = [(elementName root, v)] := by
    cases v with
    | list items => cases single
    | _ => rfl
  rw [alone, Named] at named
  rw [alone, pair, childValues, childValues] at read
  refine ⟨children, written, named.2.1, ?_⟩
  rw [contentValue_settle]
  exact (Prod.mk.inj (List.cons.inj read).1).2

/-- **A value that has a form in XML comes back from its document.** -/
theorem decode_encode {v : Value} (single : v.isList = false) (form : HasForm v) (root : String) :
    decode (encode v root) = v := by
  obtain ⟨children, written, named, content⟩ := exists_content single form root
  rw [decode, encode, written, (read?_render (isName_elementName root) named).1]
  exact content

end Xml

end Interchange
