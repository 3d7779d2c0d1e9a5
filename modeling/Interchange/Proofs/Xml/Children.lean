import Interchange.Proofs.Xml.Message
import Interchange.Xml.Soap
/-!
# Every child element is kept

An element with child elements is read as an object, into which the values of the children are
collected one by one.  The second value under a name turns what is there into a list, and a further
one is added to that list.  This works only because no child is itself read as a list: so a list
that is met has come from the children before, and there are at least two of them.

* `Xml.together` — what values that share a name come to.
* `Xml.KeepsChildren` — an object has a member for every name of a child element and no others, and
  each member is what the values of the children of its name come to.
* `Xml.get?_collect` — what is read from members that were collected.
* `Xml.children_kept` — elements with child elements keep them, and so do the bodies of envelopes.
-/

namespace Interchange.Xml

/-- **What values that share a name come to**: one stands for itself, several make a list. -/
def together : List Value → Option Value
  | [] => none
  | [v] => some v
  | vs => some (.list vs)

/-- The values of the child elements with a name, in their order. -/
def valuesNamed (key : String) : List Node → List Value
  | [] => []
  | .element name children :: ns =>
    if name = key then toValue (.element name children) :: valuesNamed key ns
    else valuesNamed key ns
  | .text _ :: ns => valuesNamed key ns

/-- **Members keep child elements**: the keys are the names of the elements, and under each key
stands what the values of the elements of that name come to. -/
structure KeepsChildren (ms : List (String × Value)) (children : List Node) : Prop where
  sorted : Table.Sorted ms
  keys : ∀ key, key ∈ ms.map Prod.fst ↔ key ∈ (Node.elements children).map Prod.fst
  values : ∀ key, Table.get? key ms = together (valuesNamed key children)

variable {key other name : String} {v : Value} {ms pairs : List (String × Value)}
variable {children : List Node}

/-! ### No child is a list -/

theorem isList_scalarOf (s : String) : (scalarOf s).isList = false := by
  unfold scalarOf
  repeat' split
  all_goals rfl

/-- The content of an element is no list, -/
theorem isList_contentOf (pairs : List (String × Value)) (text : String) :
    (contentOf pairs text).isList = false := by
  cases pairs with
  | nil => exact isList_scalarOf _
  | cons p pairs => rfl

/-- and so none of the values of children is one. -/
theorem isList_childValues : ∀ p ∈ childValues children, p.2.isList = false := by
  induction children with
  | nil => simp [childValues]
  | cons n ns ih =>
      cases n with
      | text s => simpa [childValues] using ih
      | element name inner =>
          rw [childValues, List.forall_mem_cons]
          exact ⟨isList_contentOf _ _, ih⟩

/-! ### Collecting one by one -/

/-- The values under a key, in their order. -/
def valuesUnder (key : String) (pairs : List (String × Value)) : List Value :=
  (pairs.filter fun p => p.1 = key).map Prod.snd

theorem isList_of_mem_valuesUnder (single : ∀ p ∈ pairs, p.2.isList = false) :
    ∀ v ∈ valuesUnder key pairs, v.isList = false := by
  intro v member
  obtain ⟨p, kept, rfl⟩ := List.mem_map.mp member
  exact single p (List.mem_filter.mp kept).1

/-- One more value under a key joins those that are there. -/
theorem get?_addMember_self {vs : List Value} (single : ∀ w ∈ vs, w.isList = false)
    (found : Table.get? key ms = together vs) :
    Table.get? key (addMember key v ms) = together (vs ++ [v]) := by
  unfold addMember
  match vs with
  | [] =>
      rw [found]
      exact Table.get?_put_self _ _ _
  | [first] =>
      have one : first.isList = false := single first List.mem_cons_self
      rw [found]
      cases first with
      | list items => cases one
      | _ => exact Table.get?_put_self _ _ _
  | first :: second :: vs =>
      rw [found]
      exact Table.get?_put_self _ _ _

/-- Adding a value leaves what is under other keys. -/
theorem get?_addMember_of_ne (ne : other ≠ key) :
    Table.get? other (addMember key v ms) = Table.get? other ms := by
  unfold addMember
  split
  all_goals exact Table.get?_put_of_ne ne _ _

/-- **One more value is added.**  Under its key it goes to the end of what is there; since no value
is itself a list, a list that stands there was made by collecting. -/
theorem get?_addMember {done : List (String × Value)} (single : ∀ p ∈ done, p.2.isList = false)
    (held : ∀ key, Table.get? key ms = together (valuesUnder key done)) (p : String × Value) :
    Table.get? key (addMember p.1 p.2 ms) = together (valuesUnder key (done ++ [p])) := by
  by_cases here : p.1 = key
  · subst here
    have extended : valuesUnder p.1 (done ++ [p]) = valuesUnder p.1 done ++ [p.2] := by
      simp [valuesUnder]
    rw [extended]
    exact get?_addMember_self (isList_of_mem_valuesUnder single) (held _)
  · have unchanged : valuesUnder key (done ++ [p]) = valuesUnder key done := by
      simp [valuesUnder, here]
    rw [unchanged, get?_addMember_of_ne (Ne.symm here), held]

/-- So under each key stand the values that were collected under it, in their order. -/
theorem get?_foldl_addMember (done : List (String × Value))
    (single : ∀ p ∈ done ++ pairs, p.2.isList = false)
    (held : ∀ key, Table.get? key ms = together (valuesUnder key done)) :
    Table.get? key (pairs.foldl (fun ms p => addMember p.1 p.2 ms) ms) =
      together (valuesUnder key (done ++ pairs)) := by
  -- What was collected so far holds the values so far, under every key.
  induction pairs generalizing done ms with
  | nil => simpa using held key
  | cons p pairs ih =>
      have before : ∀ q ∈ done, q.2.isList = false := fun q member =>
        single q (List.mem_append_left _ member)
      have shifted : done ++ p :: pairs = (done ++ [p]) ++ pairs := by
        simp
      rw [shifted] at single ⊢
      exact ih _ single fun _ => get?_addMember before held p

/-- **What is read from members that were collected** is what the values under the key come to. -/
theorem get?_collect (single : ∀ p ∈ pairs, p.2.isList = false) (key : String) :
    Table.get? key (collect pairs) = together (valuesUnder key pairs) :=
  get?_foldl_addMember [] (by simpa using single) fun _ => rfl

/-- Members stay sorted by their keys. -/
theorem sorted_addMember (sorted : Table.Sorted ms) : Table.Sorted (addMember key v ms) := by
  unfold addMember
  split
  all_goals exact sorted.put _ _

theorem sorted_collect (pairs : List (String × Value)) : Table.Sorted (collect pairs) :=
  List.foldlRecOn pairs _ .nil fun _ sorted _ _ => sorted_addMember sorted

/-! ### Child elements -/

theorem valuesUnder_childValues (key : String) (children : List Node) :
    valuesUnder key (childValues children) = valuesNamed key children := by
  induction children with
  | nil => simp [childValues, valuesUnder, valuesNamed]
  | cons n ns ih =>
      cases n with
      | text s => rw [childValues, valuesNamed, ih]
      | element name inner =>
          rw [childValues, valuesNamed, ← ih]
          by_cases here : name = key
          · simp [valuesUnder, here, toValue, contentValue]
          · simp [valuesUnder, here]

/-- There are values under a name exactly if there are children of that name. -/
theorem valuesNamed_ne_nil_iff :
    valuesNamed key children ≠ [] ↔ key ∈ (Node.elements children).map Prod.fst := by
  induction children with
  | nil => simp [valuesNamed, Node.elements]
  | cons n ns ih =>
      cases n with
      | text s => rw [valuesNamed, Node.elements, ih]
      | element name inner =>
          rw [valuesNamed, Node.elements, List.map_cons, List.mem_cons]
          split
          · next here => simp [here]
          · next elsewhere => simp [ih, Ne.symm elsewhere]

/-- Nothing stands under a key exactly if no value was collected for it. -/
theorem together_eq_none_iff {vs : List Value} : together vs = none ↔ vs = [] := by
  match vs with
  | [] => simp [together]
  | [v] => simp [together]
  | _ :: _ :: _ => simp [together]

/-- **What is collected keeps every child.** -/
theorem keepsChildren_collect (children : List Node) :
    KeepsChildren (collect (childValues children)) children := by
  have values (key : String) : Table.get? key (collect (childValues children)) =
      together (valuesNamed key children) := by
    rw [get?_collect isList_childValues, valuesUnder_childValues]
  refine ⟨sorted_collect _, fun key => ?_, values⟩
  rw [Table.mem_keys_iff, values, Option.isSome_iff_ne_none, Ne, together_eq_none_iff]
  exact valuesNamed_ne_nil_iff

theorem childValues_ne_nil (parent : Node.elements children ≠ []) : childValues children ≠ [] := by
  induction children with
  | nil => exact absurd rfl parent
  | cons n ns ih =>
      cases n with
      | text s =>
          rw [childValues]
          exact ih parent
      | element name inner => simp [childValues]

/-- An element with child elements keeps them all. -/
theorem toValue_keepsChildren (parent : Node.elements children ≠ []) (name : String) :
    ∃ ms, toValue (.element name children) = .obj ms ∧ KeepsChildren ms children := by
  refine ⟨collect (childValues children), ?_, keepsChildren_collect children⟩
  rw [toValue, contentValue]
  cases filled : childValues children with
  | nil => exact absurd filled (childValues_ne_nil parent)
  | cons p pairs => rfl

/-- So does the body of an envelope. -/
theorem bodyValue_keepsChildren {siblings : List Node} (parent : Node.elements children ≠ [])
    (envelope : Text.sameIgnoringCase name "envelope" = true)
    (body : Soap.find? "body" siblings = some children) :
    ∃ ms, Soap.bodyValue (.element name siblings) = .obj ms ∧ KeepsChildren ms children := by
  have kept := keepsChildren_collect children
  refine ⟨collect (childValues children), ?_, kept⟩
  simp only [Soap.bodyValue, envelope, if_true, body]
  split
  · next empty =>
      obtain ⟨key, named⟩ := List.exists_mem_of_ne_nil _ (mt List.map_eq_nil_iff.mp parent)
      rw [empty] at kept
      cases (kept.keys key).mpr named
  · rfl

/-- **No child element is lost.**  An element with child elements is read as an object whose keys
are the names of these elements; under a name that one of them has stands its value, and under a
name that several have the list of all their values, in their order.  The same holds of the document
whose root it is, and of a document that is an envelope for the children of its body. -/
theorem children_kept (children : List Node) (parent : Node.elements children ≠ []) :
    (∀ name, ∃ ms, toValue (.element name children) = .obj ms ∧ KeepsChildren ms children) ∧
    (∀ s name, read? s = some (.element name children) →
      ∃ ms, decode s = .obj ms ∧ KeepsChildren ms children) ∧
    ∀ s name siblings, read? s = some (.element name siblings) →
      Text.sameIgnoringCase name "envelope" = true → Soap.find? "body" siblings = some children →
        ∃ ms, Soap.decode s = .obj ms ∧ KeepsChildren ms children := by
  refine ⟨toValue_keepsChildren parent, fun s name read => ?_,
    fun s name siblings read envelope body => ?_⟩
  · rw [decode, read]
    exact toValue_keepsChildren parent name
  · rw [Soap.decode, read]
    exact bodyValue_keepsChildren parent envelope body

/-- An empty element counts as a child, and one of another name between two does not part them. -/
theorem children_kept_around_another :
    let children : List Node :=
      [.element "p" [], .element "on" [.text "1"], .element "p" [.text "x"]]
    Node.elements children ≠ [] ∧
    (∃ ms, decode "<q><p/><on>1</on><p>x</p></q>" = .obj ms ∧ KeepsChildren ms children) ∧
    (∃ ms, Soap.decode "<Envelope><Body><p/><on>1</on><p>x</p></Body></Envelope>" = .obj ms ∧
      KeepsChildren ms children) ∧
    together (valuesNamed "p" children) = some (.list [.null, .str "x"]) := by
  intro children
  have parent : Node.elements children ≠ [] := List.cons_ne_nil _ _
  have named : Named children := by
    simp only [Named, children, and_true, true_and]
    decide
  have document : read? "<q><p/><on>1</on><p>x</p></q>" = some (.element "q" children) := by
    have text : (Node.element "q" children).render = "<q><p/><on>1</on><p>x</p></q>" := by
      decide +kernel
    have unchanged : settle [] children = children := by simp [settle, flush, children]
    have read := (@read?_render "q" (by decide) _ named).2
    rwa [text, unchanged] at read
  have envelope : read? "<Envelope><Body><p/><on>1</on><p>x</p></Body></Envelope>" =
      some (.element "Envelope" [.element "Body" children]) := by
    have text : (Node.element "Envelope" [.element "Body" children]).render =
        "<Envelope><Body><p/><on>1</on><p>x</p></Body></Envelope>" := by decide +kernel
    have inside : Named [.element "Body" children] := by
      simp only [Named, and_true]
      exact ⟨by decide, named⟩
    have unchanged : settle [] [.element "Body" children] = [.element "Body" children] := by
      simp [settle, flush, children]
    have read := (@read?_render "Envelope" (by decide) _ inside).2
    rwa [text, unchanged] at read
  obtain ⟨-, inDocument, inEnvelope⟩ := children_kept children parent
  have both : together (valuesNamed "p" children) = some (.list [.null, .str "x"]) := by
    have filled : scalarOf (Text.trim "x") = .str "x" := scalarOf_trim_of_keepsText (by decide)
    have empty : scalarOf (Text.trim "") = .null := by decide +kernel
    simp [children, valuesNamed, toValue, contentValue, childValues, contentOf, Node.texts,
      together, filled, empty]
  have body : Soap.find? "body" [.element "Body" children] = some children := by
    have same : Text.sameIgnoringCase "Body" "body" = true := by decide +kernel
    simp [Soap.find?, Node.elements, same]
  exact ⟨parent, inDocument _ "q" document,
    inEnvelope _ "Envelope" _ envelope (by decide +kernel) body, both⟩

end Interchange.Xml
