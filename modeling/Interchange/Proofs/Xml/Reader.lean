import Interchange.Proofs.Xml.Node
import Interchange.Xml.Message
/-!
# The text of a tree is read back

A reader of a part of a text is right when it reads that part in front of any continuation that
does not prolong it.  Names, references and character data come first.  Content and elements
follow by induction over the nodes; the fuel that reading them takes is the length of their text.

* `Xml.content_renderAll` — the content of an element is read up to its closing tag.
* `Xml.element_render` — so is an element.
* `Xml.read?_render` — a document of one element is read as that element.
-/

namespace Interchange.Xml

/-! ### Names and tags -/

/-- Whether a character ends a name. -/
def endsName (c : Char) : Bool := !isNameChar c && c ≠ ':'

theorem ncName_append {name : List Char} (valid : isName name = true) {c : Char}
    (stop : isNameChar c = false) (rest : List Char) :
    ncName (name ++ c :: rest) = some (String.ofList name, c :: rest) := by
  cases name with
  | nil => cases valid
  | cons d ds =>
      simp only [isName, Bool.and_eq_true, List.all_eq_true] at valid
      have inside : ¬ isNameChar c = true := by simp [stop]
      rw [List.cons_append, ncName, if_pos valid.1, List.takeWhile_append_of_pos valid.2,
        List.dropWhile_append_of_pos valid.2, List.takeWhile_cons_of_neg inside,
        List.dropWhile_cons_of_neg inside, List.append_nil]

theorem qName_append {name : List Char} (valid : isName name = true) {c : Char}
    (stop : endsName c = true) (rest : List Char) :
    qName (name ++ c :: rest) = some (⟨none, String.ofList name⟩, c :: rest) := by
  simp only [endsName, Bool.and_eq_true, Bool.not_eq_true', decide_eq_true_eq] at stop
  simp only [qName, ncName_append valid stop.1, Option.bind_eq_bind, Option.bind_some]
  split
  · next same => exact absurd (List.cons.inj same).1 stop.2
  · rfl

theorem attributes_of_not_isSpace {c : Char} (stop : isSpace c = false) (fuel : Nat)
    (rest : List Char) : attributes fuel (c :: rest) = some ([], c :: rest) := by
  cases fuel with
  | zero => rfl
  | succ fuel => simp [attributes, space, stop]

theorem skipSpace_of_not_isSpace {c : Char} (stop : isSpace c = false) (rest : List Char) :
    skipSpace (c :: rest) = c :: rest := by
  simp [skipSpace, stop]

theorem enter?_plain (known : List String) (name : String) :
    enter? known ⟨none, name⟩ [] = some known := by
  simp [enter?, declared, allDistinct, isKnown]

/-- An element is read when its opening tag, its content and the name of its closing tag are. -/
theorem element_of_parts {fuel : Nat} {known inner : List String} {name : QName}
    {as : List (QName × String)} {children : List Node} {cs₁ cs₂ cs₃ cs₄ rest : List Char}
    (opened : qName cs₁ = some (name, cs₂))
    (declares : attributes cs₂.length cs₂ = some (as, '>' :: cs₃))
    (entered : enter? known name as = some inner)
    (filled : content fuel inner [] cs₃ = some (children, cs₄))
    (closed : qName cs₄ = some (name, '>' :: rest)) :
    element (fuel + 1) known cs₁ = some (.element name.localPart children, rest) := by
  have ends : skipSpace ('>' :: rest) = '>' :: rest := skipSpace_of_not_isSpace (by decide) _
  have opens : skipSpace ('>' :: cs₃) = '>' :: cs₃ := skipSpace_of_not_isSpace (by decide) _
  have mark : literal ">" ('>' :: rest) = some ((), rest) := rfl
  simp [element, opened, declares, entered, opens, filled, closed, ends, mark]

/-- An element that is written as one tag. -/
theorem element_of_tag {fuel : Nat} {known inner : List String} {name : QName}
    {as : List (QName × String)} {cs₁ cs₂ rest : List Char}
    (opened : qName cs₁ = some (name, cs₂))
    (declares : attributes cs₂.length cs₂ = some (as, '/' :: '>' :: rest))
    (entered : enter? known name as = some inner) :
    element (fuel + 1) known cs₁ = some (.element name.localPart [], rest) := by
  have ends : skipSpace ('/' :: '>' :: rest) = '/' :: '>' :: rest :=
    skipSpace_of_not_isSpace (by decide) _
  simp [element, opened, declares, entered, ends]

/-! ### Character data -/

/-- One character of content that stands for itself. -/
theorem content_char {fuel : Nat} {known : List String} {run : List Char} {c : Char}
    {rest : List Char} (notLess : c ≠ '<') (notReference : c ≠ '&')
    (opens : opensFirst rest = true) :
    content (fuel + 1) known run (c :: rest) = content fuel known (c :: run) rest := by
  rw [content]
  · rintro cs rfl
    exact absurd rfl notLess
  · rintro cs rfl
    exact absurd rfl notLess
  · rintro cs rfl
    exact absurd rfl notLess
  · rintro cs rfl
    exact absurd rfl notLess
  · rintro rfl
    exact absurd rfl notLess
  · rintro rfl
    exact absurd rfl notReference
  · rintro cs -
    exact ne_sectionEnd opens cs

/-- One character of a text is read, whether it stands for itself or is a reference. -/
theorem content_escapeChar {fuel : Nat} {known : List String} {run : List Char} {c : Char}
    {rest : List Char} (opens : opensFirst rest = true) :
    content (fuel + 1) known run (escapeChar c ++ rest) = content fuel known (c :: run) rest := by
  unfold escapeChar
  split
  · next same =>
      subst same
      have read : reference ('a' :: 'm' :: 'p' :: ';' :: rest) = some ('&', rest) := rfl
      simp [content, read]
  split
  · next same =>
      subst same
      have read : reference ('l' :: 't' :: ';' :: rest) = some ('<', rest) := rfl
      simp [content, read]
  split
  · next same =>
      subst same
      have read : reference ('g' :: 't' :: ';' :: rest) = some ('>', rest) := rfl
      simp [content, read]
  · next notReference notLess _ => exact content_char notLess notReference opens

/-- Character data is read as the text that it was written from. -/
theorem content_escape {fuel : Nat} {known : List String} {rest : List Char}
    (opens : opensFirst rest = true) (cs run : List Char) :
    content (fuel + cs.length) known run (cs.flatMap escapeChar ++ rest) =
      content fuel known (cs.reverse ++ run) rest := by
  induction cs generalizing run with
  | nil => rfl
  | cons c cs ih =>
      rw [List.flatMap_cons, List.append_assoc, List.length_cons, ← Nat.add_assoc,
        content_escapeChar ((opensFirst_escape cs rest).trans opens), ih, List.reverse_cons,
        List.append_assoc, List.singleton_append]

/-- Whether a text begins like a name. -/
def startsName (cs : List Char) : Bool := cs.head?.any isNameStart

theorem eq_cons_of_startsName {cs : List Char} (lead : startsName cs = true) :
    ∃ c rest, cs = c :: rest ∧ isNameStart c = true := by
  cases cs with
  | nil => cases lead
  | cons c rest => exact ⟨c, rest, rfl, lead⟩

/-- Content is read when an element is, with which it begins, and the content after it. -/
theorem content_of_parts {fuel : Nat} {known : List String} (run : List Char) {n : Node}
    {ns : List Node} {cs₁ cs₂ rest : List Char} (lead : startsName cs₁ = true)
    (first : element fuel known cs₁ = some (n, cs₂))
    (others : content fuel known [] cs₂ = some (ns, rest)) :
    content (fuel + 1) known run ('<' :: cs₁) = some (flush run (n :: ns), rest) := by
  obtain ⟨c, cs, rfl, start⟩ := eq_cons_of_startsName lead
  rw [content]
  · simp [first, others]
  all_goals
    rintro cs same
    obtain ⟨rfl, -⟩ := List.cons.inj same
    exact absurd start (by decide)

/-! ### Elements -/

/-- The text of an element after its opening angle bracket. -/
def tagText (name : List Char) (children : List Node) : List Char :=
  if children.isEmpty then name ++ ['/', '>']
  else name ++ '>' :: ((renderAll children).toList ++ '<' :: '/' :: (name ++ ['>']))

theorem toList_render_element (name : String) (children : List Node) :
    (Node.element name children).render.toList = '<' :: tagText name.toList children := by
  cases children with
  | nil => simp [Node.render, tagText, String.toList_append]
  | cons n ns => simp [Node.render, tagText, String.toList_append]

theorem startsName_tagText {name : List Char} (valid : isName name = true) (children : List Node)
    (rest : List Char) : startsName (tagText name children ++ rest) = true := by
  cases name with
  | nil => cases valid
  | cons c cs =>
      simp only [isName, Bool.and_eq_true] at valid
      unfold tagText
      split
      · exact valid.1
      · exact valid.1

theorem opensFirst_renderAll (ns : List Node) {rest : List Char}
    (opens : opensFirst rest = true) : opensFirst ((renderAll ns).toList ++ rest) = true := by
  induction ns with
  | nil => exact opens
  | cons n ns ih =>
      rw [renderAll, String.toList_append, List.append_assoc]
      cases n with
      | text s => rw [Node.render, escape, String.toList_ofList, opensFirst_escape, ih]
      | element name children => rw [toList_render_element]; rfl

theorem length_le_flatMap_escapeChar (cs : List Char) :
    cs.length ≤ (cs.flatMap escapeChar).length := by
  induction cs with
  | nil => exact Nat.le_refl _
  | cons c cs ih =>
      have some_char : 1 ≤ (escapeChar c).length := by
        unfold escapeChar
        repeat' split
        all_goals simp
      rw [List.flatMap_cons, List.length_append, List.length_cons]
      omega

/-- An element is read if its content is. -/
theorem element_tagText {name : String} (valid : isName name.toList = true) {children : List Node}
    {known : List String}
    (inside : ∀ {fuel}, (renderAll children).toList.length < fuel → ∀ rest,
      content fuel known [] ((renderAll children).toList ++ '<' :: '/' :: rest) =
        some (settle [] children, rest))
    {fuel : Nat} (enough : (tagText name.toList children).length < fuel) (rest : List Char) :
    element fuel known (tagText name.toList children ++ rest) =
      some (.element name (settle [] children), rest) := by
  obtain ⟨fuel, rfl⟩ := Nat.exists_eq_add_one_of_ne_zero (Nat.ne_zero_of_lt enough)
  unfold tagText at enough ⊢
  split at enough
  · next empty =>
      rw [if_pos empty, List.isEmpty_iff.mp empty, List.append_assoc, settle_nil]
      have opened := qName_append valid (c := '/') (by decide) ('>' :: rest)
      rw [String.ofList_toList] at opened
      exact element_of_tag opened (attributes_of_not_isSpace (by decide) _ _)
        (enter?_plain known name)
  · next filled =>
      simp only [List.length_append, List.length_cons] at enough
      rw [if_neg filled]
      simp only [List.append_assoc, List.cons_append, List.nil_append]
      have opened := qName_append valid (c := '>') (by decide)
        ((renderAll children).toList ++ '<' :: '/' :: (name.toList ++ '>' :: rest))
      have closed := qName_append valid (c := '>') (by decide) rest
      rw [String.ofList_toList] at opened closed
      exact element_of_parts opened (attributes_of_not_isSpace (by decide) _ _)
        (enter?_plain known name) (inside (by omega) _) closed

/-- **Content is read up to its closing tag**, and given back as its text shows it. -/
theorem content_renderAll {ns : List Node} (named : Named ns) {fuel : Nat}
    (enough : (renderAll ns).toList.length < fuel) (known : List String) (run rest : List Char) :
    content fuel known run ((renderAll ns).toList ++ '<' :: '/' :: rest) =
      some (settle run ns, rest) := by
  -- The character data before the nodes is general, since a text adds to it; an element is set off
  -- from what it contains, so that two reads with less fuel make up for it.
  induction ns using forest_induction generalizing fuel known run rest with
  | nil =>
      obtain ⟨fuel, rfl⟩ := Nat.exists_eq_add_of_lt enough
      simp [renderAll, content, settle]
  | text s ns ih =>
      rw [Named] at named
      rw [renderAll, String.toList_append, Node.render, escape, String.toList_ofList] at enough ⊢
      rw [List.length_append] at enough
      have short := length_le_flatMap_escapeChar s.toList
      obtain ⟨left, rfl⟩ := Nat.exists_eq_add_of_le' (show s.toList.length ≤ fuel by omega)
      rw [List.append_assoc, content_escape (opensFirst_renderAll ns rfl), settle]
      exact ih named (by omega) known _ rest
  | element name children ns inside ih =>
      rw [Named] at named
      obtain ⟨valid, namedInside, namedAfter⟩ := named
      rw [renderAll, String.toList_append, toList_render_element] at enough ⊢
      simp only [List.cons_append, List.length_cons, List.length_append] at enough
      obtain ⟨fuel, rfl⟩ := Nat.exists_eq_add_one_of_ne_zero (Nat.ne_zero_of_lt enough)
      have enoughInside : (tagText name.toList children).length < fuel := by omega
      have enoughAfter : (renderAll ns).toList.length < fuel := by omega
      have first := element_tagText valid (fun more => inside namedInside more known [])
        enoughInside ((renderAll ns).toList ++ '<' :: '/' :: rest)
      have others := ih namedAfter enoughAfter known [] rest
      rw [settle, List.cons_append, List.cons_append, List.append_assoc]
      exact content_of_parts run (startsName_tagText valid children _) first others

/-! ### Documents -/

/-- What the documents of this library begin with is read as a declaration. -/
theorem declaration_declarationText (rest : List Char) :
    declaration (declarationText.toList ++ rest) = some ((), rest) := rfl

/-- A tag that opens with a name is no mark of any other kind. -/
theorem exists_cons_of_startsName {cs : List Char} (lead : startsName cs = true) :
    ∃ c rest, cs = c :: rest ∧ c ≠ '!' ∧ c ≠ '?' := by
  obtain ⟨c, rest, rfl, start⟩ := eq_cons_of_startsName lead
  refine ⟨c, rest, rfl, ?_, ?_⟩
  all_goals
    rintro rfl
    exact absurd start (by decide)

theorem aside_of_startsName {cs : List Char} (lead : startsName cs = true) :
    aside ('<' :: cs) = none := by
  obtain ⟨c, rest, rfl, notMark, notQuery⟩ := exists_cons_of_startsName lead
  rw [aside]
  · rfl
  · rintro rest same
    exact notMark (List.cons.inj (List.cons.inj same).2).1
  · rintro rest same
    exact notQuery (List.cons.inj (List.cons.inj same).2).1

/-- A document may begin with its root. -/
theorem skipFirst_of_startsName {cs : List Char} (lead : startsName cs = true) :
    skipFirst ('<' :: cs) = none := by
  have noAside := aside_of_startsName lead
  obtain ⟨c, rest, rfl, -, notQuery⟩ := exists_cons_of_startsName lead
  have other : ¬ '?' = c := fun same => notQuery same.symm
  have noDeclaration : declaration ('<' :: c :: rest) = none := by
    simp [declaration, literal, Text.stripLead, other]
  simp [skipFirst, noDeclaration, noAside]

/-- Nothing stands between the declaration and a tag that opens with a name. -/
theorem skipAsides_of_startsName {types : Bool} {fuel : Nat} {cs : List Char}
    (lead : startsName cs = true) : skipAsides types fuel ('<' :: cs) = '<' :: cs := by
  have noAside := aside_of_startsName lead
  obtain ⟨c, rest, rfl, notMark, -⟩ := exists_cons_of_startsName lead
  have other : ¬ '!' = c := fun same => notMark same.symm
  have noTypes : docType ('<' :: c :: rest) = none := by
    simp [docType, literal, Text.stripLead, other]
  cases fuel with
  | zero => rfl
  | succ fuel => cases types <;> simp [skipAsides, noAside, noTypes]

/-- A document is read when the element is that it begins with, with or without a declaration. -/
theorem read?_of_element {s : String} {cs : List Char} {root : Node}
    (form : s.toList = declarationText.toList ++ '<' :: cs ∨ s.toList = '<' :: cs)
    (lead : startsName cs = true)
    (body : ∀ fuel, cs.length < fuel → element fuel ["xml"] cs = some (root, [])) :
    read? s = some root := by
  have finished (fuel : Nat) : skipAsides false (fuel + 1) [] = [] := rfl
  rcases form with declared | bare
  · have start : skipFirst s.toList = some ('<' :: cs) := by
      simp [skipFirst, declared, declaration_declarationText]
    have enough : cs.length < 2 * (s.toList.length + 1) := by
      simp only [declared, List.length_append, List.length_cons]
      omega
    simp [read?, start, skipAsides_of_startsName lead, body _ enough, finished]
  · have start := skipFirst_of_startsName lead
    have enough : cs.length < 2 * (cs.length + 1 + 1) := by omega
    simp [read?, bare, start, body _ enough, finished]

/-- **A document of one element is read as that element**, with or without a declaration. -/
theorem read?_render {name : String} (valid : isName name.toList = true) {children : List Node}
    (named : Named children) :
    read? (declarationText ++ (Node.element name children).render) =
        some (.element name (settle [] children)) ∧
      read? (Node.element name children).render = some (.element name (settle [] children)) := by
  have lead := startsName_tagText valid children []
  have form : (Node.element name children).render.toList =
      '<' :: (tagText name.toList children ++ []) := by
    rw [toList_render_element, List.append_nil]
  have body (fuel : Nat) (enough : (tagText name.toList children ++ []).length < fuel) :
      element fuel ["xml"] (tagText name.toList children ++ []) =
        some (.element name (settle [] children), []) := by
    rw [List.append_nil] at enough
    exact element_tagText valid (fun more => content_renderAll named more ["xml"] []) enough []
  refine ⟨read?_of_element (.inl ?_) lead body, read?_of_element (.inr form) lead body⟩
  rw [String.toList_append, form]

end Interchange.Xml
