import Interchange.Proofs.Xml.Soap
/-!
# Documents are well-formed

The grammar of XML 1.0, as far as the documents of this library use it: a declaration and one
element, whose tags are balanced and nested, with attributes in double quotes, character data and
references to the five entities.  There are no comments, sections, instructions or optional blanks,
so whatever follows this grammar follows that of XML.

Markup is always right.  But XML also restricts the characters of a document, and a text is written
with the characters that it has.  So a document is well-formed exactly if the texts of its value
hold no character that XML forbids.

* `Xml.Element`, `Xml.Content`, `Xml.Document` — the grammar.
* `Xml.WellFormed` — documents that follow it and hold allowed characters alone.
* `Xml.wellFormed_encode_iff` — which documents and envelopes of values are well-formed.
-/

namespace Interchange

mutual

/-- The texts in a value, at every depth.  Keys are none of them. -/
def Value.texts : Value → List String
  | .str s => [s]
  | .list items => Value.itemTexts items
  | .obj members => Value.memberTexts members
  | .null | .bool _ | .num _ => []

/-- The texts in items. -/
def Value.itemTexts : List Value → List String
  | [] => []
  | v :: vs => v.texts ++ Value.itemTexts vs

/-- The texts in members. -/
def Value.memberTexts : List (String × Value) → List String
  | [] => []
  | (_, v) :: ms => v.texts ++ Value.memberTexts ms

end

namespace Xml

/-! ### The grammar -/

/-- The characters that XML 1.0 allows in a document. -/
def isAllowed (c : Char) : Bool :=
  let n := c.toNat
  n = 0x9 || n = 0xA || n = 0xD || (0x20 ≤ n && n ≤ 0xD7FF) || (0xE000 ≤ n && n ≤ 0xFFFD) ||
    0x10000 ≤ n

/-- The names of tags and attributes, which may hold colons. -/
def isTagName : List Char → Bool
  | [] => false
  | c :: cs => (isNameStart c || c = ':') && cs.all fun c => isNameChar c || c = ':'

/-- Character data: neither an angle bracket that opens a tag, nor an ampersand, nor the end of a
marked section. -/
structure CharData (cs : List Char) : Prop where
  noTag : '<' ∉ cs
  noReference : '&' ∉ cs
  noSectionEnd : ¬ [']', ']', '>'] <:+: cs

/-- References to the entities that every document knows. -/
inductive Reference : List Char → Prop
  | entity (name : String) (known : name ∈ ["amp", "lt", "gt", "apos", "quot"]) :
      Reference ('&' :: (name.toList ++ [';']))

/-- An attribute. -/
structure Attribute where
  name : List Char
  value : List Char

namespace Attribute

/-- The text of an attribute behind a name. -/
def text (a : Attribute) : List Char := ' ' :: (a.name ++ '=' :: '"' :: (a.value ++ ['"']))

structure Valid (a : Attribute) : Prop where
  name : isTagName a.name = true
  noTag : '<' ∉ a.value
  noReference : '&' ∉ a.value
  noQuote : '"' ∉ a.value

end Attribute

/-- Whether an element may have a name and attributes. -/
structure IsTag (name : List Char) (as : List Attribute) : Prop where
  name : isTagName name = true
  attributes : ∀ a ∈ as, a.Valid
  distinct : (as.map Attribute.name).Nodup

/-- What an opening tag says. -/
def tagHead (name : List Char) (as : List Attribute) : List Char :=
  name ++ as.flatMap Attribute.text

mutual

/-- **Elements**, whose closing tags have the names of their opening tags. -/
inductive Element : List Char → Prop
  | empty {name : List Char} {as : List Attribute} (tag : IsTag name as) :
      Element ('<' :: (tagHead name as ++ ['/', '>']))
  | filled {name inner : List Char} {as : List Attribute} (tag : IsTag name as)
      (content : Content inner) :
      Element ('<' :: (tagHead name as ++ '>' :: (inner ++ '<' :: '/' :: (name ++ ['>']))))

/-- **The content of elements**: character data with references and elements in between. -/
inductive Content : List Char → Prop
  | data {cs : List Char} (plain : CharData cs) : Content cs
  | reference {cs reference rest : List Char} (plain : CharData cs) (known : Reference reference)
      (more : Content rest) : Content (cs ++ (reference ++ rest))
  | element {cs element rest : List Char} (plain : CharData cs) (inside : Element element)
      (more : Content rest) : Content (cs ++ (element ++ rest))

end

/-- **Documents**: a declaration, and one element. -/
inductive Document : List Char → Prop
  | of {encoding root : List Char} (encoded : isEncoding encoding = true) (element : Element root) :
      Document ("<?xml version=\"1.0\" encoding=\"".toList ++ (encoding ++ ("\"?>".toList ++ root)))

/-- **Well-formed documents** follow the grammar, and all of their characters are allowed. -/
structure WellFormed (s : String) : Prop where
  document : Document s.toList
  allowed : ∀ c ∈ s.toList, isAllowed c = true

/-! ### Markup -/

theorem isTagName_of_isName {cs : List Char} (valid : isName cs = true) : isTagName cs = true := by
  cases cs with
  | nil => cases valid
  | cons c cs =>
      simp only [isName, Bool.and_eq_true, List.all_eq_true] at valid
      simp only [isTagName, valid.1, Bool.true_or, Bool.true_and, List.all_eq_true]
      intro d member
      rw [valid.2 d member, Bool.true_or]

theorem IsTag.plain {name : List Char} (valid : isTagName name = true) : IsTag name [] :=
  ⟨valid, fun _ member => absurd member List.not_mem_nil, List.nodup_nil⟩

theorem charData_nil : CharData [] := by
  refine ⟨List.not_mem_nil, List.not_mem_nil, fun inside => ?_⟩
  exact absurd (List.infix_nil.mp inside) (List.cons_ne_nil _ _)

/-- A character that is no markup goes before character data that does not begin with the end of a
marked section. -/
theorem CharData.cons {c : Char} {cs rest : List Char} (notLess : c ≠ '<') (notReference : c ≠ '&')
    (opens : opensFirst (cs ++ rest) = true) (plain : CharData cs) : CharData (c :: cs) := by
  refine ⟨?_, ?_, fun inside => ?_⟩
  · exact List.not_mem_cons_of_ne_of_not_mem (Ne.symm notLess) plain.noTag
  · exact List.not_mem_cons_of_ne_of_not_mem (Ne.symm notReference) plain.noReference
  · rcases List.infix_cons_iff.mp inside with lead | further
    · obtain ⟨more, rfl⟩ := (List.cons_prefix_cons.mp lead).2
      exact ne_sectionEnd opens _ rfl
    · exact plain.noSectionEnd further

theorem Content.cons {c : Char} {cs : List Char} (notLess : c ≠ '<') (notReference : c ≠ '&')
    (opens : opensFirst cs = true) (content : Content cs) : Content (c :: cs) := by
  cases content with
  | data plain =>
      exact .data (plain.cons notLess notReference (by rwa [List.append_nil]))
  | reference plain known more =>
      exact .reference (plain.cons notLess notReference opens) known more
  | element plain inside more =>
      exact .element (plain.cons notLess notReference opens) inside more

/-- A character of a text goes before content, as itself or as a reference. -/
theorem content_escapeChar_append (c : Char) {rest : List Char} (opens : opensFirst rest = true)
    (content : Content rest) : Content (escapeChar c ++ rest) := by
  unfold escapeChar
  split
  · exact .reference charData_nil (.entity "amp" (by decide)) content
  split
  · exact .reference charData_nil (.entity "lt" (by decide)) content
  split
  · exact .reference charData_nil (.entity "gt" (by decide)) content
  · next notReference notLess _ => exact content.cons notLess notReference opens

theorem content_escape_append (cs : List Char) {rest : List Char} (opens : opensFirst rest = true)
    (content : Content rest) : Content (cs.flatMap escapeChar ++ rest) := by
  induction cs with
  | nil => exact content
  | cons c cs ih =>
      rw [List.flatMap_cons, List.append_assoc]
      exact content_escapeChar_append c ((opensFirst_escape cs rest).trans opens) ih

/-- The text of an element is an element if that of its children is content. -/
theorem element_tagText_of_content {name : List Char} (valid : isName name = true)
    {children : List Node} (content : Content (renderAll children).toList) :
    Element ('<' :: tagText name children) := by
  have tag := IsTag.plain (isTagName_of_isName valid)
  have head : tagHead name [] = name := List.append_nil name
  unfold tagText
  split
  · have element := Element.empty tag
    rwa [head] at element
  · have element := Element.filled tag content
    rwa [head] at element

/-- **The text of nodes whose elements have names is content.** -/
theorem content_of_named {ns : List Node} (named : Named ns) : Content (renderAll ns).toList := by
  induction ns using forest_induction with
  | nil => exact .data charData_nil
  | text s ns ih =>
      have opens : opensFirst ((renderAll ns).toList ++ []) = true := opensFirst_renderAll ns rfl
      rw [List.append_nil] at opens
      rw [Named] at named
      rw [renderAll, String.toList_append, Node.render, escape, String.toList_ofList]
      exact content_escape_append _ opens (ih named)
  | element name children ns inside ih =>
      rw [Named] at named
      rw [renderAll, String.toList_append, toList_render_element]
      exact .element charData_nil (element_tagText_of_content named.1 (inside named.2.1))
        (ih named.2.2)

/-! ### Characters -/

theorem isAllowed_of_isNumeric {c : Char} (numeric : isNumeric c = true) : isAllowed c = true := by
  have code := toNat_of_isNumeric numeric
  simp only [isAllowed, Bool.or_eq_true, Bool.and_eq_true, decide_eq_true_eq]
  omega

theorem isAllowed_of_isNameStart {c : Char} (start : isNameStart c = true) :
    isAllowed c = true := by
  by_cases alpha : c.isAlpha = true
  · exact isAllowed_of_isNumeric (by simp [isNumeric, Char.isAlphanum, alpha])
  by_cases underscore : c = '_'
  · subst underscore; decide
  simp only [isNameStart, alpha, underscore, Bool.or_eq_true, Bool.and_eq_true, decide_eq_true_eq,
    false_or, Bool.false_eq_true] at start
  simp only [isAllowed, Bool.or_eq_true, Bool.and_eq_true, decide_eq_true_eq]
  omega

theorem isAllowed_of_isNameChar {c : Char} (inside : isNameChar c = true) :
    isAllowed c = true := by
  simp only [isNameChar, Bool.or_eq_true, Bool.and_eq_true, decide_eq_true_eq] at inside
  rcases inside with (((((start | digit) | rfl) | rfl) | middle) | marks) | ties
  · exact isAllowed_of_isNameStart start
  · exact isAllowed_of_isNumeric (by simp [isNumeric, Char.isAlphanum, digit])
  · decide
  · decide
  all_goals
    simp only [isAllowed, Bool.or_eq_true, Bool.and_eq_true, decide_eq_true_eq]
    omega

/-- Whether all characters of a text are allowed. -/
def IsClean (s : String) : Prop := ∀ c ∈ s.toList, isAllowed c = true

theorem isClean_empty : IsClean "" := by
  intro c member
  exact absurd member (by simp)

/-- The texts of nodes, at every depth. -/
def allTexts : List Node → List String
  | [] => []
  | .text s :: ns => s :: allTexts ns
  | .element _ children :: ns => allTexts children ++ allTexts ns

/-- Escaping neither hides a character nor adds one that is not allowed. -/
theorem allowed_escape_iff (s : String) :
    (∀ c ∈ (escape s).toList, isAllowed c = true) ↔ IsClean s := by
  have each : ∀ d, (∀ c ∈ escapeChar d, isAllowed c = true) ↔ isAllowed d = true := by
    intro d
    rw [← List.all_eq_true, escapeChar]
    split
    · next same => subst same; decide
    split
    · next same => subst same; decide
    split
    · next same => subst same; decide
    · simp
  rw [escape, String.toList_ofList, IsClean]
  simp only [List.mem_flatMap]
  constructor
  · exact fun all d member => (each d).mp fun c inside => all c ⟨d, member, inside⟩
  · rintro all c ⟨d, member, inside⟩
    exact (each d).mpr (all d member) c inside

theorem allowed_of_isName {name : List Char} (valid : isName name = true) :
    ∀ c ∈ name, isAllowed c = true := by
  cases name with
  | nil => cases valid
  | cons c cs =>
      simp only [isName, Bool.and_eq_true, List.all_eq_true] at valid
      rw [List.forall_mem_cons]
      exact ⟨isAllowed_of_isNameStart valid.1,
        fun d member => isAllowed_of_isNameChar (valid.2 d member)⟩

/-- The characters of tags are allowed. -/
theorem allowed_tagText_iff {name : List Char} (valid : isName name = true) (children : List Node) :
    (∀ c ∈ '<' :: tagText name children, isAllowed c = true) ↔
      ∀ c ∈ (renderAll children).toList, isAllowed c = true := by
  have names := allowed_of_isName valid
  have less : isAllowed '<' = true := by decide
  have greater : isAllowed '>' = true := by decide
  have slash : isAllowed '/' = true := by decide
  unfold tagText
  split
  · next empty =>
      rw [List.isEmpty_iff.mp empty, renderAll]
      simp only [List.forall_mem_cons, List.forall_mem_append, less, greater, slash, true_and]
      exact ⟨fun _ => isClean_empty, fun _ => ⟨names, List.forall_mem_nil _⟩⟩
  · simp only [List.forall_mem_cons, List.forall_mem_append, less, greater, slash, true_and]
    exact ⟨fun all => all.2.1, fun inside => ⟨names, inside, names, List.forall_mem_nil _⟩⟩

theorem allowed_renderAll_iff {ns : List Node} (named : Named ns) :
    (∀ c ∈ (renderAll ns).toList, isAllowed c = true) ↔ ∀ s ∈ allTexts ns, IsClean s := by
  induction ns using forest_induction with
  | nil => simp [renderAll, allTexts]
  | text s ns ih =>
      rw [Named] at named
      rw [renderAll, String.toList_append, List.forall_mem_append, Node.render, allowed_escape_iff,
        ih named, allTexts, List.forall_mem_cons]
  | element name children ns inside ih =>
      rw [Named] at named
      rw [renderAll, String.toList_append, List.forall_mem_append, ih named.2.2, allTexts,
        List.forall_mem_append, toList_render_element, allowed_tagText_iff named.1,
        inside named.2.1]

/-! ### Values -/

theorem allTexts_append (ms ns : List Node) :
    allTexts (ms ++ ns) = allTexts ms ++ allTexts ns := by
  induction ms with
  | nil => rw [allTexts, List.nil_append, List.nil_append]
  | cons m ms ih =>
      cases m with
      | text s => rw [List.cons_append, allTexts, allTexts, ih, List.cons_append]
      | element name children => rw [List.cons_append, allTexts, allTexts, ih, List.append_assoc]

theorem isClean_render_number (n : Number) : IsClean n.render :=
  fun c member => isAllowed_of_isNumeric (n.numeric_render c member)

theorem isClean_render_bool (b : Bool) : IsClean (Value.bool b).render := by
  cases b with
  | true => exact List.all_eq_true.mp (by decide)
  | false => exact List.all_eq_true.mp (by decide)

mutual

/-- What texts there are in the elements of a value, the texts of numbers and truth values and empty
ones apart, are those of the value. -/
theorem clean_nodesOf_iff : ∀ (name : String) (v : Value),
    (∀ s ∈ allTexts (nodesOf name v), IsClean s) ↔ ∀ s ∈ v.texts, IsClean s
  | name, .null => by simp [nodesOf, allTexts, Value.texts]
  | name, .bool b => by simp [nodesOf, allTexts, Value.texts, isClean_render_bool]
  | name, .num n => by simp [nodesOf, allTexts, Value.texts, Value.render, isClean_render_number]
  | name, .str s => by simp [nodesOf, allTexts, Value.texts]
  | name, .list items => by
      rw [nodesOf, Value.texts]
      exact clean_itemNodes_iff (elementName name) items
  | name, .obj ms => by
      simp [nodesOf, allTexts, Value.texts, isClean_empty, clean_memberNodes_iff ms]

theorem clean_itemNodes_iff : ∀ (name : String) (items : List Value),
    (∀ s ∈ allTexts (itemNodes name items), IsClean s) ↔
      ∀ s ∈ Value.itemTexts items, IsClean s
  | name, [] => by simp [itemNodes, allTexts, Value.itemTexts]
  | name, v :: vs => by
      rw [itemNodes, allTexts_append, Value.itemTexts, List.forall_mem_append,
        List.forall_mem_append, clean_nodesOf_iff name v, clean_itemNodes_iff name vs]

theorem clean_memberNodes_iff : ∀ ms : List (String × Value),
    (∀ s ∈ allTexts (memberNodes ms), IsClean s) ↔ ∀ s ∈ Value.memberTexts ms, IsClean s
  | [] => by simp [memberNodes, allTexts, Value.memberTexts]
  | (k, v) :: ms => by
      rw [memberNodes, allTexts_append, Value.memberTexts, List.forall_mem_append,
        List.forall_mem_append, clean_nodesOf_iff k v, clean_memberNodes_iff ms]

end

/-- The root of a value has a name, and so have the elements in it; its texts are those of the
value. -/
theorem exists_root (root : String) (v : Value) :
    ∃ children, ofValue root v = .element (elementName root) children ∧ Named children ∧
      ((∀ s ∈ allTexts children, IsClean s) ↔ ∀ s ∈ v.texts, IsClean s) := by
  cases single : v.isList with
  | false =>
      obtain ⟨children, written, alone⟩ := nodesOf_eq_ofValue single root
      have named := named_nodesOf root v
      have clean := clean_nodesOf_iff root v
      rw [alone, Named] at named
      rw [alone, allTexts, allTexts, List.append_nil] at clean
      exact ⟨children, written, named.2.1, clean⟩
  | true =>
      obtain ⟨items, rfl⟩ : ∃ items, v = .list items := by
        cases v with
        | list items => exact ⟨items, rfl⟩
        | _ => cases single
      refine ⟨_, rfl, ?_, ?_⟩
      · rw [Named]
        exact named_itemNodes "item" items
      · rw [allTexts, List.forall_mem_cons, Value.texts, clean_itemNodes_iff]
        exact and_iff_right isClean_empty

/-! ### Documents -/

/-- An element behind the declaration of this library is a document. -/
theorem document_of_element {root : List Char} (element : Element root) :
    Document (declarationText.toList ++ root) := by
  have declared : declarationText.toList = "<?xml version=\"1.0\" encoding=\"".toList ++
      ("UTF-8".toList ++ "\"?>".toList) := by decide +kernel
  rw [declared, List.append_assoc, List.append_assoc]
  exact .of (by decide) element

/-- The one attribute of an envelope. -/
def envelopeAttribute : Attribute := ⟨"xmlns:soapenv".toList, Soap.envelopeNamespace.toList⟩

theorem isTag_envelope : IsTag "soapenv:Envelope".toList [envelopeAttribute] := by
  refine ⟨by decide +kernel, fun a member => ?_, List.nodup_cons.mpr ⟨by simp, List.nodup_nil⟩⟩
  rw [List.eq_of_mem_singleton member]
  exact ⟨by decide +kernel, by decide +kernel, by decide +kernel, by decide +kernel⟩

/-- An element that holds an empty one, and one that holds some content. -/
theorem element_of_parts_of_envelope {outer first second inner : List Char} {as : List Attribute}
    (tag : IsTag outer as) (firstTag : IsTag first []) (secondTag : IsTag second [])
    (content : Content inner) {a b c d e : List Char} (opening : a ++ b = tagHead outer as ++ ['>'])
    (empty : c = first ++ ['/', '>']) (filled : d = second ++ ['>'])
    (closing : e = outer ++ ['>']) :
    Element ('<' :: (a ++ (b ++ '<' :: (c ++ '<' :: (d ++ (inner ++ '<' :: '/' ::
      (d ++ '<' :: '/' :: e))))))) := by
  have body := Content.element charData_nil (.filled secondTag content) (.data charData_nil)
  have envelope := Element.filled tag (.element charData_nil (.empty firstTag) body)
  rw [← List.append_assoc, opening, empty, filled, closing]
  simpa [tagHead] using envelope

/-- **An envelope is an element** if what its body holds is content. -/
theorem element_envelopeText {ns : List Node} (content : Content (renderAll ns).toList) :
    Element ('<' :: Soap.envelopeText ns) :=
  element_of_parts_of_envelope isTag_envelope
    (.plain (show isTagName "soapenv:Header".toList by decide +kernel))
    (.plain (show isTagName "soapenv:Body".toList by decide +kernel)) content
    (by decide +kernel) (by decide +kernel) (by decide +kernel) (by decide +kernel)

theorem allowed_parts_of_envelope_iff {a b c d e inner : List Char}
    (ha : a.all isAllowed = true) (hb : b.all isAllowed = true)
    (hc : c.all isAllowed = true) (hd : d.all isAllowed = true)
    (he : e.all isAllowed = true) :
    (∀ x ∈ '<' :: (a ++ (b ++ '<' :: (c ++ '<' :: (d ++ (inner ++ '<' :: '/' ::
      (d ++ '<' :: '/' :: e)))))), isAllowed x = true) ↔ ∀ x ∈ inner, isAllowed x = true := by
  have less : isAllowed '<' = true := by decide
  have slash : isAllowed '/' = true := by decide
  rw [List.all_eq_true] at ha hb hc hd he
  simp only [List.forall_mem_cons, List.forall_mem_append, less, slash, true_and]
  exact ⟨fun all => all.2.2.2.2.1, fun inside => ⟨ha, hb, hc, hd, inside, hd, he⟩⟩

/-- The characters of an envelope that its body does not hold are allowed. -/
theorem allowed_envelopeText_iff (ns : List Node) :
    (∀ c ∈ '<' :: Soap.envelopeText ns, isAllowed c = true) ↔
      ∀ c ∈ (renderAll ns).toList, isAllowed c = true :=
  allowed_parts_of_envelope_iff (by decide +kernel) (by decide +kernel) (by decide +kernel)
    (by decide +kernel) (by decide +kernel)

/-- A text of a declaration and an element is a document, and well-formed if the characters of the
element are allowed. -/
theorem wellFormed_of_element {s : String} {root : List Char}
    (form : s.toList = declarationText.toList ++ root) (element : Element root) :
    Document s.toList ∧ (WellFormed s ↔ ∀ c ∈ root, isAllowed c = true) := by
  have declared : ∀ c ∈ declarationText.toList, isAllowed c = true :=
    List.all_eq_true.mp (by decide +kernel)
  have document : Document s.toList := form ▸ document_of_element element
  refine ⟨document, fun formed => ?_, fun inside => ⟨document, ?_⟩⟩
  · have allowed := formed.allowed
    rw [form, List.forall_mem_append] at allowed
    exact allowed.2
  · rw [form, List.forall_mem_append]
    exact ⟨declared, inside⟩

/-- **When documents are well-formed.**  The markup of every document and every envelope follows the
grammar, and all of their characters are allowed exactly if those of the texts of the value are. -/
theorem wellFormed_encode_iff (v : Value) (name : String) :
    Document (encode v name).toList ∧ Document (Soap.encode v name).toList ∧
    (WellFormed (encode v name) ↔ ∀ s ∈ v.texts, IsClean s) ∧
    (WellFormed (Soap.encode v name) ↔ ∀ s ∈ v.texts, IsClean s) := by
  obtain ⟨children, written, named, clean⟩ := exists_root name v
  have valid := isName_elementName name
  have alone : Named [ofValue name v] := by
    rw [written, Named]
    exact ⟨valid, named, by rw [Named]; trivial⟩
  have plain : (encode v name).toList =
      declarationText.toList ++ '<' :: tagText (elementName name).toList children := by
    rw [encode, String.toList_append, written, toList_render_element]
  have document := wellFormed_of_element plain
    (element_tagText_of_content valid (content_of_named named))
  have envelope := wellFormed_of_element (Soap.toList_encode v name)
    (element_envelopeText (content_of_named alone))
  rw [allowed_tagText_iff valid, allowed_renderAll_iff named, clean] at document
  rw [allowed_envelopeText_iff, allowed_renderAll_iff alone, written, allTexts, allTexts,
    List.append_nil, clean] at envelope
  exact ⟨document.1, envelope.1, document.2, envelope.2⟩

/-- A control character is written as it is, and neither the document nor the envelope is one. -/
theorem control_character_written :
    let v := Value.obj [("note", .str "\x01")]
    ¬ WellFormed (encode v "Quote") ∧ ¬ WellFormed (Soap.encode v "Quote") := by
  intro v
  have forbidden : isAllowed '\x01' = false := by decide
  have inDocument : '\x01' ∈ (encode v "Quote").toList := by decide +kernel
  have inEnvelope : '\x01' ∈ (Soap.encode v "Quote").toList := by decide +kernel
  refine ⟨fun formed => ?_, fun formed => ?_⟩
  · exact Bool.noConfusion (forbidden.symm.trans (formed.allowed _ inDocument))
  · exact Bool.noConfusion (forbidden.symm.trans (formed.allowed _ inEnvelope))

end Xml

end Interchange
