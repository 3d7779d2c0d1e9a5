import Interchange.Xml.Reader
/-!
# Trees and their text

What a reader needs to know about the text of a tree: the names in it are names, its character data
holds no angle brackets, and its runs of text have lost their seams.

* `Xml.isPlainName` — the names `[A-Za-z_][A-Za-z0-9_.-]*`, which `elementName` makes from any text
  and leaves as they are.
* `Xml.settle` — a tree as its text shows it: neighbouring texts joined, empty ones left out.
* `Xml.forest_induction` — induction over the nodes of a tree.
-/

namespace Interchange.Xml

/-! ### Names -/

/-- The names `[A-Za-z_][A-Za-z0-9_.-]*`. -/
def isPlainName : List Char → Bool
  | [] => false
  | c :: cs => (c.isAlpha || c = '_') && cs.all isPlainNameChar

/-- The names of XML, without a prefix. -/
def isName : List Char → Bool
  | [] => false
  | c :: cs => isNameStart c && cs.all isNameChar

/-- Letters and the underscore may begin a name. -/
theorem isNameStart_of_alpha {c : Char} (lead : c.isAlpha = true ∨ c = '_') :
    isNameStart c = true := by
  rcases lead with alpha | rfl
  · simp [isNameStart, alpha]
  · decide

/-- Plain characters may stand in a name. -/
theorem isNameChar_of_plain {c : Char} (plain : isPlainNameChar c = true) :
    isNameChar c = true := by
  simp only [isPlainNameChar, Char.isAlphanum, Bool.or_eq_true, decide_eq_true_eq] at plain
  rcases plain with (((alpha | digit) | rfl) | rfl) | rfl
  · simp [isNameChar, isNameStart_of_alpha (.inl alpha)]
  · simp [isNameChar, digit]
  all_goals decide

/-- **Plain names are names of XML.** -/
theorem isName_of_plain {cs : List Char} (plain : isPlainName cs = true) : isName cs = true := by
  cases cs with
  | nil => exact plain
  | cons c cs =>
      simp only [isPlainName, Bool.and_eq_true, Bool.or_eq_true, decide_eq_true_eq,
        List.all_eq_true] at plain
      simp only [isName, Bool.and_eq_true, List.all_eq_true]
      exact ⟨isNameStart_of_alpha plain.1, fun d member => isNameChar_of_plain (plain.2 d member)⟩

theorem isPlainNameChar_replaced (c : Char) :
    isPlainNameChar (if isPlainNameChar c then c else '_') = true := by
  split
  · assumption
  · decide

/-- Any text is made into a plain name: what may not stand in one is replaced, and what may not
begin one is moved behind an underscore. -/
theorem isPlainName_nameOf (cs : List Char) : isPlainName (nameOf cs) = true := by
  cases cs with
  | nil => rfl
  | cons c cs =>
      have others : (cs.map fun c => if isPlainNameChar c then c else '_').all isPlainNameChar := by
        simp [isPlainNameChar_replaced]
      have first := isPlainNameChar_replaced c
      simp only [nameOf, List.map_cons]
      generalize (if isPlainNameChar c = true then c else '_') = d at first ⊢
      by_cases lead : (d.isAlpha || d = '_') = true
      · rw [if_pos lead, isPlainName, lead, others, Bool.and_self]
      · rw [if_neg lead, isPlainName, List.all_cons, first, others]
        rfl

/-- A plain name is left as it is. -/
theorem nameOf_eq_self {cs : List Char} (plain : isPlainName cs = true) : nameOf cs = cs := by
  cases cs with
  | nil => cases plain
  | cons c cs =>
      simp only [isPlainName, Bool.and_eq_true, List.all_eq_true] at plain
      obtain ⟨lead, others⟩ := plain
      have first : isPlainNameChar c = true := by
        rcases Bool.or_eq_true_iff.mp lead with alpha | underscore
        · simp [isPlainNameChar, Char.isAlphanum, alpha]
        · simp [isPlainNameChar, of_decide_eq_true underscore]
      have kept : cs.map (fun c => if isPlainNameChar c then c else '_') = cs := by
        refine (List.map_congr_left fun d member => ?_).trans (List.map_id cs)
        rw [if_pos (others d member), id]
      simp only [nameOf, List.map_cons, first, kept, if_true]
      exact if_pos lead

/-- A text that is a plain name is the name of its element. -/
theorem elementName_eq_self {s : String} (plain : isPlainName s.toList = true) :
    elementName s = s := by
  rw [elementName, nameOf_eq_self plain, String.ofList_toList]

/-- The name of an element is plain, whatever text it is made of. -/
theorem isPlainName_elementName (s : String) : isPlainName (elementName s).toList = true := by
  rw [elementName, String.toList_ofList]
  exact isPlainName_nameOf _

@[simp] theorem elementName_elementName (s : String) :
    elementName (elementName s) = elementName s :=
  elementName_eq_self (isPlainName_elementName s)

/-! ### Nodes -/

/-- Induction over nodes, their contents and their right neighbours. -/
@[elab_as_elim]
theorem forest_induction {motive : List Node → Prop} (nil : motive [])
    (text : ∀ s ns, motive ns → motive (.text s :: ns))
    (element : ∀ name children ns, motive children → motive ns →
      motive (.element name children :: ns)) : ∀ ns, motive ns
  | [] => nil
  | .text s :: ns => text s ns (forest_induction nil text element ns)
  | .element name children :: ns =>
    element name children ns (forest_induction nil text element children)
      (forest_induction nil text element ns)

/-- Whether all elements of a forest have names of XML. -/
def Named : List Node → Prop
  | [] => True
  | .text _ :: ns => Named ns
  | .element name children :: ns => isName name.toList = true ∧ Named children ∧ Named ns

/-- Nodes beside one another are named one by one. -/
theorem named_append {ms ns : List Node} : Named (ms ++ ns) ↔ Named ms ∧ Named ns := by
  induction ms with
  | nil => simp [Named]
  | cons m ms ih =>
      cases m with
      | text s => simp only [List.cons_append, Named, ih]
      | element name children => simp only [List.cons_append, Named, ih, and_assoc]

/-- **Nodes as their text shows them**: neighbouring texts are one, and there are no empty texts.
`run` holds the character data before the nodes, last first. -/
def settle : (run : List Char) → List Node → List Node
  | run, [] => flush run []
  | run, .text s :: ns => settle (s.toList.reverse ++ run) ns
  | run, .element name children :: ns =>
    flush run (.element name (settle [] children) :: settle [] ns)

@[simp] theorem flush_nil (ns : List Node) : flush [] ns = ns := by
  simp [flush]

@[simp] theorem settle_nil : settle [] [] = [] := by
  rw [settle, flush_nil]

/-! ### Character data -/

/-- Whether the first angle bracket of a text, if it has one, opens a tag. -/
def opensFirst : List Char → Bool
  | [] => true
  | c :: cs => if c = '<' then true else if c = '>' then false else opensFirst cs

/-- An escaped character has no angle bracket, so it does not decide which one comes first. -/
theorem opensFirst_escapeChar (c : Char) (rest : List Char) :
    opensFirst (escapeChar c ++ rest) = opensFirst rest := by
  unfold escapeChar
  split
  · simp [opensFirst]
  split
  · simp [opensFirst]
  split
  · simp [opensFirst]
  · next notLess notGreater => simp [opensFirst, notLess, notGreater]

/-- Nor does an escaped text. -/
theorem opensFirst_escape (cs rest : List Char) :
    opensFirst (cs.flatMap escapeChar ++ rest) = opensFirst rest := by
  induction cs with
  | nil => rfl
  | cons c cs ih => rw [List.flatMap_cons, List.append_assoc, opensFirst_escapeChar, ih]

/-- A text whose first angle bracket opens a tag does not end a marked section. -/
theorem ne_sectionEnd {cs : List Char} (opens : opensFirst cs = true) (rest : List Char) :
    cs ≠ ']' :: '>' :: rest := by
  rintro rfl
  simp [opensFirst] at opens

end Interchange.Xml
