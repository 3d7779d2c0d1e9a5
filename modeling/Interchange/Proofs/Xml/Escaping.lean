import Interchange.Proofs.Text.Replacing
import Interchange.Proofs.Xml.Fallback
/-!
# Escaping and its undoing

Entities are resolved one after the other, each in the whole text, and not by reading the text once.
As long as the ampersands of a text are written as references, every other ampersand in it begins a
reference as well, and each pass takes back one character without touching what is written for the
others.  The ampersand comes last, so that what looks like an entity in the text itself is never
resolved.

* `Xml.partly` — a text in which only some characters are still written as references.
* `Xml.replace_partly` — what one pass does to it.
* `Xml.Escaped` — a text in which no markup is left.
* `Xml.unescape_escape` — escaped texts are such, and are given back.
-/

namespace Interchange.Xml

/-- The characters that are escaped. -/
def marks : List Char := ['&', '<', '>']

theorem escapeChar_of_not_mem {c : Char} (plain : c ∉ marks) : escapeChar c = [c] := by
  simp only [marks, List.mem_cons, List.not_mem_nil, or_false, not_or] at plain
  rw [escapeChar, if_neg plain.1, if_neg plain.2.1, if_neg plain.2.2]

/-! ### One entity after the other -/

/-- A character while only some are still written as references. -/
def pending (left : List Char) (c : Char) : List Char := if c ∈ left then escapeChar c else [c]

/-- **A text in which only some characters are still written as references.** -/
def partly (left : List Char) (s : String) : String :=
  String.ofList (s.toList.flatMap (pending left))

theorem escape_eq_partly (s : String) : escape s = partly marks s := by
  have each : escapeChar = pending marks := by
    funext c
    by_cases mark : c ∈ marks
    · rw [pending, if_pos mark]
    · rw [pending, if_neg mark, escapeChar_of_not_mem mark]
  rw [escape, partly, each]

theorem partly_nil (s : String) : partly [] s = s := by
  have each : pending [] = fun c => [c] := funext fun c => if_neg List.not_mem_nil
  rw [partly, each, List.flatMap_singleton', String.ofList_toList]

/-- An entity is what is written for the character that it stands for, and clear of what is written
for the others. -/
theorem entity_of_mark : ∀ e ∈ entities, ∀ d ∈ marks,
    e.1.toList = escapeChar d ∧ e.2.toList = [d] ∨
      e.2.toList ≠ [d] ∧ Text.Clear e.1.toList (escapeChar d) := by
  intro e entity d mark
  simp only [marks, List.mem_cons, List.not_mem_nil, or_false] at mark
  revert e
  rcases mark with rfl | rfl | rfl <;> decide

theorem clear_of_ne {part : List Char} (reference : part.head? = some '&') {c : Char}
    (plain : c ≠ '&') : Text.Clear part [c] := by
  obtain ⟨name, rfl⟩ := List.head?_eq_some_iff.mp reference
  refine ⟨fun begun => ?_, fun begun => ?_, by simp⟩
  · exact plain (List.cons_prefix_cons.mp begun).1.symm
  · exact plain (List.cons_prefix_cons.mp begun).1

/-- **What one pass does to a text**: as long as the ampersand is written as a reference, an entity
takes back the character that it stands for, and no other. -/
theorem replace_partly {e : String × String} (entity : e ∈ entities) {c : Char}
    (standsFor : e.2.toList = [c]) {left : List Char} (marked : left ⊆ marks)
    (ampersand : '&' ∈ left) (s : String) :
    Text.replace e.1 e.2 (partly left s) = partly (left.filter (· ≠ c)) s := by
  have begun := head?_entities e entity
  have filled : e.1.toList ≠ [] := List.ne_nil_of_mem (List.mem_of_head? begun)
  rw [Text.replace, partly, String.toList_ofList, partly, Text.replaceList_flatMap filled]
  intro d _
  simp only [pending, List.mem_filter, decide_eq_true_eq, standsFor]
  by_cases inside : d ∈ left
  · rcases entity_of_mark e entity d (marked inside) with ⟨reference, same⟩ | ⟨other, clear⟩
    · obtain rfl : c = d := List.singleton_inj.mp (standsFor.symm.trans same)
      exact .inl ⟨by rw [if_pos inside, reference], by simp⟩
    · have ne : d ≠ c := fun same => other (same ▸ standsFor)
      rw [if_pos inside, if_pos ⟨inside, ne⟩]
      exact .inr ⟨rfl, clear⟩
  · have plain : d ≠ '&' := fun same => inside (same ▸ ampersand)
    rw [if_neg inside, if_neg fun both => inside both.1]
    exact .inr ⟨rfl, clear_of_ne begun plain⟩

/-- The entities take the marks back one after the other, the ampersand last. -/
theorem unescape_partly (s : String) : unescape (partly marks s) = s := by
  have less : Text.replace "&lt;" "<" (partly ['&', '<', '>'] s) = partly ['&', '>'] s :=
    replace_partly (e := ("&lt;", "<")) (by decide) rfl (by decide) (by decide) s
  have greater : Text.replace "&gt;" ">" (partly ['&', '>'] s) = partly ['&'] s :=
    replace_partly (e := ("&gt;", ">")) (by decide) rfl (by decide) (by decide) s
  -- The two kinds of quotes are never escaped, so that nothing is found of their entities.
  have quote : Text.replace "&quot;" "\"" (partly ['&'] s) = partly ['&'] s :=
    replace_partly (e := ("&quot;", "\"")) (by decide) rfl (by decide) (by decide) s
  have apostrophe : Text.replace "&apos;" "'" (partly ['&'] s) = partly ['&'] s :=
    replace_partly (e := ("&apos;", "'")) (by decide) rfl (by decide) (by decide) s
  have ampersand : Text.replace "&amp;" "&" (partly ['&'] s) = partly [] s :=
    replace_partly (e := ("&amp;", "&")) (by decide) rfl (by decide) (by decide) s
  change Text.replace "&amp;" "&" (Text.replace "&apos;" "'" (Text.replace "&quot;" "\""
    (Text.replace "&gt;" ">" (Text.replace "&lt;" "<" (partly ['&', '<', '>'] s))))) = s
  rw [less, greater, quote, apostrophe, ampersand, partly_nil]

/-! ### What is left of markup -/

/-- **No markup is left in a text**: there are no angle brackets in it, and each of its ampersands
begins one of three references. -/
structure Escaped (t : String) : Prop where
  noLess : '<' ∉ t.toList
  noGreater : '>' ∉ t.toList
  reference : ∀ before after, t.toList = before ++ '&' :: after →
    ∃ r ∈ ["&amp;", "&lt;", "&gt;"], r.toList <+: '&' :: after

/-- What is written for a character has no angle brackets in it, and no ampersand but at the
beginning of a reference. -/
theorem escapeChar_escaped (c : Char) :
    '<' ∉ escapeChar c ∧ '>' ∉ escapeChar c ∧ '&' ∉ (escapeChar c).tail ∧
      ((escapeChar c).head? = some '&' →
        String.ofList (escapeChar c) ∈ ["&amp;", "&lt;", "&gt;"]) := by
  by_cases mark : c ∈ marks
  · simp only [marks, List.mem_cons, List.not_mem_nil, or_false] at mark
    rcases mark with rfl | rfl | rfl <;> decide
  · rw [escapeChar_of_not_mem mark]
    simp only [marks, List.mem_cons, List.not_mem_nil, or_false, not_or] at mark
    simp [mark.1, Ne.symm mark.2.1, Ne.symm mark.2.2]

theorem reference_of_flatMap {cs before after : List Char}
    (split : cs.flatMap escapeChar = before ++ '&' :: after) :
    ∃ r ∈ ["&amp;", "&lt;", "&gt;"], r.toList <+: '&' :: after := by
  induction cs generalizing before with
  | nil => simp at split
  | cons c cs ih =>
      obtain ⟨-, -, onlyFirst, reference⟩ := escapeChar_escaped c
      rw [List.flatMap_cons] at split
      rcases List.append_eq_append_iff.mp split with ⟨more, -, later⟩ | ⟨part, cut, rest⟩
      · exact ih later
      · cases part with
        | nil => exact ih (rest.symm.trans (List.nil_append _).symm)
        | cons d part =>
            obtain ⟨rfl, -⟩ := List.cons.inj rest
            -- The ampersand is the first character of what is written, which is thus a reference.
            cases before with
            | nil =>
                refine ⟨_, reference (by rw [cut]; rfl), ?_⟩
                rw [String.toList_ofList, rest, cut]
                exact List.prefix_append _ _
            | cons b before => exact absurd (by rw [cut]; simp) onlyFirst

/-- Escaping leaves no markup in a text. -/
theorem escaped_escape (s : String) : Escaped (escape s) := by
  have text : (escape s).toList = s.toList.flatMap escapeChar := String.toList_ofList
  refine ⟨?_, ?_, ?_⟩
  · rw [text, List.mem_flatMap]
    rintro ⟨c, -, inside⟩
    exact (escapeChar_escaped c).1 inside
  · rw [text, List.mem_flatMap]
    rintro ⟨c, -, inside⟩
    exact (escapeChar_escaped c).2.1 inside
  · intro before after split
    exact reference_of_flatMap (text.symm.trans split)

/-- **Escaping leaves no markup in a text, and is undone by the resolution of entities**, one after
the other as they are resolved. -/
theorem unescape_escape (s : String) : Escaped (escape s) ∧ unescape (escape s) = s :=
  ⟨escaped_escape s, by rw [escape_eq_partly, unescape_partly]⟩

example : escape "&apos; <" = "&amp;apos; &lt;" := by decide +kernel

end Interchange.Xml
