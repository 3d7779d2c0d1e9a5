import Interchange.Proofs.Text.Blank
import Interchange.Proofs.Text.Pieces
import Interchange.Rule.Run
/-!
# Conditions on what is not there

A condition reads a field that is missing as null, and so does one that is null.  A condition that
asks for something should not hold of it: null is no number, equals null alone, contains nothing
and begins and ends with nothing.  Each operator sees to this by itself, except for membership in a
text.  There null has the empty text, and that is an item of every text which has a comma too many.

* `Condition.ListsBlank` — a list of items with commas between them has a blank one.
* `Condition.holds_absent_iff` — a condition that asks for something holds of what is not there
  exactly if it is membership in such a list.
-/

namespace Interchange

/-- The operators that compare a field with something that is to be there. -/
def Operator.affirmative : List Operator :=
  [.equals, .greater, .greaterOrEqual, .less, .lessOrEqual, .contains, .startsWith, .endsWith,
    .isIn]

namespace Condition

variable {c : Condition} {doc expected : Value}

/-- **The document holds nothing at the path**, or null. -/
def Absent (doc : Value) (path : String) : Prop :=
  doc.at? path = none ∨ doc.at? path = some .null

/-- What is asked for is neither null nor a list with null in it. -/
structure SeeksPresent (expected : Value) : Prop where
  notNull : expected ≠ .null
  noNullItem : ∀ items, expected = .list items → .null ∉ items

/-- **A list of items, with commas between them, one of which is blank.** -/
def ListsBlank (s : String) : Prop :=
  ∃ items, s = Text.join "," items ∧ ∃ item ∈ items, Text.isBlankText item = true

/-! ### Lists in a text -/

theorem not_mem_of_isBlankText {item : String} (blank : Text.isBlankText item = true) :
    ',' ∉ item.toList := fun member =>
  absurd (List.all_eq_true.mp blank ',' member) (by decide)

/-- Null is found in a text exactly if that lists something blank. -/
theorem memberOf_null_str_iff {s : String} : memberOf .null (.str s) = true ↔ ListsBlank s := by
  have found : memberOf .null (.str s) = true ↔
      ∃ item ∈ Text.split ',' s, Text.isBlankText item = true := by
    simp only [memberOf, List.any_eq_true, beq_iff_eq, Value.toText, Text.trim_eq_empty_iff]
  rw [found, Text.split]
  constructor
  · rintro ⟨item, member, blank⟩
    refine ⟨(Text.splitAt ',' s.toList).map String.ofList, ?_, item, member, blank⟩
    rw [Text.join, ← String.toList_inj, String.toList_intercalate, List.map_map]
    simp [Function.comp_def, Text.intercalate_splitAt]
  · rintro ⟨items, rfl, item, member, blank⟩
    refine ⟨item, List.mem_map.mpr ⟨item.toList, ?_, String.ofList_toList⟩, blank⟩
    rw [Text.join, String.toList_intercalate]
    exact Text.mem_splitAt_intercalate (not_mem_of_isBlankText blank) (List.mem_map_of_mem member)

instance (s : String) : Decidable (ListsBlank s) := decidable_of_iff _ memberOf_null_str_iff

/-! ### Null and the operators -/

theorem looselyEqual_null (present : expected ≠ .null) : looselyEqual .null expected = false := by
  cases expected with
  | null => exact absurd rfl present
  | _ => rfl

theorem compare_null (p : Float → Float → Bool) (expected : Value) :
    compare p .null expected = false := rfl

theorem memberOf_null_iff (seeks : SeeksPresent expected) :
    memberOf .null expected = true ↔ ∃ s, expected = .str s ∧ ListsBlank s := by
  cases expected with
  | str s => simp [memberOf_null_str_iff]
  | list items =>
      have none_null : ∀ item ∈ items, looselyEqual .null item = false := fun item member =>
        looselyEqual_null fun null => seeks.noNullItem items rfl (null ▸ member)
      simpa [memberOf] using none_null
  | _ => simp [memberOf]

/-- An operator that asks for something holds of null exactly if it is membership in a text that
lists something blank. -/
theorem test_null_iff {op : Operator} (affirms : op ∈ Operator.affirmative)
    (seeks : SeeksPresent expected) :
    test op .null expected = true ↔ op = .isIn ∧ ∃ s, expected = .str s ∧ ListsBlank s := by
  cases op with
  | equals => simp [test, looselyEqual_null seeks.notNull]
  | isIn => simpa only [test, true_and] using memberOf_null_iff seeks
  | greater | greaterOrEqual | less | lessOrEqual => simp [test, compare_null]
  | contains => simp [test, contains]
  | startsWith | endsWith => simp [test, Value.isNull]
  | _ => simp [Operator.affirmative] at affirms

/-- **A condition that asks for something holds of what is not there exactly if it is membership in
a list with a blank item**, such as `CA,` or the empty text. -/
theorem holds_absent_iff (absent : Absent doc c.path) (affirms : c.operator ∈ Operator.affirmative)
    (seeks : SeeksPresent c.value) :
    c.holds doc = true ↔ c.operator = .isIn ∧ ∃ s, c.value = .str s ∧ ListsBlank s := by
  have null : Value.ofOption (doc.at? c.path) = .null := by
    rcases absent with missing | null
    · rw [missing]
      rfl
    · rw [null]
      rfl
  rw [holds, null]
  exact test_null_iff affirms seeks

/-- A document without a state is in no list of states without blanks. -/
theorem missing_state_not_listed :
    Absent .empty "state" ∧ holds ⟨"state", .isIn, .str "CA, NY"⟩ .empty = false := by
  have absent : Absent .empty "state" := .inl (by decide)
  have seeks : SeeksPresent (.str "CA, NY") := ⟨nofun, nofun⟩
  have unlisted : ¬ ListsBlank "CA, NY" := by decide
  refine ⟨absent, Bool.eq_false_iff.mpr fun held => ?_⟩
  obtain ⟨-, s, same, lists⟩ :=
    (holds_absent_iff (c := ⟨"state", .isIn, .str "CA, NY"⟩) absent (by decide) seeks).mp held
  obtain rfl := Value.str.inj same
  exact unlisted lists

/-- But it is in a list that ends with a comma. -/
theorem missing_state_listed :
    Absent .empty "state" ∧ SeeksPresent (.str "CA,") ∧
      holds ⟨"state", .isIn, .str "CA,"⟩ .empty = true :=
  ⟨.inl (by decide), ⟨nofun, nofun⟩, by decide⟩

end Condition

end Interchange
