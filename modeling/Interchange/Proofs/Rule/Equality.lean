import Interchange.Proofs.Number.Integers
import Interchange.Rule.Run
/-!
# Integers in conditions

Policy and account numbers are integers, some of them written as text.  A condition compares such
values as binary64 numbers, which tell integers apart up to `2^53` only.  So beyond that a condition
takes a number for another one that is rounded alike, and it does so even where the two texts or the
two integers could have been compared as they are.

* `Condition.looselyEqual_iff` — integers are equal for conditions exactly if they are rounded
  alike.
* `Condition.integers_equal_iff` — so they are to the operators that look for a value.  Only
  integers near each other are, and none that is below `2^53` in size.
-/

namespace Interchange

variable {v w : Value} {a b : Int}

theorem Value.Denotes.eq_of_same (first : v.Denotes a) (second : w.Denotes b)
    (same : v.same w = true) : a = b := by
  cases first with
  | num _ inRange =>
      cases second with
      | num => simpa [Value.same, Number.same] using same
      | str => cases same
  | str _ inRange =>
      cases second with
      | num => cases same
      | str _ inRange' =>
          have texts : toString a = toString b := by simpa [Value.same] using same
          exact toString_int_inj inRange inRange' texts

namespace Condition

open Binary64 (nearest)

/-- **Integers are equal for conditions exactly if they are rounded alike.** -/
theorem looselyEqual_iff (first : v.Denotes a) (second : w.Denotes b) :
    looselyEqual v w = true ↔ nearest a = nearest b := by
  have floats : (Float.ofInt a == Float.ofInt b) = true ↔ nearest a = nearest b :=
    Binary64.ofInt_beq_iff first.word second.word
  have compared : looselyEqual v w = (v.same w || Float.ofInt a == Float.ofInt b) := by
    have numbers := first.toNumber?_eq
    have numbers' := second.toNumber?_eq
    unfold looselyEqual
    rw [numbers, numbers']
    cases first
    all_goals
      cases second
      all_goals rfl
  rw [compared, Bool.or_eq_true, floats]
  exact or_iff_right_of_imp fun same => congrArg nearest (first.eq_of_same second same)

/-- **What a condition takes for the same integer.**  A field is equal to an expected integer, or in
a list of this alone, or contains it as the only item of a list, exactly if both are rounded to the
same binary64 number.  If one of them is below `2^53` in size then they are the same integer, and
otherwise they are at most 2048 apart. -/
theorem integers_equal_iff (doc : Value) (path : String) (first : v.Denotes a)
    (second : w.Denotes b) :
    (doc.at? path = some v → (holds ⟨path, .equals, w⟩ doc = true ↔ nearest a = nearest b)) ∧
    (doc.at? path = some v → (holds ⟨path, .isIn, .list [w]⟩ doc = true ↔ nearest a = nearest b)) ∧
    (doc.at? path = some (.list [v]) →
      (holds ⟨path, .contains, w⟩ doc = true ↔ nearest a = nearest b)) ∧
    (a.natAbs < 2 ^ 53 ∨ b.natAbs < 2 ^ 53 → (nearest a = nearest b ↔ a = b)) ∧
    (nearest a = nearest b → (a - b).natAbs ≤ 2048) := by
  have alike := looselyEqual_iff first second
  refine ⟨fun found => ?_, fun found => ?_, fun found => ?_, Binary64.nearest_eq_iff_of_small,
    Binary64.natAbs_sub_le_of_nearest_eq first.word second.word⟩
  · rw [holds, found]
    exact alike
  · rw [holds, found, ← alike]
    simp [test, memberOf, Value.ofOption]
  · rw [holds, found, ← alike]
    simp [test, contains, Value.ofOption]

/-- So a text with another number is found in the place of the first number that is lost, and the
one before is not. -/
theorem number_found_for_next :
    let policy : Value := .num (.int 0x20000000000000 (by decide))
    let next : Value := .str "9007199254740993"
    let last : Value := .str "9007199254740991"
    policy.Denotes 0x20000000000000 ∧ next.Denotes 0x20000000000001 ∧
      last.Denotes 0x1FFFFFFFFFFFFF ∧
      holds ⟨"policy", .equals, next⟩ (.obj [("policy", policy)]) = true ∧
      holds ⟨"policy", .isIn, .list [next]⟩ (.obj [("policy", policy)]) = true ∧
      holds ⟨"policies", .contains, next⟩ (.obj [("policies", .list [policy])]) = true ∧
      holds ⟨"policy", .equals, last⟩ (.obj [("policy", policy)]) = false := by
  intro policy next last
  have number : policy.Denotes 0x20000000000000 := .num _ _
  have text : next.Denotes 0x20000000000001 := .str 0x20000000000001 (by decide)
  have before : last.Denotes 0x1FFFFFFFFFFFFF := .str 0x1FFFFFFFFFFFFF (by decide)
  have alike : nearest 0x20000000000000 = nearest 0x20000000000001 := by decide +kernel
  obtain ⟨equals, isIn, -⟩ := integers_equal_iff (.obj [("policy", policy)]) "policy" number text
  obtain ⟨-, -, contains, -, -⟩ :=
    integers_equal_iff (.obj [("policies", .list [policy])]) "policies" number text
  obtain ⟨equals', -, -, apart, -⟩ :=
    integers_equal_iff (.obj [("policy", policy)]) "policy" number before
  refine ⟨number, text, before, (equals (by cbv)).mpr alike, (isIn (by cbv)).mpr alike,
    (contains (by cbv)).mpr alike, Bool.eq_false_iff.mpr fun held => ?_⟩
  have same := (apart (.inr (by decide))).mp ((equals' (by cbv)).mp held)
  exact absurd same (by decide)

/-- Two numbers are taken for each other as well that no text had to be read for. -/
theorem number_equal_to_next :
    let policy : Value := .num (.int 0x20000000000000 (by decide))
    let next : Value := .num (.int 0x20000000000001 (by decide))
    policy.Denotes 0x20000000000000 ∧ next.Denotes 0x20000000000001 ∧
      (0x20000000000000 : Int) ≠ 0x20000000000001 ∧
      holds ⟨"policy", .equals, next⟩ (.obj [("policy", policy)]) = true :=
  ⟨.num _ _, .num _ _, by decide, by decide +kernel⟩

end Condition

end Interchange
