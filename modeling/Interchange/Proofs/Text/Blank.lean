import Mathlib.Data.List.DropRight
import Interchange.Text.Blank
/-!
# Texts without blanks

What trimming does to a text: it leaves a text without blanks as it is, and every text that begins
and ends with something else.

* `Text.trimWhere_append` — what is left between the characters that are dropped.
* `Text.Solid` — a text has no blanks.
* `Text.Solid.trim` — such a text is trimmed already.
* `Text.trim_trim` — so is a text that was trimmed.
* `Text.trim_eq_empty_iff` — trimming leaves nothing of texts that hold nothing but blanks.
-/

namespace Interchange.Text

theorem dropWhile_of_begun {p : Char → Bool} {cs : List Char}
    (begun : ∀ c ∈ cs.head?, p c = false) : cs.dropWhile p = cs := by
  cases cs with
  | nil => rfl
  | cons c cs => exact List.dropWhile_cons_of_neg (by simp [begun c rfl])

/-- What begins and ends with other characters is what is left of it between those that are
dropped. -/
theorem trimWhere_append {p : Char → Bool} {before cs after : List Char}
    (lead : ∀ c ∈ before, p c = true) (begun : ∀ c ∈ cs.head?, p c = false)
    (ended : ∀ c ∈ cs.getLast?, p c = false) (trail : ∀ c ∈ after, p c = true) :
    trimWhere p (before ++ cs ++ after) = cs := by
  rw [List.append_assoc, trimWhere, dropEndWhile, List.dropWhile_append_of_pos lead]
  cases cs with
  | nil =>
      rw [List.nil_append, List.dropWhile_eq_nil_iff.mpr trail]
      rfl
  | cons c cs =>
      have whole : (c :: cs ++ after).dropWhile p = c :: cs ++ after := dropWhile_of_begun begun
      have back : ∀ c ∈ after.reverse, p c = true := fun c member =>
        trail c (List.mem_reverse.mp member)
      rw [whole, List.reverse_append, List.dropWhile_append_of_pos back,
        dropWhile_of_begun (by rwa [List.head?_reverse]), List.reverse_reverse]

/-- Characters none of which is a blank. -/
def Solid (cs : List Char) : Prop := ∀ c ∈ cs, isBlank c = false

theorem Solid.trimWhere {cs : List Char} (solid : Solid cs) : trimWhere isBlank cs = cs := by
  have kept : Text.trimWhere isBlank ([] ++ cs ++ []) = cs := by
    refine trimWhere_append (List.forall_mem_nil _) ?_ ?_ (List.forall_mem_nil _)
    · exact fun c first => solid c (List.mem_of_head? first)
    · exact fun c last => solid c (List.mem_of_getLast? last)
  rwa [List.append_nil, List.nil_append] at kept

/-- A text without blanks is trimmed already. -/
theorem Solid.trim {s : String} (solid : Solid s.toList) : trim s = s := by
  rw [Text.trim, solid.trimWhere, String.ofList_toList]

/-! ### Trimming twice -/

/-- What is dropped at the end leaves the beginning as it is. -/
theorem dropWhile_dropEndWhile {p : Char → Bool} {cs : List Char} (begun : cs.dropWhile p = cs) :
    (dropEndWhile p cs).dropWhile p = dropEndWhile p cs := by
  have part : dropEndWhile p cs <+: cs := List.rdropWhile_prefix p cs
  rw [List.dropWhile_eq_self_iff] at begun ⊢
  intro filled
  rw [part.getElem filled]
  exact begun (Nat.lt_of_lt_of_le filled part.length_le)

theorem trimWhere_trimWhere (p : Char → Bool) (cs : List Char) :
    trimWhere p (trimWhere p cs) = trimWhere p cs := by
  have begun : (cs.dropWhile p).dropWhile p = cs.dropWhile p := List.dropWhile_idempotent p cs
  have ended : dropEndWhile p (dropEndWhile p (cs.dropWhile p)) = dropEndWhile p (cs.dropWhile p) :=
    List.rdropWhile_idempotent p _
  rw [trimWhere, trimWhere, dropWhile_dropEndWhile begun, ended]

/-- A text that was trimmed is trimmed already. -/
theorem trim_trim (s : String) : trim (trim s) = trim s := by
  rw [trim, trim, String.toList_ofList, trimWhere_trimWhere]

/-! ### Nothing but blanks -/

theorem trimWhere_eq_nil_iff {p : Char → Bool} {cs : List Char} :
    trimWhere p cs = [] ↔ ∀ c ∈ cs, p c = true := by
  have ended : trimWhere p cs = (cs.dropWhile p).rdropWhile p := rfl
  rw [ended, List.rdropWhile_eq_nil_iff]
  constructor
  · intro blank
    -- If something were left in front, it would begin with what is no blank.
    have dropped : (cs.dropWhile p).dropWhile p = [] := List.dropWhile_eq_nil_iff.mpr blank
    rw [List.dropWhile_idempotent p cs] at dropped
    exact List.dropWhile_eq_nil_iff.mp dropped
  · intro blank c member
    exact blank c ((List.dropWhile_suffix p).mem member)

/-- A text of which trimming leaves nothing holds nothing but blanks. -/
theorem trim_eq_empty_iff {s : String} : trim s = "" ↔ isBlankText s = true := by
  rw [trim, String.ofList_eq_empty_iff, trimWhere_eq_nil_iff, isBlankText, List.all_eq_true]

end Interchange.Text
