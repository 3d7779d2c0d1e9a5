import Mathlib.Data.List.Infix
import Interchange.Text.Ascii
import Interchange.Text.Pieces
/-!
# Parts of texts

What the searches find, and what cutting a text into words and replacing a part of it keep: a
beginning that they have nothing to do with, and no more of any kind of characters than there were.

* `Text.occursIn_iff` — the search for a part finds the parts of a text.
* `Text.Mentions` — a text holds a word in some case of its letters.
* `Text.mem_splitAt_intercalate` — what is joined by a character is cut out at it again.
-/

namespace Interchange.Text

/-! ### Occurrences -/

theorem stripLead_eq_some_iff {lead cs rest : List Char} :
    stripLead lead cs = some rest ↔ cs = lead ++ rest := by
  induction lead generalizing cs with
  | nil => simp [stripLead]
  | cons a lead ih =>
      cases cs with
      | nil => simp [stripLead]
      | cons c cs =>
          rw [stripLead, List.cons_append, List.cons.injEq]
          split
          · next same => rw [ih, same, eq_self, true_and]
          · next other => simp [Ne.symm other]

theorem beginsWith_iff {lead cs : List Char} : beginsWith lead cs = true ↔ lead <+: cs := by
  simp only [beginsWith, Option.isSome_iff_exists, stripLead_eq_some_iff]
  exact exists_congr fun _ => eq_comm

/-- **What is found in a text is a part of it.** -/
theorem occursIn_iff {part cs : List Char} : occursIn part cs = true ↔ part <:+: cs := by
  induction cs with
  | nil => simp [occursIn]
  | cons c cs ih => rw [occursIn, Bool.or_eq_true, beginsWith_iff, ih, List.infix_cons_iff]

/-- A text holds a word, in some case of its ASCII letters. -/
def Mentions (s word : String) : Prop :=
  ∃ before part after : String, s = before ++ part ++ after ∧ sameIgnoringCase part word = true

/-- Words are searched for in small letters. -/
theorem mentions_iff {s word : String} :
    Mentions s word ↔ contains (asciiLower s) (asciiLower word) = true := by
  simp only [Mentions, sameIgnoringCase, beq_iff_eq, contains, occursIn_iff, asciiLower,
    String.toList_ofList, String.ofList_inj]
  constructor
  · rintro ⟨before, part, after, rfl, same⟩
    rw [← same, String.toList_append, String.toList_append, List.map_append, List.map_append]
    exact List.infix_append _ _ _
  · rintro ⟨before, after, found⟩
    obtain ⟨front, after', cut, fronted, -⟩ := List.map_eq_append_iff.mp found.symm
    obtain ⟨before', part, cut', -, parted⟩ := List.map_eq_append_iff.mp fronted
    refine ⟨String.ofList before', String.ofList part, String.ofList after', ?_, ?_⟩
    · rw [← String.ofList_append, ← String.ofList_append, ← cut', ← cut, String.ofList_toList]
    · rw [String.toList_ofList, parted]

theorem contains_asciiLower_iff {s word : String} (small : asciiLower word = word) :
    contains (asciiLower s) word = true ↔ Mentions s word := by
  rw [mentions_iff, small]

instance (s word : String) : Decidable (Mentions s word) := decidable_of_iff _ mentions_iff.symm

/-! ### Cutting at a character -/

theorem splitAt_eq_splitOn (sep : Char) (cs : List Char) : splitAt sep cs = cs.splitOn sep := by
  induction cs with
  | nil => rfl
  | cons c cs ih =>
      rw [splitAt, List.splitOn_cons_eq_if_modifyHead, ih]
      simp only [beq_iff_eq]
      split
      · rfl
      · obtain ⟨piece, rest, cut⟩ := List.exists_cons_of_ne_nil (List.splitOn_ne_nil sep cs)
        rw [cut, List.modifyHead_cons]

/-- The pieces of a text make it, joined by the character. -/
theorem intercalate_splitAt (sep : Char) (cs : List Char) :
    [sep].intercalate (splitAt sep cs) = cs := by
  rw [splitAt_eq_splitOn, List.intercalate_splitOn]

/-- What is joined by a character is cut out at it again, unless it has the character in it. -/
theorem mem_splitAt_intercalate {sep : Char} {piece : List Char} {pieces : List (List Char)}
    (free : sep ∉ piece) (member : piece ∈ pieces) :
    piece ∈ splitAt sep ([sep].intercalate pieces) := by
  rw [splitAt_eq_splitOn]
  induction pieces with
  | nil => cases member
  | cons first pieces ih =>
      cases pieces with
      | nil =>
          rw [List.mem_singleton] at member
          simp [← member, List.splitOn_eq_singleton free]
      | cons next pieces =>
          rw [List.intercalate_cons_cons, List.append_assoc, List.singleton_append,
            List.splitOn_append_cons_self, List.mem_append]
          rcases List.mem_cons.mp member with rfl | later
          · exact .inl (by simp [List.splitOn_eq_singleton free])
          · exact .inr (ih later)

/-- Pieces with a character before each but the first are joined by it. -/
theorem append_flatMap_cons (sep : Char) (first : List Char) (pieces : List (List Char)) :
    first ++ pieces.flatMap (sep :: ·) = [sep].intercalate (first :: pieces) := by
  induction pieces generalizing first with
  | nil => simp
  | cons piece pieces ih =>
      rw [List.intercalate_cons_cons, ← ih]
      simp

/-! ### Words -/

section Words

variable {p : Char → Bool}

/-- Characters that do not part words go on with the current piece. -/
theorem wordsWhere_append {a : List Char} (joined : ∀ c ∈ a, p c = false) (piece b : List Char) :
    wordsWhere p piece (a ++ b) = wordsWhere p (a.reverse ++ piece) b := by
  induction a generalizing piece with
  | nil => rfl
  | cons c a ih =>
      rw [List.forall_mem_cons] at joined
      rw [List.cons_append, wordsWhere, if_neg (by simp [joined.1]), ih joined.2]
      simp

/-- The first word is what the current piece becomes. -/
theorem exists_wordsWhere_eq_cons {piece : List Char} (begun : piece ≠ []) (cs : List Char) :
    ∃ more words, wordsWhere p piece cs = (piece.reverse ++ more) :: words := by
  induction cs generalizing piece with
  | nil => exact ⟨[], [], by simp [wordsWhere, begun]⟩
  | cons c cs ih =>
      rw [wordsWhere]
      split
      · exact ⟨[], wordsWhere p [] cs, by simp [begun]⟩
      · obtain ⟨more, words, cut⟩ := ih (List.cons_ne_nil c piece)
        exact ⟨c :: more, words, by simp [cut]⟩

/-- The words of a text are made of its characters. -/
theorem countP_wordsWhere_le (q : Char → Bool) (piece cs : List Char) :
    (wordsWhere p piece cs).flatten.countP q ≤ piece.countP q + cs.countP q := by
  induction cs generalizing piece with
  | nil =>
      rw [wordsWhere]
      split <;> simp
  | cons c cs ih =>
      have fresh := ih []
      have longer := ih (c :: piece)
      simp only [List.countP_cons, List.countP_nil] at fresh longer ⊢
      rw [wordsWhere]
      split
      · split
        · omega
        · simp only [List.flatten_cons, List.countP_append, List.countP_reverse]
          omega
      · omega

end Words

/-- Pieces are joined by what is none of the counted characters. -/
theorem countP_join {q : Char → Bool} {sep : String} (other : sep.toList.countP q = 0)
    (pieces : List (List Char)) :
    (join sep (pieces.map String.ofList)).toList.countP q = pieces.flatten.countP q := by
  induction pieces with
  | nil => simp [join]
  | cons piece pieces ih =>
      cases pieces with
      | nil => simp [join]
      | cons next pieces =>
          simp only [join, String.toList_intercalate, List.map_cons, String.toList_ofList] at ih ⊢
          rw [List.intercalate_cons_cons, List.countP_append, List.countP_append, ih, other]
          simp

/-! ### Replacing -/

/-- What no occurrence begins in stays in front. -/
theorem replaceList_append {old new a : List Char} (free : ∀ c ∈ a, old.head? ≠ some c)
    (b : List Char) : replaceList old new 0 (a ++ b) = a ++ replaceList old new 0 b := by
  induction a with
  | nil => rfl
  | cons c a ih =>
      rw [List.forall_mem_cons] at free
      have elsewhere : ¬ ((beginsWith old (c :: (a ++ b)) && !old.isEmpty) = true) := by
        rw [Bool.and_eq_true, beginsWith_iff]
        rintro ⟨⟨rest, begun⟩, filled⟩
        cases old with
        | nil => exact absurd filled (by decide)
        | cons d old =>
            rw [List.cons_append] at begun
            exact free.1 (congrArg some (List.cons.inj begun).1)
      rw [List.cons_append, replaceList, if_neg elsewhere, ih free.2, List.cons_append]

/-- Replacing brings in the characters of the replacement only. -/
theorem countP_replaceList_le {q : Char → Bool} {new : List Char} (other : new.countP q = 0)
    (old : List Char) (skip : Nat) (cs : List Char) :
    (replaceList old new skip cs).countP q ≤ cs.countP q := by
  induction cs generalizing skip with
  | nil => simp [replaceList]
  | cons c cs ih =>
      rw [List.countP_cons]
      cases skip with
      | succ skip =>
          rw [replaceList]
          exact Nat.le_add_right_of_le (ih skip)
      | zero =>
          rw [replaceList]
          split
          · rw [List.countP_append, other, Nat.zero_add]
            exact Nat.le_add_right_of_le (ih _)
          · rw [List.countP_cons]
            exact Nat.add_le_add_right (ih 0) _

end Interchange.Text
