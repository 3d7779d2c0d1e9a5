import Interchange.Proofs.Text.Pieces
/-!
# Replacing a part of a text

Occurrences are replaced from the left.  A part of which no end is also a beginning cannot overlap
with itself, so that all its occurrences are replaced, and a text can be cut at any of them.

* `Text.Unbordered` — no end of a text is also a beginning of it.
* `Text.replaceList_append_of_unbordered` — replacing on both sides of an occurrence.
* `Text.countP_le_replaceList` — replacing by no fewer of some characters leaves no fewer of them.
* `Text.Clear` — no occurrence of a part begins in a text.
* `Text.replaceList_flatMap` — replacing in a text that is written character by character.
-/

namespace Interchange.Text

variable {old new : List Char}

/-- The characters of an occurrence that was replaced are passed over. -/
theorem replaceList_skip (old new a b : List Char) :
    replaceList old new a.length (a ++ b) = replaceList old new 0 b := by
  induction a with
  | nil => rfl
  | cons c a ih => exact ih

theorem replaceList_occurrence (filled : old ≠ []) (new b : List Char) :
    replaceList old new 0 (old ++ b) = new ++ replaceList old new 0 b := by
  cases old with
  | nil => exact absurd rfl filled
  | cons c o =>
      have begun : (beginsWith (c :: o) (c :: (o ++ b)) && !(c :: o).isEmpty) = true := by
        rw [Bool.and_eq_true]
        exact ⟨beginsWith_iff.mpr (List.prefix_append (c :: o) b), rfl⟩
      rw [List.cons_append, replaceList, if_pos begun]
      exact congrArg (new ++ ·) (replaceList_skip (c :: o) new o b)

theorem replaceList_cons {c : Char} {cs : List Char} (elsewhere : ¬ old <+: c :: cs) :
    replaceList old new 0 (c :: cs) = c :: replaceList old new 0 cs := by
  rw [replaceList, if_neg]
  rw [Bool.and_eq_true, beginsWith_iff]
  exact fun found => elsewhere found.1

/-- A text in which a part does not occur stays as it is. -/
theorem replaceList_of_not_infix (new : List Char) {cs : List Char} (absent : ¬ old <:+: cs) :
    replaceList old new 0 cs = cs := by
  induction cs with
  | nil => rfl
  | cons c cs ih =>
      rw [List.infix_cons_iff, not_or] at absent
      rw [replaceList_cons absent.1, ih absent.2]

/-- Texts are replaced in from one occurrence to the next. -/
theorem replaceList_induction {motive : List Char → Prop} (filled : old ≠ []) (nil : motive [])
    (occurrence : ∀ rest, motive rest → motive (old ++ rest))
    (cons : ∀ c cs, ¬ old <+: c :: cs → motive cs → motive (c :: cs)) : ∀ cs, motive cs
  | [] => nil
  | c :: cs => by
      by_cases found : old <+: c :: cs
      · obtain ⟨rest, split⟩ := found
        have shorter : rest.length < (c :: cs).length := by
          have := List.length_pos_iff.mpr filled
          rw [← split, List.length_append]
          omega
        exact split ▸ occurrence rest (replaceList_induction filled nil occurrence cons rest)
      · exact cons c cs found (replaceList_induction filled nil occurrence cons cs)
  termination_by cs => cs.length
  decreasing_by
    · exact shorter
    · exact Nat.lt_succ_self _

/-- **No end of the text is also a beginning of it**, itself apart. -/
def Unbordered (s : List Char) : Prop :=
  ∀ lead border tail, s = lead ++ border → s = border ++ tail → border ≠ [] → lead = []

/-- A text with its last character in no other place is unbordered. -/
theorem unbordered_concat {body : List Char} {last : Char} (only : last ∉ body) :
    Unbordered (body ++ [last]) := by
  intro lead border tail ends begins filled
  obtain ⟨border, d, rfl⟩ := (List.eq_nil_or_concat border).resolve_left filled
  rcases List.eq_nil_or_concat tail with rfl | ⟨tail, c, rfl⟩
  · -- An end that is the whole text leaves nothing before it.
    rw [begins, List.append_nil] at ends
    exact List.append_left_eq_self.mp ends.symm
  · -- An end carries the last character, which a shorter beginning would have inside.
    rw [List.concat_eq_append, ← List.append_assoc] at ends
    rw [List.concat_eq_append, List.concat_eq_append, ← List.append_assoc] at begins
    obtain ⟨-, here⟩ := List.append_inj' ends rfl
    obtain ⟨inside, -⟩ := List.append_inj' begins rfl
    obtain rfl : last = d := List.singleton_inj.mp here
    exact absurd (by rw [inside]; simp) only

/-- **Replacing on both sides of an occurrence.** -/
theorem replaceList_append_of_unbordered (unbordered : Unbordered old) (filled : old ≠ [])
    (new a b : List Char) :
    replaceList old new 0 (a ++ (old ++ b)) =
      replaceList old new 0 a ++ (new ++ replaceList old new 0 b) := by
  induction a using replaceList_induction filled with
  | nil => exact replaceList_occurrence filled new b
  | occurrence rest ih =>
      rw [List.append_assoc, replaceList_occurrence filled, replaceList_occurrence filled, ih,
        List.append_assoc]
  | cons c cs elsewhere ih =>
      have still : ¬ old <+: c :: (cs ++ (old ++ b)) := by
        rintro ⟨rest, split⟩
        rw [← List.cons_append] at split
        rcases List.append_eq_append_iff.mp split with ⟨more, begun, -⟩ | ⟨border, cut, reaches⟩
        · exact elsewhere ⟨more, begun.symm⟩
        · -- What reaches over the place where the occurrence begins is a border of it.
          cases border with
          | nil => exact elsewhere ⟨[], by rw [cut, List.append_nil, List.append_nil]⟩
          | cons d border =>
              have short : (d :: border).length ≤ old.length := by
                rw [cut, List.length_append]
                omega
              obtain ⟨tail, begins⟩ := List.prefix_of_prefix_length_le ⟨rest, reaches.symm⟩
                (List.prefix_append old b) short
              cases unbordered (c :: cs) (d :: border) tail cut begins.symm (by simp)
      rw [List.cons_append, replaceList_cons still, ih, replaceList_cons elsewhere,
        List.cons_append]

/-- Copies that stand one after the other at the beginning are all replaced. -/
theorem replaceList_copies (filled : old ≠ []) (new : List Char) (n : Nat) (b : List Char) :
    replaceList old new 0 ((List.replicate n old).flatten ++ b) =
      (List.replicate n new).flatten ++ replaceList old new 0 b := by
  induction n with
  | zero => rfl
  | succ n ih =>
      rw [List.replicate_succ, List.flatten_cons, List.append_assoc, replaceList_occurrence filled,
        ih, List.replicate_succ, List.flatten_cons, List.append_assoc]

/-- Replacing by no fewer of some characters leaves no fewer of them. -/
theorem countP_le_replaceList {q : Char → Bool} (filled : old ≠ [])
    (more : old.countP q ≤ new.countP q) (cs : List Char) :
    cs.countP q ≤ (replaceList old new 0 cs).countP q := by
  induction cs using replaceList_induction filled with
  | nil => exact Nat.le_refl _
  | occurrence rest ih =>
      rw [replaceList_occurrence filled, List.countP_append, List.countP_append]
      exact Nat.add_le_add more ih
  | cons c cs elsewhere ih =>
      rw [replaceList_cons elsewhere, List.countP_cons, List.countP_cons]
      exact Nat.add_le_add_right ih _

/-- Each copy of a part that stands in a row counts. -/
theorem countP_add_le_replaceList {q : Char → Bool} (unbordered : Unbordered old)
    (filled : old ≠ []) (more : old.countP q ≤ new.countP q) (n : Nat) (a b : List Char) :
    (a ++ ((List.replicate (n + 1) old).flatten ++ b)).countP q + (n + 1) * new.countP q ≤
      (replaceList old new 0 (a ++ ((List.replicate (n + 1) old).flatten ++ b))).countP q +
        (n + 1) * old.countP q := by
  have before := countP_le_replaceList filled more a
  have after := countP_le_replaceList filled more b
  rw [List.replicate_succ, List.flatten_cons, List.append_assoc,
    replaceList_append_of_unbordered unbordered filled, replaceList_copies filled]
  simp only [List.countP_append, List.countP_flatten, List.map_replicate, List.sum_replicate_nat,
    Nat.succ_mul]
  omega

/-- A part of a text begins after the characters that are not its first one. -/
theorem infix_of_not_mem {c : Char} {part a b : List Char} (absent : c ∉ a)
    (inside : c :: part <:+: a ++ b) : c :: part <:+: b := by
  induction a with
  | nil => exact inside
  | cons d a ih =>
      rw [List.mem_cons, not_or] at absent
      refine ih absent.2 ((List.infix_cons_iff.mp inside).resolve_left fun begun => absent.1 ?_)
      exact (List.cons_prefix_cons.mp begun).1

/-- What replaces a part of a text is a part of the result. -/
theorem infix_replaceList (unbordered : Unbordered old) (filled : old ≠ []) (new : List Char)
    {cs : List Char} (inside : old <:+: cs) : new <:+: replaceList old new 0 cs := by
  obtain ⟨a, b, rfl⟩ := inside
  rw [List.append_assoc, replaceList_append_of_unbordered unbordered filled, ← List.append_assoc]
  exact List.infix_append _ _ _

/-! ### Texts written character by character -/

/-- **A part is clear of a text**: whatever follows the text, no occurrence of the part begins in
it. -/
def Clear (part cs : List Char) : Prop :=
  ¬ part <+: cs ∧ ¬ cs <+: part ∧ part.head? ∉ cs.tail.map some

instance (part cs : List Char) : Decidable (Clear part cs) :=
  inferInstanceAs (Decidable (_ ∧ _ ∧ _))

theorem Clear.replaceList_append {a : List Char} (clear : Clear old a) (new b : List Char) :
    replaceList old new 0 (a ++ b) = a ++ replaceList old new 0 b := by
  obtain ⟨notBegun, notWhole, free⟩ := clear
  cases a with
  | nil => exact absurd List.nil_prefix notWhole
  | cons c a =>
      have elsewhere : ¬ old <+: c :: (a ++ b) := fun begun =>
        (List.prefix_or_prefix_of_prefix begun (List.prefix_append (c :: a) b)).elim notBegun
          notWhole
      have later : ∀ d ∈ a, old.head? ≠ some d := fun d member same =>
        free (same ▸ List.mem_map_of_mem member)
      rw [List.cons_append, replaceList_cons elsewhere, Text.replaceList_append later,
        List.cons_append]

/-- A text that is written character by character is replaced in character by character, if the part
is all that is written for a character, or clear of it. -/
theorem replaceList_flatMap {f g : Char → List Char} (filled : old ≠ []) {cs : List Char}
    (each : ∀ c ∈ cs, f c = old ∧ g c = new ∨ f c = g c ∧ Clear old (g c)) :
    replaceList old new 0 (cs.flatMap f) = cs.flatMap g := by
  induction cs with
  | nil => rfl
  | cons c cs ih =>
      rw [List.forall_mem_cons] at each
      rw [List.flatMap_cons, List.flatMap_cons]
      rcases each.1 with ⟨part, replaced⟩ | ⟨kept, clear⟩
      · rw [part, replaced, replaceList_occurrence filled, ih each.2]
      · rw [kept, clear.replaceList_append, ih each.2]

end Interchange.Text
