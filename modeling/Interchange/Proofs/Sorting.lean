import Mathlib.Data.List.NodupEquivFin
/-!
# Stable sorting

Items that are tied stay in the order in which they stood, whatever the order that a list is sorted
by.  Steps and rules rely on this: of those with one order the first that is listed goes first.

A list may so be rearranged before it is sorted, as long as tied items stay in order.  What decides
the sorted list is what the list shows of every class of tied items, and sorting does not change it.

* `filter_mergeSort_of_tied` — what a sorted list shows of a class of tied items.
* `Rearranged` — a list with its items in other places, those of one rank in order.
* `mergeSort_eq_of_rearranged` — sorting does not tell such lists apart.
-/

namespace Interchange

/-- A class of items that are all tied keeps its order when a list is sorted. -/
theorem filter_mergeSort_of_tied {α : Type} {le : α → α → Bool}
    (trans : ∀ a b c, le a b = true → le b c = true → le a c = true)
    (total : ∀ a b, (le a b || le b a) = true) {p : α → Bool}
    (tied : ∀ a b, p a = true → p b = true → le a b = true) (l : List α) :
    (l.mergeSort le).filter p = l.filter p := by
  have level : (l.filter p).Pairwise fun a b => le a b = true := by
    rw [List.pairwise_filter]
    exact List.pairwise_of_forall fun a b ha hb => tied a b ha hb
  have kept : (l.filter p).Sublist (l.mergeSort le) :=
    List.sublist_mergeSort trans total level List.filter_sublist
  have inside : ((l.filter p).filter p).Sublist ((l.mergeSort le).filter p) := kept.filter p
  rw [List.filter_filter, show (fun a => p a && p a) = p by funext a; exact Bool.and_self _]
    at inside
  have lengths := ((List.mergeSort_perm l le).filter p).length_eq
  exact (inside.eq_of_length lengths.symm).symm

/-! ### Rearranged lists -/

section Rearranged

variable {α β : Type} {rank : α → β} {l l' : List α}

/-- **A list is rearranged** when its items stand in other places, and those of one rank in the same
order as before. -/
def Rearranged (rank : α → β) (l l' : List α) : Prop :=
  ∃ move : Fin l.length ≃ Fin l'.length, (∀ i, l'.get (move i) = l.get i) ∧
    ∀ i j, i < j → rank (l.get i) = rank (l.get j) → move i < move j

theorem Rearranged.symm (moved : Rearranged rank l l') : Rearranged rank l' l := by
  obtain ⟨move, same, ordered⟩ := moved
  have back : ∀ i, l.get (move.symm i) = l'.get i := fun i => by
    rw [← same, move.apply_symm_apply]
  refine ⟨move.symm, back, fun i j before tied => ?_⟩
  by_contra notBefore
  have after : move.symm j < move.symm i :=
    lt_of_le_of_ne (not_lt.mp notBefore) fun one => before.ne' (move.symm.injective one)
  have swapped := ordered _ _ after (by rw [back, back, tied])
  rw [move.apply_symm_apply, move.apply_symm_apply] at swapped
  exact absurd before swapped.asymm

variable [DecidableEq β]

theorem Rearranged.filter_sublist (moved : Rearranged rank l l') (k : β) :
    (l.filter fun a => rank a = k).Sublist (l'.filter fun a => rank a = k) := by
  obtain ⟨move, same, ordered⟩ := moved
  obtain ⟨f, kept⟩ := List.sublist_iff_exists_fin_orderEmbedding_get_eq.mp
    (List.filter_sublist (p := fun a => decide (rank a = k)) (l := l))
  have ranked : ∀ i, rank (l.get (f i)) = k := fun i => by
    rw [← kept i]
    exact of_decide_eq_true (List.mem_filter.mp (List.get_mem _ i)).2
  have ascends : StrictMono fun i => move (f i) := fun i j before =>
    ordered _ _ (f.lt_iff_lt.mpr before) ((ranked i).trans (ranked j).symm)
  have inside : (l.filter fun a => rank a = k).Sublist l' :=
    List.sublist_iff_exists_fin_orderEmbedding_get_eq.mpr
      ⟨OrderEmbedding.ofStrictMono _ ascends, fun i => (kept i).trans (same (f i)).symm⟩
  have again := inside.filter fun a => decide (rank a = k)
  rwa [List.filter_filter, show (fun a => decide (rank a = k) && decide (rank a = k)) =
    fun a => decide (rank a = k) by funext a; exact Bool.and_self _] at again

/-- Lists that are rearranged show the same of every rank. -/
theorem Rearranged.filter_eq (moved : Rearranged rank l l') (k : β) :
    (l.filter fun a => rank a = k) = l'.filter fun a => rank a = k :=
  (moved.filter_sublist k).antisymm (moved.symm.filter_sublist k)

theorem mem_iff_of_filter_eq
    (shown : ∀ k, (l.filter fun a => rank a = k) = l'.filter fun a => rank a = k) (a : α) :
    a ∈ l ↔ a ∈ l' := by
  have of_mem : ∀ m : List α, a ∈ m ↔ a ∈ m.filter fun b => rank b = rank a := fun m => by
    simp [List.mem_filter]
  rw [of_mem l, of_mem l', shown]

/-- A sorted list is determined by what it shows of every rank. -/
theorem eq_of_pairwise_of_filter_eq {le : α → α → Bool}
    (tied : ∀ a b, le a b = true → le b a = true → rank a = rank b)
    (sorted : l.Pairwise fun a b => le a b = true)
    (sorted' : l'.Pairwise fun a b => le a b = true)
    (shown : ∀ k, (l.filter fun a => rank a = k) = l'.filter fun a => rank a = k) : l = l' := by
  induction l generalizing l' with
  | nil =>
      have members := mem_iff_of_filter_eq shown
      cases l' with
      | nil => rfl
      | cons b l' => exact absurd ((members b).mpr List.mem_cons_self) List.not_mem_nil
  | cons a l ih =>
      have members := mem_iff_of_filter_eq shown
      cases l' with
      | nil => exact absurd ((members a).mp List.mem_cons_self) List.not_mem_nil
      | cons b l' =>
          rw [List.pairwise_cons] at sorted sorted'
          -- Were the first items different, each would stand behind the other, so they are tied.
          have first : a = b := by
            by_contra other
            have behind : a ∈ l' :=
              (List.mem_cons.mp ((members a).mp List.mem_cons_self)).resolve_left other
            have behind' : b ∈ l :=
              (List.mem_cons.mp ((members b).mpr List.mem_cons_self)).resolve_left (Ne.symm other)
            have one := tied a b (sorted.1 b behind') (sorted'.1 a behind)
            have heads := shown (rank b)
            simp only [List.filter_cons, one, decide_true, if_true] at heads
            exact other (List.cons.inj heads).1
          subst first
          have rest : ∀ k, (l.filter fun a => rank a = k) = l'.filter fun a => rank a = k := by
            intro k
            have both := shown k
            simp only [List.filter_cons] at both
            split at both
            · exact (List.cons.inj both).2
            · exact both
          rw [ih sorted.2 sorted'.2 rest]

/-- **Sorting does not tell a list from a rearranged one.** -/
theorem mergeSort_eq_of_rearranged {le : α → α → Bool}
    (trans : ∀ a b c, le a b = true → le b c = true → le a c = true)
    (total : ∀ a b, (le a b || le b a) = true)
    (tied : ∀ a b, rank a = rank b ↔ le a b = true ∧ le b a = true)
    (moved : Rearranged rank l l') : l.mergeSort le = l'.mergeSort le := by
  have kept : ∀ (m : List α) (k : β),
      (m.mergeSort le).filter (fun a => rank a = k) = m.filter fun a => rank a = k := fun m k =>
    filter_mergeSort_of_tied trans total (fun a b ha hb =>
      ((tied a b).mp ((of_decide_eq_true ha).trans (of_decide_eq_true hb).symm)).1) m
  refine eq_of_pairwise_of_filter_eq (fun a b ab ba => (tied a b).mpr ⟨ab, ba⟩)
    (List.pairwise_mergeSort trans total l) (List.pairwise_mergeSort trans total l') fun k => ?_
  rw [kept, kept, moved.filter_eq]

end Rearranged

end Interchange
