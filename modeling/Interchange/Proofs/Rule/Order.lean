import Interchange.Proofs.Sorting
import Interchange.Rule.Run
import Mathlib.Data.List.Perm.Basic
/-!
# The order of rules

The rules that take part in a phase run by ascending order, then by descending priority, and those
that agree in both run as they are listed.  To say so without a sorting algorithm, every rule
carries a label that ascends along the list, as its place does.  Labelled rules are never tied, so
there is but one order of them, and whatever list of rules is in that order is the order of a run.

* `Rule.Precedes` — the order of labelled rules.
* `Rule.exists_precedes` — the rules that take part can be put in this order.
* `Rule.inOrder_of_precedes` — a run takes them in this order, whatever the labels are.
-/

namespace Interchange.Rule

/-- **The order of execution** of rules with labels: by ascending order, then by descending
priority, then by label. -/
def Precedes (a b : Rule × Nat) : Prop :=
  a.1.execOrder < b.1.execOrder ∨ a.1.execOrder = b.1.execOrder ∧
    (b.1.priority < a.1.priority ∨ a.1.priority = b.1.priority ∧ a.2 < b.2)

/-- Whether a rule takes part in a phase. -/
def takesPart (phase : Scope) (r : Rule) : Bool := r.isActive && r.scope.covers phase

/-! ### Comparing rules -/

/-- The comparison by which rules are sorted, in integers: the lower order first, and within an
order the higher priority. -/
theorem notAfter_iff {a b : Rule} : a.notAfter b = true ↔
    a.execOrder.toInt < b.execOrder.toInt ∨
      a.execOrder.toInt = b.execOrder.toInt ∧ b.priority.toInt ≤ a.priority.toInt := by
  simp [notAfter, Int32.lt_iff_toInt_lt, Int32.le_iff_toInt_le, Int32.toInt_inj]

/-- The order with the places as the last resort, in integers. -/
theorem precedes_iff {a b : Rule × Nat} : Precedes a b ↔
    a.1.execOrder.toInt < b.1.execOrder.toInt ∨ a.1.execOrder.toInt = b.1.execOrder.toInt ∧
      (b.1.priority.toInt < a.1.priority.toInt ∨
        a.1.priority.toInt = b.1.priority.toInt ∧ a.2 < b.2) := by
  simp [Precedes, Int32.lt_iff_toInt_lt, Int32.toInt_inj]

/-- The comparison is transitive, -/
theorem notAfter_trans (a b c : Rule × Nat) (ab : a.1.notAfter b.1 = true)
    (bc : b.1.notAfter c.1 = true) : a.1.notAfter c.1 = true := by
  rw [notAfter_iff] at ab bc ⊢
  omega

/-- and of two rules one is not after the other; so sorting by it makes an ordered list. -/
theorem notAfter_total (a b : Rule × Nat) :
    (a.1.notAfter b.1 || b.1.notAfter a.1) = true := by
  rw [Bool.or_eq_true, notAfter_iff, notAfter_iff]
  omega

/-- With the places no two rules are equal, so at most one of two precedes the other. -/
theorem Precedes.asymm {a b : Rule × Nat} (ab : Precedes a b) : ¬ Precedes b a := by
  rw [precedes_iff] at ab ⊢
  omega

/-- A list in that order has no rule twice. -/
theorem nodup_of_precedes {es : List (Rule × Nat)} (ordered : es.Pairwise Precedes) :
    es.Nodup := by
  refine ordered.imp fun {a b} ab same => ?_
  subst same
  exact ab.asymm ab

/-! ### Sorting labelled rules -/

variable {labelled es : List (Rule × Nat)} {phase : Scope}

/-- The labelled rules that take part in a phase, sorted without a look at the labels. -/
def sortedLabels (labelled : List (Rule × Nat)) (phase : Scope) : List (Rule × Nat) :=
  (labelled.filter fun e => e.1.takesPart phase).mergeSort fun a b => a.1.notAfter b.1

/-- Sorting keeps the rules that take part, and no others. -/
theorem mem_sortedLabels {e : Rule × Nat} :
    e ∈ sortedLabels labelled phase ↔ e ∈ labelled ∧ e.1.takesPart phase = true := by
  simp [sortedLabels]

/-- Sorting is stable, so the labels of rules that are tied ascend. -/
theorem precedes_sortedLabels (ascending : labelled.Pairwise fun a b => a.2 < b.2) :
    (sortedLabels labelled phase).Pairwise Precedes := by
  have sorted := List.pairwise_mergeSort notAfter_trans notAfter_total
    (labelled.filter fun e => e.1.takesPart phase)
  rw [← sortedLabels] at sorted
  rw [List.pairwise_iff_forall_sublist]
  intro a b both
  have ab : a.1.notAfter b.1 = true := List.pairwise_iff_forall_sublist.mp sorted both
  rw [notAfter_iff] at ab
  rw [precedes_iff]
  by_cases tie : a.1.execOrder = b.1.execOrder ∧ a.1.priority = b.1.priority
  · -- The rules that are tied with these two stand as they do in the list.
    let rank : Rule × Nat → Bool := fun e =>
      e.1.execOrder = b.1.execOrder ∧ e.1.priority = b.1.priority
    have stable : (sortedLabels labelled phase).filter rank =
        (labelled.filter fun e => e.1.takesPart phase).filter rank := by
      refine filter_mergeSort_of_tied notAfter_trans notAfter_total (fun c d hc hd => ?_) _
      rw [decide_eq_true_eq] at hc hd
      rw [notAfter_iff, hc.1, hc.2, hd.1, hd.2]
      omega
    have listed : [a, b].Sublist labelled := by
      have kept := both.filter rank
      rw [show [a, b].filter rank = [a, b] by simp [rank, tie]] at kept
      rw [stable] at kept
      exact kept.trans (List.filter_sublist.trans List.filter_sublist)
    have labels : a.2 < b.2 := List.pairwise_iff_forall_sublist.mp ascending listed
    rw [tie.1, tie.2]
    omega
  · rw [← Int32.toInt_inj, ← Int32.toInt_inj] at tie
    omega

/-- **The rules that take part can be put in order.** -/
theorem exists_precedes (ascending : labelled.Pairwise fun a b => a.2 < b.2) (phase : Scope) :
    ∃ es : List (Rule × Nat), es.Pairwise Precedes ∧
      ∀ e, e ∈ es ↔ e ∈ labelled ∧ e.1.takesPart phase = true :=
  ⟨sortedLabels labelled phase, precedes_sortedLabels ascending, fun _ => mem_sortedLabels⟩

/-- **A run takes rules in their order**: whatever list of the rules that take part is in order is
the list that runs. -/
theorem inOrder_of_precedes (ascending : labelled.Pairwise fun a b => a.2 < b.2)
    (ordered : es.Pairwise Precedes)
    (members : ∀ e, e ∈ es ↔ e ∈ labelled ∧ e.1.takesPart phase = true) :
    inOrder (labelled.map Prod.fst) phase = es.map Prod.fst := by
  have only : es = sortedLabels labelled phase := by
    refine List.Perm.eq_of_pairwise (fun a b _ _ ab ba => absurd ba ab.asymm) ordered
      (precedes_sortedLabels ascending) ?_
    rw [List.perm_ext_iff_of_nodup (nodup_of_precedes ordered)
      (nodup_of_precedes (precedes_sortedLabels ascending))]
    intro e
    rw [members, mem_sortedLabels]
  rw [only, sortedLabels, List.map_mergeSort (s := notAfter) fun a _ b _ => rfl, inOrder,
    List.filter_map]
  rfl

/-- The places of a list ascend. -/
theorem places_ascending (rules : List Rule) :
    rules.zipIdx.Pairwise fun a b => a.2 < b.2 := by
  have places : (rules.zipIdx.map Prod.snd).Pairwise (· < ·) := by
    rw [List.zipIdx_map_snd]
    exact List.pairwise_lt_range'
  rwa [List.pairwise_map] at places

end Interchange.Rule
