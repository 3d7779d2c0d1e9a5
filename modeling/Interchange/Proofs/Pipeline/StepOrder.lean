import Interchange.Pipeline.Basic
import Interchange.Proofs.Sorting
/-!
# The order of steps

A pipeline lists its steps in any order, and a run takes the active ones by ascending order, those
of one order as they are listed.  `Pipeline.Ordered` says so without a sorting algorithm: a list
that ascends and has, for every order, exactly the active steps of that order as they are listed.

* `Pipeline.ordered_activeSteps` — the active steps are such a list.
* `Pipeline.activeSteps_firstSteps` — the active steps of a pipeline that was cut down to its first
  active steps are these.
* `Pipeline.activeSteps_of_rearranged` — the active steps may be listed otherwise, as long as those
  of one order stay in order.
-/

namespace Interchange.Pipeline

/-- **The order of a run.**  Steps ascend, and those of one order are the active steps of that
order as the pipeline lists them. -/
structure Ordered (p : Pipeline) (steps : List Step) : Prop where
  ascending : steps.Pairwise fun a b => a.order ≤ b.order
  listed : ∀ order : Int32,
    steps.filter (fun a => a.order = order) =
      p.steps.filter fun a => a.isActive && a.order = order

/-- The pipeline with nothing but its first `n` active steps. -/
def firstSteps (p : Pipeline) (n : Nat) : Pipeline := { p with steps := p.activeSteps.take n }

private theorem order_trans (a b c : Step) (ab : decide (a.order ≤ b.order) = true)
    (bc : decide (b.order ≤ c.order) = true) : decide (a.order ≤ c.order) = true := by
  simp only [decide_eq_true_eq] at ab bc ⊢
  exact Int32.le_trans ab bc

private theorem order_total (a b : Step) :
    (decide (a.order ≤ b.order) || decide (b.order ≤ a.order)) = true := by
  simpa using Int32.le_total a.order b.order

theorem activeSteps_ascending (p : Pipeline) :
    p.activeSteps.Pairwise fun a b => a.order ≤ b.order := by
  have sorted := List.pairwise_mergeSort order_trans order_total (p.steps.filter Step.isActive)
  simpa [activeSteps] using sorted

theorem mem_activeSteps {p : Pipeline} {a : Step} :
    a ∈ p.activeSteps ↔ a ∈ p.steps ∧ a.isActive := by
  simp [activeSteps]

/-- Sorting is stable: the steps of one order keep the order in which they are listed. -/
theorem activeSteps_listed (p : Pipeline) (order : Int32) :
    p.activeSteps.filter (fun a => a.order = order) =
      p.steps.filter fun a => a.isActive && a.order = order := by
  have tied : ∀ a b : Step, decide (a.order = order) = true → decide (b.order = order) = true →
      decide (a.order ≤ b.order) = true := by
    intro a b ha hb
    simp only [decide_eq_true_eq] at ha hb ⊢
    rw [ha, hb]
    exact Int32.le_refl _
  rw [activeSteps, filter_mergeSort_of_tied order_trans order_total tied, List.filter_filter]
  congr 1
  funext a
  exact Bool.and_comm _ _

/-- **The active steps are in order.** -/
theorem ordered_activeSteps (p : Pipeline) : p.Ordered p.activeSteps :=
  ⟨p.activeSteps_ascending, p.activeSteps_listed⟩

/-- Cutting a pipeline down leaves the first of its active steps, in their order. -/
theorem activeSteps_firstSteps (p : Pipeline) (n : Nat) :
    (p.firstSteps n).activeSteps = p.activeSteps.take n := by
  have active : (p.activeSteps.take n).filter Step.isActive = p.activeSteps.take n := by
    rw [List.filter_eq_self]
    intro a member
    exact (mem_activeSteps.mp (List.mem_of_mem_take member)).2
  rw [activeSteps, firstSteps, active]
  refine List.mergeSort_of_pairwise ?_
  simpa using p.activeSteps_ascending.sublist (List.take_sublist n p.activeSteps)

/-- Steps of one order are those that may stand before one another. -/
theorem order_eq_iff (a b : Step) :
    a.order = b.order ↔ decide (a.order ≤ b.order) = true ∧ decide (b.order ≤ a.order) = true := by
  simp only [decide_eq_true_eq]
  exact ⟨fun same => same ▸ ⟨Int32.le_refl _, Int32.le_refl _⟩,
    fun ⟨le, ge⟩ => Int32.le_antisymm le ge⟩

/-- **Where an active step is listed** counts only beside those of its order. -/
theorem activeSteps_of_rearranged {p q : Pipeline}
    (moved : Rearranged Step.order (p.steps.filter Step.isActive) (q.steps.filter Step.isActive)) :
    p.activeSteps = q.activeSteps :=
  mergeSort_eq_of_rearranged order_trans order_total order_eq_iff moved

end Interchange.Pipeline
