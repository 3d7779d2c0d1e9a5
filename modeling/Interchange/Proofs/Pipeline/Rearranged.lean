import Interchange.Proofs.Pipeline.FailFast
/-!
# Pipelines that run alike

A run takes its mappings and rules from the pipeline, and its steps from the ordered active ones.
So pipelines that differ in nothing but their lists of steps run alike if the active steps come out
in the same order: where a step is listed counts only beside the active steps of the same order, and
steps that are not active may be listed anywhere.

* `Services.runPipeline_of_activeSteps` — a run depends on the steps through the ordered active
  ones.
* `Services.runPipeline_of_rearranged` — lists of steps that make pipelines run alike.
-/

namespace Interchange

namespace Services

variable {σ : Type} {p q : Pipeline}

/-- Pipelines that differ in their lists of steps only run alike if the same steps are active in the
same order. -/
theorem runPipeline_of_activeSteps (same : { q with steps := p.steps } = p)
    (order : p.activeSteps = q.activeSteps) (s : Services σ) (input : Value) :
    s.runPipeline p input = s.runPipeline q input := by
  calc s.runPipeline p input
      = s.runSteps { q with steps := p.steps } input p.activeSteps input [] := by
        rw [same, runPipeline]
    _ = s.runSteps q input p.activeSteps input [] := s.runSteps_withSteps q _ _ _ _ _
    _ = s.runPipeline q input := by rw [order, runPipeline]

/-- **A run depends only on the ordered active steps.**  Of two pipelines that differ in nothing but
their lists of steps, either gives the same report on every input and leaves the same state of the
world, if the active steps are the same but for their places and those of one order stay in order.
-/
theorem runPipeline_of_rearranged (same : { q with steps := p.steps } = p)
    (moved : Rearranged Step.order (p.steps.filter Step.isActive) (q.steps.filter Step.isActive))
    (s : Services σ) (input : Value) : s.runPipeline p input = s.runPipeline q input :=
  runPipeline_of_activeSteps same (Pipeline.activeSteps_of_rearranged moved) s input

/-- An active step that is named after its type. -/
def stepOf (order : Int32) (kind : StepKind) : Step := .ofKind order kind none true

/-- A fixed reply that is replaced by a second one of the same order may be listed before or after a
validation that goes first, and drafts may be listed anywhere. -/
theorem replies_around_validation :
    let ann := stepOf 7 (.mockResponse (.str "Ann"))
    let bo := stepOf 7 (.mockResponse (.str "Bo"))
    let first := stepOf (-1) (.validate (some "quote"))
    let draft : Step := { stepOf (-5) (.unsupported "draft") with isActive := false }
    let p : Pipeline := { Pipeline.named "quote" with steps := [ann, first, bo] }
    let q : Pipeline := { Pipeline.named "quote" with steps := [draft, first, ann, draft, bo] }
    { q with steps := p.steps } = p ∧
      Rearranged Step.order (p.steps.filter Step.isActive) (q.steps.filter Step.isActive) ∧
      ∀ (s : Services Unit) (input : Value), s.runPipeline p input = s.runPipeline q input := by
  intro ann bo first draft p q
  have moved : Rearranged Step.order (p.steps.filter Step.isActive)
      (q.steps.filter Step.isActive) :=
    ⟨(Equiv.swap 0 1 : Fin 3 ≃ Fin 3), by decide, by decide⟩
  exact ⟨rfl, moved, runPipeline_of_rearranged rfl moved⟩

end Services

end Interchange
