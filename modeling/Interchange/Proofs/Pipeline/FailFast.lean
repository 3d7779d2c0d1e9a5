import Interchange.Pipeline.Run
import Interchange.Proofs.Pipeline.StepOrder
/-!
# Runs stop at the first failure

A run is a prefix of the active steps, and what a failing step did to the context before it failed
is nowhere to be seen: the run ends as the run of the steps before it ends.  Nothing is assumed of
the services, whose answers may depend on all that was asked of them before.

* `Services.StopsAt` — a step that fails where the run of the steps before it ends.
* `Services.FailFast` — what is promised of a run, with or without such a step.
* `Services.runPipeline_failFast` — every run keeps the promise.

The proof cuts a run in two: `runSteps_append` continues a run that succeeded, so that a run is
decided by its first step that fails (`runSteps_of_stop`), and there is one if the run is no success
(`exists_stop`).
-/

namespace Interchange

/-- What a report tells of a step that was run. -/
def Step.heading (a : Step) : Int32 × String × String := (a.order, a.name, a.kind.name)

/-- The step that a report is about. -/
def StepReport.heading (r : StepReport) : Int32 × String × String := (r.order, r.name, r.stepType)

@[simp] theorem StepReport.heading_success (a : Step) (details : Value) :
    (StepReport.success a details).heading = a.heading := rfl

@[simp] theorem StepReport.heading_failure (a : Step) (message : String) :
    (StepReport.failure a message).heading = a.heading := rfl

@[simp] theorem StepReport.succeeded_success (a : Step) (details : Value) :
    (StepReport.success a details).succeeded = true := rfl

@[simp] theorem StepReport.succeeded_failure (a : Step) (message : String) :
    (StepReport.failure a message).succeeded = false := rfl

namespace Services

variable {σ : Type}

/-- **The step that stops a run**: the run of the `k` active steps before it succeeds, and the step
fails in the context and the state of the world that this run leaves. -/
def StopsAt (s : Services σ) (p : Pipeline) (input : Value) (start : σ) (k : Nat) : Prop :=
  ∃ inside : k < p.activeSteps.length,
    let before := (s.runPipeline (p.firstSteps k) input).run start
    before.1.success = true ∧
      ∃ e after, (s.runStep p p.activeSteps[k] before.1.output).run before.2 = (.error e, after)

/-- **What is promised of a run** that began in the state `start` and gave the report `r`. -/
structure FailFast (s : Services σ) (p : Pipeline) (input : Value) (start : σ) (r : RunReport) :
    Prop where
  /-- The input is returned as it was. -/
  input_kept : r.input = input
  /-- The active steps are taken in order. -/
  ordered : p.Ordered p.activeSteps
  /-- The reports are those of the first active steps. -/
  trace : r.steps.map StepReport.heading <+: p.activeSteps.map Step.heading
  /-- Only the last report may be one of a failure. -/
  succeeded_before : ∀ t ∈ r.steps.dropLast, t.succeeded = true
  /-- A run is a success if all active steps were run and did what they should. -/
  success_iff : r.success = true ↔
    r.steps.length = p.activeSteps.length ∧ ∀ t ∈ r.steps, t.succeeded = true
  /-- A run that is no success was stopped by a step. -/
  stopped : r.success = false ↔ ∃ k, s.StopsAt p input start k
  /-- The report of a run that a step stopped ends with that step, and its output and its earlier
  reports are those of the run of the steps before. -/
  stop : ∀ k, s.StopsAt p input start k →
    let before := ((s.runPipeline (p.firstSteps k) input).run start).1
    r.steps.length = k + 1 ∧ r.output = before.output ∧ r.steps.dropLast = before.steps

/-! ### One step -/

theorem runSteps_cons_ok {s : Services σ} {p : Pipeline} {a : Step} {context : Value}
    {start next : σ} {progress : Progress}
    (step : (s.runStep p a context).run start = (.ok progress, next)) (input : Value)
    (rest : List Step) (told : List StepReport) :
    (s.runSteps p input (a :: rest) context told).run start =
      (s.runSteps p input rest progress.context
        (told ++ [.success a progress.details])).run next := by
  simp only [runSteps, StateT.run_bind, step]
  rfl

theorem runSteps_cons_error {s : Services σ} {p : Pipeline} {a : Step} {context : Value}
    {start next : σ} {e : Error}
    (step : (s.runStep p a context).run start = (.error e, next)) (input : Value)
    (rest : List Step) (told : List StepReport) :
    (s.runSteps p input (a :: rest) context told).run start =
      (⟨p.id, input, context, told ++ [.failure a e.message], some (stepFailure a e)⟩, next) := by
  simp only [runSteps, StateT.run_bind, step]
  rfl

/-- What steps do depends on the mappings and the rules of their pipeline, and not on the steps that
it lists. -/
theorem runSteps_withSteps (s : Services σ) (p : Pipeline) (listed : List Step) (input : Value)
    (steps : List Step) : ∀ (context : Value) (told : List StepReport),
      s.runSteps { p with steps := listed } input steps context told =
        s.runSteps p input steps context told := by
  induction steps with
  | nil => intro context told; rfl
  | cons a rest ih =>
      intro context told
      have same : s.runStep { p with steps := listed } a context = s.runStep p a context := rfl
      simp only [runSteps, same, ih]

theorem runPipeline_firstSteps (s : Services σ) (p : Pipeline) (n : Nat) (input : Value) :
    s.runPipeline (p.firstSteps n) input = s.runSteps p input (p.activeSteps.take n) input [] := by
  rw [runPipeline, Pipeline.activeSteps_firstSteps]
  exact s.runSteps_withSteps p _ input _ _ _

/-! ### Runs -/

/-- A run of no success has the reports of all of its steps after those from before. -/
theorem reports_of_success {s : Services σ} {p : Pipeline} {input : Value} {steps : List Step} :
    ∀ {context : Value} {told : List StepReport} {start : σ},
      ((s.runSteps p input steps context told).run start).1.success = true →
      ∃ reports : List StepReport,
        ((s.runSteps p input steps context told).run start).1.steps = told ++ reports ∧
        reports.map StepReport.heading = steps.map Step.heading ∧
        ∀ t ∈ reports, t.succeeded = true := by
  induction steps with
  | nil =>
      intro context told start _
      exact ⟨[], (List.append_nil told).symm, rfl, by simp⟩
  | cons a rest ih =>
      intro context told start success
      rcases step : (s.runStep p a context).run start with ⟨e | progress, next⟩
      · rw [runSteps_cons_error step] at success
        simp [RunReport.success] at success
      · rw [runSteps_cons_ok step] at success ⊢
        obtain ⟨reports, steps_eq, headings, succeeded⟩ := ih success
        refine ⟨.success a progress.details :: reports, ?_, ?_, ?_⟩
        · rw [steps_eq, List.append_assoc, List.singleton_append]
        · rw [List.map_cons, List.map_cons, headings, StepReport.heading_success]
        · simpa using succeeded

/-- A run that succeeded is continued from where it ended. -/
theorem runSteps_append {s : Services σ} {p : Pipeline} {input : Value} {first : List Step}
    (rest : List Step) : ∀ {context : Value} {told : List StepReport} {start : σ},
      ((s.runSteps p input first context told).run start).1.success = true →
      (s.runSteps p input (first ++ rest) context told).run start =
        let before := (s.runSteps p input first context told).run start
        (s.runSteps p input rest before.1.output before.1.steps).run before.2 := by
  induction first with
  | nil => intro context told start _; rfl
  | cons a first ih =>
      intro context told start success
      rcases step : (s.runStep p a context).run start with ⟨e | progress, next⟩
      · rw [runSteps_cons_error step] at success
        simp [RunReport.success] at success
      · rw [runSteps_cons_ok step] at success ⊢
        rw [List.cons_append, runSteps_cons_ok step]
        exact ih success

/-- The first step that fails decides the run, whatever steps follow it. -/
theorem runSteps_of_stop {s : Services σ} {p : Pipeline} {input context : Value}
    {steps : List Step} {told : List StepReport} {start after : σ} {k : Nat} {e : Error}
    (inside : k < steps.length)
    (success : ((s.runSteps p input (steps.take k) context told).run start).1.success = true)
    (step : (s.runStep p steps[k]
        ((s.runSteps p input (steps.take k) context told).run start).1.output).run
        ((s.runSteps p input (steps.take k) context told).run start).2 = (.error e, after)) :
    (s.runSteps p input steps context told).run start =
      let before := ((s.runSteps p input (steps.take k) context told).run start).1
      (⟨p.id, input, before.output, before.steps ++ [.failure steps[k] e.message],
        some (stepFailure steps[k] e)⟩, after) := by
  have cut : steps = steps.take k ++ steps[k] :: steps.drop (k + 1) := by
    rw [← List.drop_eq_getElem_cons, List.take_append_drop]
  calc (s.runSteps p input steps context told).run start
      = (s.runSteps p input (steps.take k ++ steps[k] :: steps.drop (k + 1)) context told).run
          start := by rw [← cut]
    _ = _ := by
        rw [runSteps_append _ success]
        exact runSteps_cons_error step _ _ _

/-- A run that is no success has a first step that fails. -/
theorem exists_stop {s : Services σ} {p : Pipeline} {input : Value} {steps : List Step} :
    ∀ {context : Value} {told : List StepReport} {start : σ},
      ((s.runSteps p input steps context told).run start).1.success = false →
      ∃ (k : Nat) (inside : k < steps.length),
        let before := (s.runSteps p input (steps.take k) context told).run start
        before.1.success = true ∧
          ∃ e after, (s.runStep p steps[k] before.1.output).run before.2 = (.error e, after) := by
  induction steps with
  | nil =>
      intro context told start failed
      exact absurd (show (true : Bool) = false from failed) (by decide)
  | cons a rest ih =>
      intro context told start failed
      rcases step : (s.runStep p a context).run start with ⟨e | progress, next⟩
      · exact ⟨0, by simp, rfl, e, next, step⟩
      · rw [runSteps_cons_ok step] at failed
        obtain ⟨k, inside, success, e, after, stop⟩ := ih failed
        refine ⟨k + 1, by simpa using inside, ?_⟩
        rw [List.take_succ_cons, runSteps_cons_ok step]
        exact ⟨success, e, after, stop⟩

/-- A step that stops a run, said of the run's own list of steps. -/
theorem stopsAt_iff {s : Services σ} {p : Pipeline} {input : Value} {start : σ} {k : Nat} :
    s.StopsAt p input start k ↔ ∃ inside : k < p.activeSteps.length,
      let before := (s.runSteps p input (p.activeSteps.take k) input []).run start
      before.1.success = true ∧
        ∃ e after,
          (s.runStep p p.activeSteps[k] before.1.output).run before.2 = (.error e, after) := by
  rw [StopsAt, runPipeline_firstSteps]

/-- A run that succeeded reports on all of its active steps. -/
theorem headings_of_success {s : Services σ} {p : Pipeline} {input : Value} {start : σ}
    (success : ((s.runPipeline p input).run start).1.success = true) :
    ((s.runPipeline p input).run start).1.steps.map StepReport.heading =
        p.activeSteps.map Step.heading ∧
      ∀ t ∈ ((s.runPipeline p input).run start).1.steps, t.succeeded = true := by
  obtain ⟨reports, steps_eq, headings, succeeded⟩ := reports_of_success success
  rw [List.nil_append] at steps_eq
  rw [runPipeline, steps_eq]
  exact ⟨headings, succeeded⟩

/-- The report of a run that a step stops, from the report of the run before it. -/
theorem runPipeline_of_stopsAt {s : Services σ} {p : Pipeline} {input : Value} {start : σ} {k : Nat}
    (stop : s.StopsAt p input start k) :
    ∃ (inside : k < p.activeSteps.length) (e : Error),
      let before := ((s.runPipeline (p.firstSteps k) input).run start).1
      ((s.runPipeline p input).run start).1 =
          ⟨p.id, input, before.output, before.steps ++ [.failure p.activeSteps[k] e.message],
            some (stepFailure p.activeSteps[k] e)⟩ ∧
        before.steps.map StepReport.heading = (p.activeSteps.take k).map Step.heading ∧
        ∀ t ∈ before.steps, t.succeeded = true := by
  obtain ⟨inside, success, e, after, step⟩ := stop
  refine ⟨inside, e, ?_, ?_⟩
  · rw [runPipeline_firstSteps] at success step ⊢
    rw [runPipeline, runSteps_of_stop inside success step]
  · rw [← Pipeline.activeSteps_firstSteps]
    exact headings_of_success success

theorem input_runSteps (s : Services σ) (p : Pipeline) (input : Value) (steps : List Step) :
    ∀ (context : Value) (told : List StepReport) (start : σ),
      ((s.runSteps p input steps context told).run start).1.input = input := by
  induction steps with
  | nil => intro context told start; rfl
  | cons a rest ih =>
      intro context told start
      rcases step : (s.runStep p a context).run start with ⟨e | progress, next⟩
      · rw [runSteps_cons_error step]
      · rw [runSteps_cons_ok step]
        exact ih _ _ _

/-- **Runs are fail-fast**, for all pipelines, inputs and services, and from all states of the
world. -/
theorem runPipeline_failFast (s : Services σ) (p : Pipeline) (input : Value) (start : σ) :
    s.FailFast p input start ((s.runPipeline p input).run start).1 := by
  have stopped : ((s.runPipeline p input).run start).1.success = false →
      ∃ k, s.StopsAt p input start k := by
    intro failed
    obtain ⟨k, stop⟩ := exists_stop failed
    exact ⟨k, stopsAt_iff.mpr stop⟩
  have failed : ∀ k, s.StopsAt p input start k →
      ((s.runPipeline p input).run start).1.success = false := by
    intro k stop
    obtain ⟨inside, e, report, -⟩ := runPipeline_of_stopsAt stop
    rw [report]
    rfl
  have ends : ((s.runPipeline p input).run start).1.success = true ∨
      ∃ k, s.StopsAt p input start k := by
    cases success : ((s.runPipeline p input).run start).1.success with
    | true => exact .inl rfl
    | false => exact .inr (stopped success)
  refine
    { input_kept := input_runSteps s p input _ _ _ _
      ordered := p.ordered_activeSteps
      trace := ?_
      succeeded_before := ?_
      success_iff := ?_
      stopped := ⟨stopped, fun ⟨k, stop⟩ => failed k stop⟩
      stop := ?_ }
  · rcases ends with success | ⟨k, stop⟩
    · exact (headings_of_success success).1 ▸ List.prefix_rfl
    · obtain ⟨inside, e, report, headings, -⟩ := runPipeline_of_stopsAt stop
      rw [report, List.map_append, headings, List.map_singleton, StepReport.heading_failure,
        ← List.map_singleton, ← List.map_append, List.take_append_getElem inside]
      exact (List.take_prefix _ _).map _
  · intro t member
    rcases ends with success | ⟨k, stop⟩
    · exact (headings_of_success success).2 t (List.dropLast_subset _ member)
    · obtain ⟨inside, e, report, -, succeeded⟩ := runPipeline_of_stopsAt stop
      rw [report, List.dropLast_concat] at member
      exact succeeded t member
  · rcases ends with success | ⟨k, stop⟩
    · obtain ⟨headings, succeeded⟩ := headings_of_success success
      have lengths := congrArg List.length headings
      rw [List.length_map, List.length_map] at lengths
      exact ⟨fun _ => ⟨lengths, succeeded⟩, fun _ => success⟩
    · obtain ⟨inside, e, report, -⟩ := runPipeline_of_stopsAt stop
      rw [failed k stop]
      refine ⟨fun h => absurd h (by decide), fun ⟨_, succeeded⟩ => ?_⟩
      have last := succeeded (.failure p.activeSteps[k] e.message) (by rw [report]; simp)
      exact absurd last (by simp)
  · intro k stop
    obtain ⟨inside, e, report, headings, -⟩ := runPipeline_of_stopsAt stop
    have count := congrArg List.length headings
    rw [List.length_map, List.length_map, List.length_take_of_le (by omega)] at count
    rw [report]
    exact ⟨by simpa using count, rfl, List.dropLast_concat⟩

end Services

end Interchange
