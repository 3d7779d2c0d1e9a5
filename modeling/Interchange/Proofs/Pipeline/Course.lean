import Interchange.Proofs.Pipeline.FailFast
/-!
# The course of a run

A run is a sequence of visits.  Each step that is run finds the context and the world as the step
before it left them, and the first step that fails is the last one.  What is to be said of all runs
can be said of courses, by induction on them, and every run has one.

* `Services.run_call`, `Services.runStep_applyRules` — what single steps come to.
* `Visit` — a step that was run, with what it found and what came of it.
* `Services.Course` — the courses from a context and a world.
* `Services.exists_course` — every run takes one, and its report tells of the visits.
-/

namespace Interchange

variable {σ : Type}

/-! ### Single steps -/

/-- A call that makes no request leaves the world alone, and else its transport decides. -/
theorem ExternalSystem.run_invoke (system : ExternalSystem) (send : Transport σ)
    (settings : CallSettings) (env : Environment) (c : CallConfig) (context : Value) (w : σ) :
    (system.invoke send settings env c context).run w =
      match system.request settings env c context with
      | .error e => (.error e, w)
      | .ok r => (system.conclude r ((send r).run w).1, ((send r).run w).2) := by
  rw [invoke]
  cases system.request settings env c context with
  | error e => rfl
  | ok r => rfl

namespace Services

variable {s : Services σ} {p : Pipeline} {a : Step}

/-- A call invokes the system that is registered under its code, and keeps the reply. -/
theorem run_call (s : Services σ) (c : CallConfig) (context : Value) (w : σ) :
    (s.call c context).run w =
      match (s.system c.system).run w with
      | (.error e, next) => (.error e, next)
      | (.ok none, next) => (.error (.unknownSystem c.system), next)
      | (.ok (some system), next) =>
        let invoked := (system.invoke s.send s.settings s.environment c context).run next
        (invoked.1.map fun i => ⟨withResponse context i.response, callDetails system i⟩,
          invoked.2) := by
  rw [call, StateT.run_bind]
  rcases (s.system c.system).run w with ⟨e | _ | system, next⟩
  · rfl
  · rfl
  · show (system.invoke s.send s.settings s.environment c context >>= _).run next = _
    rw [StateT.run_bind]
    dsimp only
    rcases (system.invoke s.send s.settings s.environment c context).run next with ⟨e | i, after⟩
    · rfl
    · rfl

theorem runStep_callSystem {c : CallConfig} (kind : a.kind = .callSystem c) (context : Value) :
    s.runStep p a context = s.call c context := by
  rw [runStep, kind]

/-- The rules for replies are run on the reply, and what they make of it takes its place. -/
theorem runStep_applyResponseRules (kind : a.kind = .applyResponseRules) (context : Value)
    (w : σ) :
    (s.runStep p a context).run w =
      let r := Rule.runAll p.rules (responseOf context) .response
      (.ok ⟨withResponse context r.data, r.summary⟩, w) := by
  rw [runStep, kind]
  rfl

end Services

/-! ### Visits -/

/-- **A visit**: a step that was run, the context and the world that it found, and what came of
it. -/
structure Visit (σ : Type) where
  step : Step
  context : Value
  world : σ
  result : Except Error Progress

/-- What a run tells of a visit. -/
def Visit.report (v : Visit σ) : StepReport :=
  match v.result with
  | .ok progress => .success v.step progress.details
  | .error e => .failure v.step e.message

namespace Services

variable {s : Services σ} {p : Pipeline}

/-- **The course of a run** of steps, from a context and a world to others.  A step that fails ends
it, whatever steps were to follow, and leaves the context as it found it. -/
inductive Course (s : Services σ) (p : Pipeline) :
    List Step → Value → σ → List (Visit σ) → Value → σ → Prop
  | done {context : Value} {w : σ} : Course s p [] context w [] context w
  | failed {a : Step} {steps : List Step} {context : Value} {w after : σ} {e : Error}
      (ran : (s.runStep p a context).run w = (.error e, after)) :
      Course s p (a :: steps) context w [⟨a, context, w, .error e⟩] context after
  | passed {a : Step} {steps : List Step} {context last : Value} {w next after : σ}
      {progress : Progress} {visits : List (Visit σ)}
      (ran : (s.runStep p a context).run w = (.ok progress, next))
      (onward : Course s p steps progress.context next visits last after) :
      Course s p (a :: steps) context w (⟨a, context, w, .ok progress⟩ :: visits) last after

/-- Every run takes a course, and has one report for each visit. -/
theorem exists_course (s : Services σ) (p : Pipeline) (input : Value) (steps : List Step) :
    ∀ (context : Value) (told : List StepReport) (w : σ), ∃ visits,
      let run := (s.runSteps p input steps context told).run w
      s.Course p steps context w visits run.1.output run.2 ∧
        run.1.steps = told ++ visits.map Visit.report := by
  induction steps with
  | nil =>
      intro context told w
      exact ⟨[], .done, (List.append_nil told).symm⟩
  | cons a steps ih =>
      intro context told w
      rcases ran : (s.runStep p a context).run w with ⟨e | progress, next⟩
      · rw [runSteps_cons_error ran]
        exact ⟨_, .failed ran, rfl⟩
      · rw [runSteps_cons_ok ran]
        obtain ⟨visits, onward, reports⟩ := ih progress.context _ next
        refine ⟨_, .passed ran onward, ?_⟩
        rw [reports, List.append_assoc]
        rfl

/-- Visits are paid to the first steps, in their order. -/
theorem Course.steps_prefix {steps : List Step} {context last : Value} {w after : σ}
    {visits : List (Visit σ)} (course : s.Course p steps context w visits last after) :
    visits.map Visit.step <+: steps := by
  induction course with
  | done => exact List.nil_prefix
  | failed => exact List.cons_prefix_cons.mpr ⟨rfl, List.nil_prefix⟩
  | passed _ _ ih => exact List.cons_prefix_cons.mpr ⟨rfl, ih⟩

/-- A step that failed is the last one that is visited. -/
theorem Course.passed_of_mem_dropLast {steps : List Step} {context last : Value} {w after : σ}
    {visits : List (Visit σ)} (course : s.Course p steps context w visits last after) :
    ∀ v ∈ visits.dropLast, ∃ progress, v.result = .ok progress := by
  induction course with
  | done => intro v member; cases member
  | failed => intro v member; cases member
  | @passed _ _ _ _ _ _ _ progress visits _ _ ih =>
      intro v member
      cases visits with
      | nil => cases member
      | cons u visits =>
          rw [List.dropLast_cons_cons] at member
          rcases List.mem_cons.mp member with rfl | later
          · exact ⟨progress, rfl⟩
          · exact ih v later

end Services

end Interchange
