import Interchange.Pipeline.Run
import Interchange.Proofs.Error
import Interchange.Proofs.Outcome
import Interchange.Proofs.Pipeline.StepOrder
/-!
# Steps whose references lead somewhere

A step refers to a system, to lookup tables and, by its type, to what it does.  If all that is
there, then the step may still fail, but only over an address, a header, a reply or a required
field.  The same goes for the fields of a mapping, which refer to tables.

## What is followed through a run

A failure is told in a report as a text, and the text alone does not say where it came from.  So it
is the error that is followed, from the function that raises it to the report that tells it, and
texts are compared once and for all where errors are defined: no text of a legitimate error is that
of a reference that leads nowhere.  Three predicates are carried along, and each is there for one
level.

* `FailsWith P r` is said of a result: if it is an error, the error is one of `P`.  It is kept where
  results are chained, so that a function is read off its parts.  For steps `P` is
  `Error.Legitimate`; for transformations it is that the error is not the failure of a lookup.
* `Answers Q a` is said of an action: its answer is one of `Q`, in whatever state it begins.  It has
  to be said of all states, since nothing is known of the world in the middle of a run.
* `RunReport.FailsWith P` is said of a report: each text in it is the text of an error of `P`.  For
  a run this is an invariant of the reports told so far, and one more step keeps it.

## What has to be there

What a step refers to is there if the services say so whenever they are asked (`Services.Provides`),
and likewise for a field (`Resolver.Provides`).  That a table is there does not mean that it has an
entry for a key.  A key that is missing is noted in the report of a step, and a field is left with
the value that it had or with one that was configured; it is no failure of either.

Fields are told apart from steps because a mapping does not fail over a lookup: the failure stands
in the report on the field, as one text among others, and the field may fall back on its default.

## Main statements

* `Services.Provides`, `Resolver.Provides` — services that have what a step or a field refers to.
* `Services.Provides.runStep` — with which errors such a step can fail.
* `Services.runSteps_answers` — what is told of the failures of a run, from those of its steps.
* `Services.runPipeline_answers` — with which errors a run can fail whose steps are all provided
  for.
* `FieldMapping.run_answers`, `Mapping.run_answers` — the texts of errors in the reports on fields.
-/

namespace Interchange

variable {σ : Type}

/-! ### Calls and mappings -/

/-- A text fails over the first variable in it that is not set. -/
theorem Environment.resolve_failsWith (env : Environment) (names : List String) :
    ∀ s : String, FailsWith SetupFault.OfCall (env.resolve names s) := by
  induction names with
  | nil => intro s; exact .ok _
  | cons name names ih =>
      intro s
      unfold resolve
      cases env name with
      | some v => exact ih _
      | none => exact .error (.unsetVariable name)

/-- An address fails over its form or its scheme. -/
theorem callUrl_failsWith (base : String) (path : Option String) :
    FailsWith SetupFault.OfCall (callUrl base path) := by
  unfold callUrl
  dsimp only
  split
  · exact .error (.badUrl _ _)
  · split
    · exact .ok _
    · exact .error (.badScheme _ _)

namespace ExternalSystem

/-- Headers fail over a variable that is not set. -/
theorem addHeaders_failsWith (env : Environment) (more : List (String × String)) :
    ∀ headers, FailsWith SetupFault.OfCall (addHeaders env headers more) := by
  induction more with
  | nil => intro headers; exact .ok _
  | cons header more ih =>
      intro headers
      exact (env.resolve_failsWith _ _).bind fun _ => ih _

/-- What a request is made of fails over its address or its headers. -/
theorem prepare_failsWith (s : ExternalSystem) (settings : CallSettings) (env : Environment)
    (c : CallConfig) (context : Value) :
    FailsWith SetupFault.OfCall (s.prepare settings env c context) :=
  (callUrl_failsWith _ _).bind fun _ => (addHeaders_failsWith env _ _).bind fun _ => .ok _

/-- **A request fails** over its address, its headers, or a system that is switched off. -/
theorem request_failsWith (s : ExternalSystem) (settings : CallSettings) (env : Environment)
    (c : CallConfig) (context : Value) :
    FailsWith Error.Legitimate (s.request settings env c context) := by
  have faults := s.prepare_failsWith settings env c context
  unfold request
  split
  · cases prepared : s.prepare settings env c context with
    | error fault => exact .error (.setup (faults fault prepared))
    | ok r => exact .ok r
  · exact .error (.inactiveSystem _)

/-- What comes of a request fails over the way, the status or the body of the reply. -/
theorem conclude_failsWith (s : ExternalSystem) (sent : Request) (o : Outcome) :
    FailsWith Error.Legitimate (s.conclude sent o) := by
  unfold conclude
  cases o with
  | failed f => exact .error (.http f)
  | timedOut => exact .error (.http _)
  | answered r =>
      dsimp only
      split
      · split
        · exact .ok _
        · exact .error (.unreadableReply _)
      · exact .error (.http _)

/-- **A call fails** over the request or over the reply, whatever the transport answers. -/
theorem invoke_answers (send : Transport σ) (settings : CallSettings) (env : Environment)
    (s : ExternalSystem) (c : CallConfig) (context : Value) :
    Answers (FailsWith Error.Legitimate) (s.invoke send settings env c context) := by
  have errors := s.request_failsWith settings env c context
  unfold invoke
  cases prepared : s.request settings env c context with
  | error e => exact .pure (.error (errors e prepared))
  | ok r => exact .after (a := send r) fun o => .pure (s.conclude_failsWith r o)

end ExternalSystem

namespace Services

variable {s : Services σ}

/-- The mappings of a step fail over a required field, and over nothing else. -/
theorem runMappings_answers (source : Value → Value) (ms : List Mapping) :
    ∀ (context : Value) (told : List Value),
      Answers (FailsWith Error.Legitimate) (s.runMappings source ms context told) := by
  induction ms with
  | nil => intro context told; exact .pure (.ok _)
  | cons m ms ih =>
      intro context told
      unfold runMappings
      split
      · exact ih _ _
      · refine .after fun r => ?_
        rcases r with path | r
        · exact .pure (.error (.requiredField path))
        · exact ih _ _

/-- So does a step that maps. -/
theorem map_answers (p : Pipeline) (d : Direction) (source : Value → Value) (context : Value) :
    Answers (FailsWith Error.Legitimate) (s.map p d source context) := by
  refine (runMappings_answers source _ context []).bind fun r known => ?_
  rcases r with e | ⟨context, told⟩
  · exact .pure (.error (known e rfl))
  · exact .pure (.ok _)

/-! ### Steps -/

/-- **Services that have what a step refers to**, whatever the state of the world. -/
structure Provides (s : Services σ) (a : Step) : Prop where
  system : ∀ c, a.kind = .callSystem c →
    Answers (fun r => ∃ system, r = .ok (some system)) (s.system c.system)
  table : ∀ ls, a.kind = .enrich ls → ∀ l ∈ ls, ∀ key,
    Answers (fun r => ∃ found, r = .ok found) (s.lookup l.table key)
  kind : ∀ stepType, a.kind ≠ .unsupported stepType

/-- A step that calls a system that is there fails as the call does. -/
theorem call_answers (c : CallConfig) (context : Value)
    (there : Answers (fun r => ∃ system, r = .ok (some system)) (s.system c.system)) :
    Answers (FailsWith Error.Legitimate) (s.call c context) := by
  refine there.bind ?_
  rintro _ ⟨system, rfl⟩
  refine (system.invoke_answers _ _ _ c context).bind fun r known => ?_
  rcases r with e | i
  · exact .pure (.error (known e rfl))
  · exact .pure (.ok _)

/-- A step that looks up values in tables that are there does not fail. -/
theorem enrich_answers (ls : List EnrichLookup) :
    (∀ l ∈ ls, ∀ key, Answers (fun r => ∃ found, r = .ok found) (s.lookup l.table key)) →
    ∀ (context : Value) (notes : EnrichNotes),
      Answers (FailsWith Error.Legitimate) (s.enrich ls context notes) := by
  induction ls with
  | nil => intro _ context notes; exact .pure (.ok _)
  | cons l ls ih =>
      intro there context notes
      have rest := ih fun m member => there m (.tail _ member)
      unfold enrich
      cases context.present? l.sourceField with
      | none => exact rest _ _
      | some v =>
          -- A key that is not in the table is noted and is no failure.
          refine (there l (.head _) v.toText).bind ?_
          rintro _ ⟨_ | found, rfl⟩
          · exact rest _ _
          · exact rest _ _

/-- A step that has what it refers to fails, if at all, over something else. -/
theorem Provides.runStep {a : Step} (there : s.Provides a) (p : Pipeline) (context : Value) :
    Answers (FailsWith Error.Legitimate) (s.runStep p a context) := by
  unfold Services.runStep
  cases kind : a.kind with
  | mapRequest => exact map_answers p .request _ context
  | mapResponse => exact map_answers p .response _ context
  | callSystem c => exact call_answers c context (there.system c kind)
  | enrich ls =>
      refine (enrich_answers ls (there.table ls kind) context _).bind fun r known => ?_
      rcases r with e | ⟨context, notes⟩
      · exact .pure (.error (known e rfl))
      · exact .pure (.ok _)
  | validate | applyRules | applyResponseRules | mockResponse => exact .pure (.ok _)
  | unsupported stepType => exact absurd kind (there.kind stepType)

end Services

/-! ### Runs -/

/-- **The report on a step**, whose error, if there is one, has a property. -/
def StepReport.FailsWith (P : Error → Prop) (t : StepReport) : Prop :=
  ∀ message, t.error = some message → ∃ e, P e ∧ message = e.message

/-- **The report on a run**, whose errors have a property. -/
structure RunReport.FailsWith (P : Error → Prop) (r : RunReport) : Prop where
  steps : ∀ t ∈ r.steps, t.FailsWith P
  failure : ∀ f, r.failure = some f → ∃ a e, P e ∧ f = Services.stepFailure a e

namespace Services

variable {s : Services σ} {p : Pipeline} {P : Error → Prop}

/-- The errors of a run are those of its steps. -/
theorem runSteps_answers (input : Value) (steps : List Step) :
    (∀ a ∈ steps, ∀ context, Answers (Interchange.FailsWith P) (s.runStep p a context)) →
    ∀ (context : Value) (told : List StepReport), (∀ t ∈ told, t.FailsWith P) →
      Answers (RunReport.FailsWith P) (s.runSteps p input steps context told) := by
  induction steps with
  | nil =>
      intro _ context told before
      exact .pure ⟨before, by rintro f ⟨⟩⟩
  | cons a steps ih =>
      intro fails context told before
      refine (fails a (.head _) context).bind fun r known => ?_
      rcases r with e | progress
      · have here := known e rfl
        refine .pure ⟨fun t member => ?_, fun f told => ?_⟩
        · rcases List.mem_append.mp member with old | new
          · exact before t old
          · rw [List.mem_singleton.mp new]
            rintro message ⟨⟩
            exact ⟨e, here, rfl⟩
        · cases told
          exact ⟨a, e, here, rfl⟩
      · refine ih (fun b member => fails b (.tail _ member)) _ _ fun t member => ?_
        rcases List.mem_append.mp member with old | new
        · exact before t old
        · rw [List.mem_singleton.mp new]
          rintro message ⟨⟩

/-- A run of steps that have what they refer to fails, if at all, over something else. -/
theorem runPipeline_answers (there : ∀ a ∈ p.steps, s.Provides a) (input : Value) :
    Answers (RunReport.FailsWith Error.Legitimate) (s.runPipeline p input) := by
  refine runSteps_answers input _ (fun a member context => ?_) _ _ (by simp)
  exact (there a (Pipeline.mem_activeSteps.mp member).1).runStep p context

end Services

/-! ### Fields -/

/-- **A resolver that has the table of a transformation**, if the transformation looks anything
up. -/
def Resolver.Provides (r : Resolver σ) (t : Transformation) : Prop :=
  ∀ table notFound, t = .lookup table notFound →
    ∀ key, Answers (fun found => ∃ v, found = .ok v) (r table key)

/-- **The report on a field** whose error is not the failure of a lookup. -/
def FieldReport.LookedUp (r : FieldReport) : Prop :=
  ∀ e : TransformError, e.isLookup = true → r.error ≠ some e.message

/-- A value that is no date is the only fault of a date. -/
theorem Value.toInstant_failsWith (v : Value) :
    FailsWith (fun e => e.isLookup = false) v.toInstant := by
  unfold toInstant
  cases v.toInstant? with
  | some i => exact .ok i
  | none => exact .error rfl

/-- Coercion looks nothing up. -/
theorem DataType.coerce_failsWith (t : DataType) (v : Value) :
    FailsWith (fun e => e.isLookup = false) (t.coerce v) := by
  unfold coerce
  cases t with
  | date =>
      cases instant : v.toInstant with
      | error e => exact .error (v.toInstant_failsWith e instant)
      | ok i => exact .ok _
  | number | integer =>
      dsimp only
      split
      · exact .ok _
      · exact .error rfl
  | object =>
      cases v with
      | obj | null => exact .ok _
      | str s =>
          dsimp only
          split
          · exact .ok _
          · exact .error rfl
      | bool | num | list => exact .error rfl
  | array =>
      cases v with
      | str s =>
          dsimp only
          split <;> exact .ok _
      | obj | null | bool | num | list => exact .ok _
  | string | boolean | any => exact .ok _

namespace Transformation

/-- Nor does the reading of a number, -/
theorem numeric_failsWith (v : Value) (operation : String) :
    FailsWith (fun e => e.isLookup = false) (numeric v operation) := by
  unfold numeric
  cases v.toNumber? with
  | some x => exact .ok x
  | none => exact .error rfl

/-- the check that a number is finite, -/
theorem finite_failsWith (x : Float) (v : Value) :
    FailsWith (fun e => e.isLookup = false) (finite x v) := by
  unfold finite
  cases Value.ofNumber? x with
  | some w => exact .ok w
  | none => exact .error rfl

/-- or a division. -/
theorem quotient_failsWith (v : Value) (divisor : Float) (operation : String) :
    FailsWith (fun e => e.isLookup = false) (quotient v divisor operation) := by
  unfold quotient
  split
  · exact .error rfl
  · exact (numeric_failsWith v operation).bind fun x => finite_failsWith _ v

/-- **No transformation but a lookup fails over a lookup.** -/
theorem applyPure_failsWith (t : Transformation) (v context : Value) :
    FailsWith (fun e => e.isLookup = false) (t.applyPure v context) := by
  unfold applyPure
  cases t with
  | number | multiply | round =>
      exact (numeric_failsWith v _).bind fun x => finite_failsWith _ v
  | divide | perUnit => exact quotient_failsWith v _ _
  | date format => exact v.toInstant_failsWith.bind fun i => .ok _
  | static value dataType =>
      cases dataType with
      | some t => exact t.coerce_failsWith value
      | none => exact .ok _
  | expression e =>
      dsimp only
      cases Expr.number e (.ofSource v context) with
      | ok x => exact finite_failsWith x v
      | error e => exact .error rfl
  | conditional condition =>
      dsimp only
      cases Expr.holds condition (.ofSource v context) with
      | ok b => exact .ok _
      | error e => exact .error rfl
  | split delimiter index =>
      dsimp only
      split <;> exact .ok _
  | direct | uppercase | lowercase | trim | boolean | string | concat | lookup => exact .ok _

/-- **Nor does a lookup** in a table that is there. -/
theorem apply_answers {r : Resolver σ} {t : Transformation} (there : r.Provides t)
    (v context : Value) :
    Answers (FailsWith fun e => e.isLookup = false) (t.apply r v context) := by
  unfold apply
  cases t with
  | lookup table notFound =>
      refine (there table notFound rfl v.toText).bind ?_
      rintro _ ⟨_ | found, rfl⟩ <;> exact .pure (.ok _)
  | _ => exact .pure (applyPure_failsWith _ v context)

end Transformation

namespace FieldMapping

/-- Falling back on a default leaves the error of the report as it is. -/
theorem orDefault_lookedUp (f : FieldMapping) {r : FieldReport} (lookedUp : r.LookedUp) :
    (f.orDefault r).LookedUp := by
  unfold orDefault
  cases f.coercedDefault with
  | some d => exact lookedUp
  | none => exact lookedUp

/-- A report before anything was looked at tells of no error. -/
theorem blankReport_lookedUp (f : FieldMapping) : f.blankReport.LookedUp := by
  rintro e _ ⟨⟩

/-- That a value is missing is told in words of its own. -/
theorem whenMissing_lookedUp (f : FieldMapping) : f.whenMissing.LookedUp := by
  unfold whenMissing
  split
  · intro e isLookup same
    exact requiredMessage_ne_of_isLookup isLookup _ (Option.some.inj same)
  · exact f.orDefault_lookedUp f.blankReport_lookedUp

/-- A field whose table is there does not report the failure of a lookup. -/
theorem run_answers {r : Resolver σ} {f : FieldMapping} (there : r.Provides f.transformation)
    (source context : Value) : Answers FieldReport.LookedUp (f.run r source context) := by
  unfold run
  split
  · refine .pure ?_
    split
    · exact f.orDefault_lookedUp f.blankReport_lookedUp
    · exact f.blankReport_lookedUp
  · cases source.present? f.sourcePath with
    | none => exact .pure f.whenMissing_lookedUp
    | some v =>
        refine (Transformation.apply_answers there v context).bind fun answer known => ?_
        rcases answer with e | w
        · refine .pure (f.orDefault_lookedUp fun failed isLookup same => ?_)
          exact TransformError.message_ne_of_isLookup (known e rfl) isLookup (Option.some.inj same)
        · refine .pure ?_
          rintro e _ ⟨⟩

end FieldMapping

/-- The fields of a mapping: what the reports so far have in common, one more report has too. -/
theorem Mapping.runFields_answers {r : Resolver σ} (source : Value) (policy : RequiredPolicy)
    (fields : List FieldMapping) :
    (∀ f ∈ fields, r.Provides f.transformation) →
    ∀ (output : Value) (reports : List FieldReport), (∀ t ∈ reports, t.LookedUp) →
      Answers (fun a => ∀ x, a = .ok x → ∀ t ∈ x.2, t.LookedUp)
        (runFields r source policy fields output reports) := by
  induction fields with
  | nil =>
      intro _ output reports before
      refine .pure ?_
      rintro x ⟨⟩
      exact before
  | cons f fields ih =>
      intro there output reports before
      refine (FieldMapping.run_answers (there f (.head _)) source source).bind fun t known => ?_
      split
      · refine .pure ?_
        rintro x ⟨⟩
      · refine ih (fun g member => there g (.tail _ member)) _ _ fun t member => ?_
        rcases List.mem_append.mp member with old | new
        · exact before t old
        · exact List.mem_singleton.mp new ▸ known

/-- Nor does a mapping all of whose fields have their tables. -/
theorem Mapping.run_answers {r : Resolver σ} {m : Mapping}
    (there : ∀ f ∈ m.fields, r.Provides f.transformation) (source : Value)
    (policy : RequiredPolicy) :
    Answers (fun a => ∀ report, a = .ok report → ∀ t ∈ report.fields, t.LookedUp)
      (m.run r source policy) := by
  refine (runFields_answers source policy m.fields there .empty [] (by simp)).bind
    fun answer known => ?_
  rcases answer with path | ⟨output, reports⟩
  · refine .pure ?_
    rintro report ⟨⟩
  · refine .pure ?_
    rintro report ⟨⟩
    exact known _ rfl

end Interchange
