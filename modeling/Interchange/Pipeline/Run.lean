import Interchange.Http.Invoke
import Interchange.Mapping.Run
import Interchange.Pipeline.Report
import Interchange.Pipeline.Selection
import Interchange.Rule.Run
/-!
# Running pipelines

A run threads one document, the context, through the active steps of a pipeline.  The first step
that fails ends it: the context stays as it was before that step, and what earlier steps did stays
done.  The last reply of a system stands in the context under `response`.

Everything outside of a pipeline is reached through `Services`, whose answers may depend on a state
of their own.

* `Services` — pipelines, systems, lookup tables and the transport.
* `Services.runStep` — one step: the new context, and what there is to tell.
* `Services.runPipeline`, `Services.execute`, `Services.executeRouted` — runs.
* `Services.tryExecute`, `Services.tryExecuteRouted` — runs with every access and sum checked.
-/

namespace Interchange

/-- What runs need of the world. -/
structure Services (σ : Type) where
  /-- The pipeline with an id. -/
  pipeline : String → StateM σ (Except Error (Option Pipeline))
  /-- All pipelines. -/
  catalog : StateM σ (Except Error (List Pipeline))
  /-- The system with a code. -/
  system : String → StateM σ (Except Error (Option ExternalSystem))
  lookup : Resolver σ
  send : Transport σ
  settings : CallSettings
  environment : Environment

/-- The context after a step, and what there is to tell about it. -/
structure Progress where
  context : Value
  details : Value
deriving DecidableEq

/-- The last reply in a context, or null. -/
def responseOf (context : Value) : Value := .ofOption (context.get? [responseKey])

/-- The context with another reply. -/
def withResponse (context response : Value) : Value := context.set [responseKey] response

/-- The object into which the output of a mapping is merged. -/
def asObject (context : Value) : Value := if context.isObject then context else .empty

namespace MappingReport

/-- The counts of a report. -/
def summary (r : MappingReport) : Value :=
  .ofMembers
    [("mappingId", .str r.mappingId), ("successCount", .count (r.countOf .success)),
     ("defaultCount", .count (r.countOf .default)), ("skippedCount", .count (r.countOf .skipped)),
     ("errorCount", .count (r.countOf .error))]

end MappingReport

/-- What is told about a mapping without fields. -/
def Mapping.emptySummary (m : Mapping) : Value :=
  .ofMembers [("mappingId", .str m.id), ("skipped", .str "no field mappings")]

/-- The counts of a report on rules. -/
def RuleReport.summary (r : RuleReport) : Value :=
  .ofMembers
    [("evaluated", .count r.evaluated),
     ("appliedRules", .list (r.applied.map AppliedRule.toValue)),
     ("failures", .list (r.failures.map RuleFailure.toValue))]

/-- What enriching a context has come to. -/
structure EnrichNotes where
  enriched : List String
  skipped : List String
  misses : List (String × String)
deriving DecidableEq

/-- The notes as a record. -/
def EnrichNotes.toValue (n : EnrichNotes) : Value :=
  .ofMembers
    [("enriched", .list (n.enriched.map .str)), ("skipped", .list (n.skipped.map .str)),
     ("misses", .list (n.misses.map fun m =>
       .ofMembers [("table", .str m.1), ("key", .str m.2)]))]

namespace Services

variable {σ : Type}

/-- Runs mappings in order, each on the part of the context that `source` picks, and merges what
they produce into the context. -/
def runMappings (s : Services σ) (source : Value → Value) :
    List Mapping → (context : Value) → (told : List Value) →
      StateM σ (Except Error (Value × List Value))
  | [], context, told => return .ok (context, told)
  | m :: ms, context, told => do
    if m.fields.isEmpty then s.runMappings source ms context (told ++ [m.emptySummary])
    else
      match ← m.run s.lookup (source context) .abort with
      | .error path => return .error (.requiredField path)
      | .ok r =>
        s.runMappings source ms ((asObject context).merge r.output) (told ++ [r.summary])

/-- Runs the mappings of one direction. -/
def map (s : Services σ) (p : Pipeline) (d : Direction) (source : Value → Value)
    (context : Value) : StateM σ (Except Error Progress) := do
  match ← s.runMappings source (p.mappingsFor d) context [] with
  | .ok (context, told) => return .ok ⟨context, .ofMembers [("mappings", .list told)]⟩
  | .error e => return .error e

/-- Looks values up in order and writes what is found into the context. -/
def enrich (s : Services σ) :
    List EnrichLookup → (context : Value) → EnrichNotes →
      StateM σ (Except Error (Value × EnrichNotes))
  | [], context, notes => return .ok (context, notes)
  | l :: ls, context, notes => do
    match context.present? l.sourceField with
    | none => s.enrich ls context { notes with skipped := notes.skipped ++ [l.sourceField] }
    | some v =>
      match ← s.lookup l.table v.toText with
      | .error fault => return .error (.lookup fault)
      | .ok (some found) =>
        s.enrich ls (context.write l.targetField found)
          { notes with enriched := notes.enriched ++ [l.targetField] }
      | .ok none =>
        s.enrich ls context { notes with misses := notes.misses ++ [(l.table, v.toText)] }

/-- What is told about a call. -/
def callDetails (system : ExternalSystem) (i : Invocation) : Value :=
  .ofMembers
    [("system", .str system.code), ("format", .str system.format.name), ("url", .str i.url),
     ("status", .count i.status), ("durationMs", .count 0)]

/-- Calls a system and keeps its reply. -/
def call (s : Services σ) (c : CallConfig) (context : Value) :
    StateM σ (Except Error Progress) := do
  match ← s.system c.system with
  | .error e => return .error e
  | .ok none => return .error (.unknownSystem c.system)
  | .ok (some system) =>
    match ← system.invoke s.send s.settings s.environment c context with
    | .error e => return .error e
    | .ok i => return .ok ⟨withResponse context i.response, callDetails system i⟩

/-- Runs one step. -/
def runStep (s : Services σ) (p : Pipeline) (step : Step) (context : Value) :
    StateM σ (Except Error Progress) := do
  match step.kind with
  | .validate schema =>
    return .ok ⟨context, .ofMembers [("schema", .ofText schema), ("enforced", .bool false)]⟩
  | .mapRequest => s.map p .request (fun context => context) context
  | .applyRules =>
    let r := Rule.runAll p.rules context .request
    return .ok ⟨r.data, r.summary⟩
  | .callSystem c => s.call c context
  | .mapResponse => s.map p .response responseOf context
  | .applyResponseRules =>
    let r := Rule.runAll p.rules (responseOf context) .response
    return .ok ⟨withResponse context r.data, r.summary⟩
  | .enrich lookups =>
    match ← s.enrich lookups context ⟨[], [], []⟩ with
    | .ok (context, notes) => return .ok ⟨context, notes.toValue⟩
    | .error e => return .error e
  | .mockResponse response =>
    return .ok ⟨withResponse context response, .ofMembers [("mocked", .bool true)]⟩
  | .unsupported stepType => return .error (.setup (.unknownStepType stepType))

/-- How the failure of a step is reported for the whole run. -/
def stepFailure (step : Step) (e : Error) : RunFailure :=
  ⟨s!"Step {step.order.toInt} '{step.name}' ({step.kind.name}) failed: {e.message}", e.family⟩

/-- Runs steps after others; `told` holds the earlier reports. -/
def runSteps (s : Services σ) (p : Pipeline) (input : Value) :
    List Step → (context : Value) → (told : List StepReport) → StateM σ RunReport
  | [], context, told => return ⟨p.id, input, context, told, none⟩
  | step :: steps, context, told => do
    match ← s.runStep p step context with
    | .ok progress =>
      s.runSteps p input steps progress.context (told ++ [.success step progress.details])
    | .error e =>
      return ⟨p.id, input, context, told ++ [.failure step e.message], some (stepFailure step e)⟩

/-- Runs the active steps of a pipeline. -/
def runPipeline (s : Services σ) (p : Pipeline) (input : Value) : StateM σ RunReport :=
  s.runSteps p input p.activeSteps input []

/-- Runs the active pipeline with an id. -/
def execute (s : Services σ) (id : String) (input : Value) :
    StateM σ (Except Error RunReport) := do
  match ← s.pipeline id with
  | .error e => return .error e
  | .ok none => return .error (.unknownPipeline id)
  | .ok (some p) =>
    if p.isActive then return .ok (← s.runPipeline p input)
    else return .error (.inactivePipeline id)

/-- Chooses a pipeline. -/
def route (s : Services σ) (q : RouteRequest) : StateM σ (Except Error (Option Selection)) := do
  match ← s.catalog with
  | .error e => return .error e
  | .ok ps => return .ok (Selection.best? ps q)

/-- Chooses a pipeline and runs it. -/
def executeRouted (s : Services σ) (q : RouteRequest) (input : Value) :
    StateM σ (Except Error RunReport) := do
  match ← s.route q with
  | .error e => return .error e
  | .ok none => return .error (.unrouted q)
  | .ok (some selected) => s.execute selected.pipelineId input

/-! ### Checked runs -/

/-- Runs mappings in order, with the access to each item checked. -/
def tryRunMappings (s : Services σ) (source : Value → Value) :
    List Mapping → (context : Value) → (told : List Value) →
      Checked σ (Except Error (Value × List Value))
  | [], context, told => return .ok (context, told)
  | m :: ms, context, told => do
    if m.fields.isEmpty then s.tryRunMappings source ms context (told ++ [m.emptySummary])
    else
      match ← m.tryRun s.lookup (source context) .abort with
      | .error path => return .error (.requiredField path)
      | .ok r =>
        s.tryRunMappings source ms ((asObject context).merge r.output) (told ++ [r.summary])

/-- Runs the mappings of one direction, with the access to each item checked. -/
def tryMap (s : Services σ) (p : Pipeline) (d : Direction) (source : Value → Value)
    (context : Value) : Checked σ (Except Error Progress) := do
  match ← s.tryRunMappings source (p.mappingsFor d) context [] with
  | .ok (context, told) => return .ok ⟨context, .ofMembers [("mappings", .list told)]⟩
  | .error e => return .error e

/-- Looks values up in order and writes what is found, with the access to each item checked. -/
def tryEnrich (s : Services σ) :
    List EnrichLookup → (context : Value) → EnrichNotes →
      Checked σ (Except Error (Value × EnrichNotes))
  | [], context, notes => return .ok (context, notes)
  | l :: ls, context, notes => do
    match context.present? l.sourceField with
    | none => s.tryEnrich ls context { notes with skipped := notes.skipped ++ [l.sourceField] }
    | some v =>
      match ← s.lookup l.table v.toText with
      | .error fault => return .error (.lookup fault)
      | .ok (some found) =>
        s.tryEnrich ls (← context.checkedWrite l.targetField found)
          { notes with enriched := notes.enriched ++ [l.targetField] }
      | .ok none =>
        s.tryEnrich ls context { notes with misses := notes.misses ++ [(l.table, v.toText)] }

/-- Runs one step, with the access to each item checked.  The reply is a member of the context, so
that it can be written always, and steps that write nothing else are run as they are. -/
def tryRunStep (s : Services σ) (p : Pipeline) (step : Step) (context : Value) :
    Checked σ (Except Error Progress) := do
  match step.kind with
  | .mapRequest => s.tryMap p .request (fun context => context) context
  | .applyRules =>
    let r ← Rule.tryRunAll p.rules context .request
    return .ok ⟨r.data, r.summary⟩
  | .mapResponse => s.tryMap p .response responseOf context
  | .applyResponseRules =>
    let r ← Rule.tryRunAll p.rules (responseOf context) .response
    return .ok ⟨withResponse context r.data, r.summary⟩
  | .enrich lookups =>
    match ← s.tryEnrich lookups context ⟨[], [], []⟩ with
    | .ok (context, notes) => return .ok ⟨context, notes.toValue⟩
    | .error e => return .error e
  | .validate _ | .callSystem _ | .mockResponse _ | .unsupported _ => s.runStep p step context

/-- Runs steps after others, with the access to each item checked. -/
def tryRunSteps (s : Services σ) (p : Pipeline) (input : Value) :
    List Step → (context : Value) → (told : List StepReport) → Checked σ RunReport
  | [], context, told => return ⟨p.id, input, context, told, none⟩
  | step :: steps, context, told => do
    match ← s.tryRunStep p step context with
    | .ok progress =>
      s.tryRunSteps p input steps progress.context (told ++ [.success step progress.details])
    | .error e =>
      return ⟨p.id, input, context, told ++ [.failure step e.message], some (stepFailure step e)⟩

/-- Runs the active steps of a pipeline, with the access to each item checked. -/
def tryRunPipeline (s : Services σ) (p : Pipeline) (input : Value) : Checked σ RunReport :=
  s.tryRunSteps p input p.activeSteps input []

/-- Runs the active pipeline with an id, with the access to each item checked. -/
def tryExecute (s : Services σ) (id : String) (input : Value) :
    Checked σ (Except Error RunReport) := do
  match ← s.pipeline id with
  | .error e => return .error e
  | .ok none => return .error (.unknownPipeline id)
  | .ok (some p) =>
    if p.isActive then return .ok (← s.tryRunPipeline p input)
    else return .error (.inactivePipeline id)

/-- Chooses a pipeline, with each sum checked. -/
def tryRoute (s : Services σ) (q : RouteRequest) :
    Checked σ (Except Error (Option Selection)) := do
  match ← s.catalog with
  | .error e => return .error e
  | .ok ps => return .ok (← Selection.tryBest? ps q)

/-- Chooses a pipeline and runs it, with every access and sum checked. -/
def tryExecuteRouted (s : Services σ) (q : RouteRequest) (input : Value) :
    Checked σ (Except Error RunReport) := do
  match ← s.tryRoute q with
  | .error e => return .error e
  | .ok none => return .error (.unrouted q)
  | .ok (some selected) => s.tryExecute selected.pipelineId input

end Services

end Interchange
