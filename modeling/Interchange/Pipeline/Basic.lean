import Interchange.Http.System
import Interchange.Mapping.Field
import Interchange.Pipeline.Route
import Interchange.Rule.Basic
/-!
# Pipelines

A pipeline is an ordered list of steps with the routes, mappings and rules that go with it.  What a
step is configured to do is read with the record, so that a step without what it needs is found
before anything is run; a step of a kind that is not known is kept and fails when it is run.

* `Step.read`, `Pipeline.read` — the records.
* `Pipeline.activeSteps`, `Pipeline.mappingsFor`, `Pipeline.activeRoutes` — the parts that count.
-/

namespace Interchange

/-- A value to be looked up and the place for what is found. -/
structure EnrichLookup where
  sourceField : String
  table : String
  targetField : String
deriving DecidableEq

namespace EnrichLookup

def read : Reader EnrichLookup :=
  Reader.record "EnrichLookup"
    [.required "sourceField" Reader.text,
     .required "tableKey" Reader.text,
     .required "targetField" Reader.text]
    fun (source, table, target, ()) => .ok ⟨source, table, target⟩

/-- The lookup as a record. -/
def toValue (l : EnrichLookup) : Value :=
  .obj [("sourceField", .str l.sourceField), ("tableKey", .str l.table),
    ("targetField", .str l.targetField)]

end EnrichLookup

/-- What a step does. -/
inductive StepKind
  /-- Nothing; the schema is noted. -/
  | validate (schema : Option String)
  | mapRequest
  | applyRules
  /-- Calls a system and keeps its reply. -/
  | callSystem (call : CallConfig)
  | mapResponse
  | applyResponseRules
  | enrich (lookups : List EnrichLookup)
  /-- Keeps a fixed reply. -/
  | mockResponse (response : Value)
  | unsupported (stepType : String)
deriving DecidableEq

/-- Why a step cannot do what it is configured to. -/
inductive StepFault
  | badCall (fault : RecordFault)
  | noSystem
  | badLookups (fault : RecordFault)

/-- The wording of a fault. -/
def StepFault.message : StepFault → String
  | .badCall fault => s!"invalid call_system config: {fault.message}"
  | .noSystem => "call_system requires a 'system' code"
  | .badLookups fault => s!"invalid enrich config: {fault.message}"

namespace StepKind

/-- The name of a schema: a text as it is, null for none, all else as JSON. -/
def schemaName? : Value → Option String
  | .str s => some s
  | .null => none
  | v => some v.render

/-- The call of a step. -/
def callOf (config : Value) : Except StepFault CallConfig :=
  match CallConfig.read (.ofValue config) with
  | .error fault => .error (.badCall fault)
  | .ok call => if Text.isBlankText call.system then .error .noSystem else .ok call

/-- The lookups of a step, which may be the whole configuration or a member of it. -/
def lookupsOf (config : Value) : Except StepFault (List EnrichLookup) :=
  let written :=
    match config with
    | .list items => .list items
    | v => (v.member? "lookups").getD (.list [])
  (Reader.list EnrichLookup.read (.ofValue written)).mapError .badLookups

/-- What a step of some type does; case and surrounding blanks of the type do not matter. -/
def ofConfig (stepType : String) (config : Value) : Except StepFault StepKind :=
  match Text.asciiLower (Text.trim stepType) with
  | "validate" =>
    .ok (validate (((config.member? "schema").or (config.member? "schemaId")).bind schemaName?))
  | "map_request" | "transform" => .ok mapRequest
  | "apply_rules" | "execute_rules" => .ok applyRules
  | "call_system" => (callOf config).map callSystem
  | "map_response" | "transform_response" => .ok mapResponse
  | "apply_response_rules" => .ok applyResponseRules
  | "enrich" => (lookupsOf config).map enrich
  | "mock_response" => .ok (mockResponse ((config.member? "response").getD config))
  | other => .ok (unsupported other)

/-- The name of the type of a step. -/
def name : StepKind → String
  | validate _ => "validate"
  | mapRequest => "map_request"
  | applyRules => "apply_rules"
  | callSystem _ => "call_system"
  | mapResponse => "map_response"
  | applyResponseRules => "apply_response_rules"
  | enrich _ => "enrich"
  | mockResponse _ => "mock_response"
  | unsupported stepType => stepType

end StepKind

/-- One stage of a pipeline. -/
structure Step where
  order : Int32
  name : String
  kind : StepKind
  isActive : Bool
deriving DecidableEq

namespace Step

/-- A step, named after its type unless it has a name. -/
def ofKind (order : Int32) (kind : StepKind) (name : Option String) (active : Bool) : Step :=
  ⟨order, name.getD kind.name, kind, active⟩

/-- How the fault of a step is reported with its place. -/
def faultMessage (order : Int32) (stepType : String) (fault : StepFault) : String :=
  s!"step {order.toInt} ({stepType}): {fault.message}"

def read : Reader Step :=
  Reader.record "RawPipelineStep"
    [.default "stepOrder" Reader.int32 0,
     .required "stepType" Reader.text ["type"],
     .default "name" (Reader.option Reader.text) none,
     .default "config" Reader.value .null,
     .default "isActive" Reader.bool true]
    fun (order, stepType, name, config, active, ()) =>
      match StepKind.ofConfig stepType config with
      | .ok kind => .ok (ofKind order kind name active)
      | .error fault => .error (.rejected (faultMessage order stepType fault))

end Step

/-- Steps in order, with the routes, mappings and rules that go with them. -/
structure Pipeline where
  id : String
  name : String
  description : Option String
  isActive : Bool
  steps : List Step
  routes : List RoutingRule
  mappings : List Mapping
  rules : List Rule

namespace Pipeline

/-- An active pipeline without steps. -/
def named (id : String) : Pipeline := ⟨id, id, none, true, [], [], [], []⟩

def read : Reader Pipeline :=
  Reader.record "Pipeline"
    [.required "id" Reader.text,
     .default "name" Reader.text "",
     .default "description" (Reader.option Reader.text) none,
     .default "isActive" Reader.bool true,
     .default "steps" (Reader.list Step.read) [],
     .default "routingRules" (Reader.list RoutingRule.read) [],
     .default "mappings" (Reader.list Mapping.read) [],
     .default "rules" (Reader.list Rule.read) []]
    fun (id, name, description, active, steps, routes, mappings, rules, ()) =>
      .ok ⟨id, name, description, active, steps, routes, mappings, rules⟩

/-- The active steps by ascending order, those of one order as they are listed. -/
def activeSteps (p : Pipeline) : List Step :=
  (p.steps.filter Step.isActive).mergeSort fun a b => a.order ≤ b.order

/-- The active mappings of one direction. -/
def mappingsFor (p : Pipeline) (d : Direction) : List Mapping :=
  p.mappings.filter fun m => m.isActive && m.direction = d

/-- The active routes. -/
def activeRoutes (p : Pipeline) : List RoutingRule := p.routes.filter RoutingRule.isActive

end Pipeline

end Interchange
