import Interchange.Error
import Interchange.Pipeline.Basic
/-!
# Reports on runs

What is told about a run: one entry for each step that was run, and the document it left behind.

* `StepReport`, `RunReport` — the reports, with their written forms.
-/

namespace Interchange

/-- The report on one step. -/
structure StepReport where
  order : Int32
  name : String
  stepType : String
  /-- Why the step failed, if it did. -/
  error : Option String
  /-- What else there is to tell; null for nothing. -/
  details : Value
deriving DecidableEq

namespace StepReport

/-- The report on a step that did what it should. -/
def success (s : Step) (details : Value) : StepReport :=
  ⟨s.order, s.name, s.kind.name, none, details⟩

/-- The report on a step that failed. -/
def failure (s : Step) (message : String) : StepReport :=
  ⟨s.order, s.name, s.kind.name, some message, .null⟩

def succeeded (r : StepReport) : Bool := r.error.isNone

/-- The word for how the step ended. -/
def status (r : StepReport) : String := if r.succeeded then "success" else "failed"

/-- The report as a record. -/
def toValue (r : StepReport) : Value :=
  .obj <|
    [("stepOrder", .ofInt r.order.toInt), ("name", .str r.name), ("stepType", .str r.stepType),
     ("status", .str r.status), ("durationMs", .count 0)] ++
    FieldReport.optionalMember "error" (r.error.map .str) ++
    if r.details.isNull then [] else [("details", r.details)]

end StepReport

/-- Why a run stopped. -/
structure RunFailure where
  message : String
  family : ErrorFamily
deriving DecidableEq

/-- The report on a run. -/
structure RunReport where
  pipelineId : String
  input : Value
  output : Value
  steps : List StepReport
  failure : Option RunFailure
deriving DecidableEq

namespace RunReport

def success (r : RunReport) : Bool := r.failure.isNone

/-- The step that stopped the run. -/
def failedStep? (r : RunReport) : Option StepReport := r.steps.find? fun s => !s.succeeded

/-- How many steps did what they should. -/
def successfulSteps (r : RunReport) : Nat := (r.steps.filter StepReport.succeeded).length

/-- The report as a record. -/
def toValue (r : RunReport) : Value :=
  .obj <|
    [("success", .bool r.success), ("pipelineId", .str r.pipelineId), ("input", r.input),
     ("output", r.output), ("steps", .list (r.steps.map StepReport.toValue)),
     ("durationMs", .count 0)] ++
    FieldReport.optionalMember "error" (r.failure.map fun f => .str f.message) ++
    FieldReport.optionalMember "errorCategory" (r.failure.map fun f => .str f.family.name)

end RunReport

end Interchange
