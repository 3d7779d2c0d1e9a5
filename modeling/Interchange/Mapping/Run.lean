import Interchange.Mapping.Field
import Interchange.Panic
/-!
# Running a mapping

The fields of a mapping are run in order against one source document, and what they produce is
written into a fresh object.  A required field without a value either stops the mapping or is
reported like any other error.

* `Mapping.run`, `Mapping.tryRun` — the report on a mapping, or the path of the field that stopped
  it.
-/

namespace Interchange

/-- What is done about a required field that has neither a value nor a default. -/
inductive RequiredPolicy
  | abort
  | continue
deriving DecidableEq

/-- The report on a mapping. -/
structure MappingReport where
  mappingId : String
  output : Value
  fields : List FieldReport

namespace MappingReport

/-- The number of fields that ended in a way. -/
def countOf (r : MappingReport) (s : FieldStatus) : Nat :=
  (r.fields.filter fun f => f.status = s).length

/-- The report as a record. -/
def toValue (r : MappingReport) : Value :=
  .obj
    [("mappingId", .str r.mappingId), ("output", r.output),
     ("fields", .list (r.fields.map FieldReport.toValue)),
     ("successCount", .count (r.countOf .success)), ("defaultCount", .count (r.countOf .default)),
     ("skippedCount", .count (r.countOf .skipped)), ("errorCount", .count (r.countOf .error)),
     ("durationMs", .count 0)]

end MappingReport

/-- Writes what a field produced. -/
def FieldReport.writeTo (r : FieldReport) (output : Value) : Value :=
  if r.producedOutput then
    match r.output with
    | some v => output.write r.targetPath v
    | none => output
  else output

/-- Writes what a field produced, with the access to each item checked. -/
def FieldReport.tryWriteTo (r : FieldReport) (output : Value) : Except Panic Value :=
  if r.producedOutput then
    match r.output with
    | some v => output.checkedWrite r.targetPath v
    | none => .ok output
  else .ok output

namespace Mapping

/-- Runs fields in order after some were run; `reports` holds the earlier reports. -/
def runFields {σ : Type} (resolver : Resolver σ) (source : Value) (policy : RequiredPolicy) :
    List FieldMapping → (output : Value) → (reports : List FieldReport) →
      StateM σ (Except String (Value × List FieldReport))
  | [], output, reports => return .ok (output, reports)
  | f :: fs, output, reports => do
    let r ← f.run resolver source source
    if r.fatal && policy = .abort then return .error f.sourcePath
    else runFields resolver source policy fs (r.writeTo output) (reports ++ [r])

/-- Runs a mapping.  The error is the path of a required field that has no value. -/
def run {σ : Type} (resolver : Resolver σ) (m : Mapping) (source : Value)
    (policy : RequiredPolicy) : StateM σ (Except String MappingReport) := do
  match ← runFields resolver source policy m.fields .empty [] with
  | .ok (output, reports) => return .ok ⟨m.id, output, reports⟩
  | .error path => return .error path

/-- Runs fields in order after some were run, with the access to each item checked. -/
def tryRunFields {σ : Type} (resolver : Resolver σ) (source : Value) (policy : RequiredPolicy) :
    List FieldMapping → (output : Value) → (reports : List FieldReport) →
      Checked σ (Except String (Value × List FieldReport))
  | [], output, reports => return .ok (output, reports)
  | f :: fs, output, reports => do
    let r ← f.run resolver source source
    if r.fatal && policy = .abort then return .error f.sourcePath
    else tryRunFields resolver source policy fs (← r.tryWriteTo output) (reports ++ [r])

/-- Runs a mapping, with the access to each item checked. -/
def tryRun {σ : Type} (resolver : Resolver σ) (m : Mapping) (source : Value)
    (policy : RequiredPolicy) : Checked σ (Except String MappingReport) := do
  match ← tryRunFields resolver source policy m.fields .empty [] with
  | .ok (output, reports) => return .ok ⟨m.id, output, reports⟩
  | .error path => return .error path

end Mapping

end Interchange
