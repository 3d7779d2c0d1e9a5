import Interchange.Bundle.Basic
import Interchange.Cli.CommandLine
import Interchange.Masking
import Interchange.Value.Text
import Interchange.Yaml.Writer
/-!
# Printed results

Results are printed as JSON, as YAML, or as a report for people, in which rows of words stand in
columns.

* `renderTable` — words in columns.
* `OutputFormat.render`, `OutputFormat.renderRun`, `OutputFormat.renderMapping` — results in a
  format.
* `Bundle.overview` — what a bundle holds.
-/

namespace Interchange.Cli

/-! ### Tables -/

/-- The width that each column needs. -/
def columnWidths (rows : List (List String)) (header : List String) : List Nat :=
  rows.foldl (fun widths row => widths.zipWith max (row.map String.length))
    (header.map String.length)

/-- A word with blanks up to a width. -/
def padTo (width : Nat) (s : String) : String :=
  s ++ String.ofList (List.replicate (width - s.length) ' ')

/-- The words of a row in their columns, without blanks at the end. -/
def renderRow (widths : List Nat) (row : List String) : String :=
  String.ofList
    (Text.dropEndWhile Text.isBlank (Text.join " │ " (widths.zipWith padTo row)).toList)

/-- The line below the header. -/
def rule (widths : List Nat) : String :=
  Text.join "─┼─" (widths.map fun w => String.ofList (List.replicate w '─'))

/-- The lines of a table. -/
def tableLines (header : List String) (rows : List (List String)) : List String :=
  let widths := columnWidths rows header
  renderRow widths header :: rule widths :: rows.map (renderRow widths)

/-- A table, each of its lines ended. -/
def renderTable (header : List String) (rows : List (List String)) : String :=
  String.join ((tableLines header rows).map (· ++ "\n"))

/-! ### Runs and mappings -/

/-- The sign for success or failure. -/
def statusMark (success : Bool) : String := if success then "✓" else "✗"

/-- A value at the end of a report. -/
def outputPart (v : Value) : String := s!"\nOutput:\n{v.pretty}\n"

/-- The line on a step. -/
def stepLine (s : StepReport) : String :=
  s!"  {statusMark s.succeeded} [{s.order.toInt}] {s.name} ({s.stepType}) 0ms" ++
    (s.error.elim "" fun e => s!": {e}") ++ "\n"

/-- The report on a run for people.  The steps of a run that failed are always shown. -/
def describeRun (r : RunReport) (steps : Bool) : String :=
  let outcome := if r.success then "success" else "failed"
  "═══ Pipeline Result ═══\n" ++
    s!"Pipeline: {r.pipelineId}\n" ++
    s!"Status: {statusMark r.success} {outcome}\n" ++
    "Duration: 0ms\n" ++
    s!"Steps run: {r.steps.length}\n" ++
    (if steps || !r.success then "\nSteps:\n" ++ String.join (r.steps.map stepLine) else "") ++
    (r.failure.elim "" fun f => s!"\nError [{f.family.name}] {f.message}\n") ++
    outputPart r.output

/-- The row on a field. -/
def fieldRow (f : FieldReport) : List String :=
  [f.sourcePath, f.targetPath, f.kind, f.status.name, f.error.getD ""]

/-- The line on a field that failed. -/
def failedFieldLine (f : FieldReport) : String :=
  let reason := f.error.getD "failed"
  s!"  {statusMark false} {f.sourcePath} → {f.targetPath}: {reason}\n"

/-- The fields of a mapping: all of them in a table, or those that failed in a list. -/
def fieldPart (r : MappingReport) (fields : Bool) : String :=
  let failed := r.fields.filter fun f => f.status = .error
  if fields then
    "\n" ++ renderTable ["Source", "Target", "Transformation", "Status", "Error"]
      (r.fields.map fieldRow)
  else if failed.isEmpty then ""
  else "\nErrors:\n" ++ String.join (failed.map failedFieldLine)

/-- The report on a mapping for people. -/
def describeMapping (r : MappingReport) (fields : Bool) : String :=
  "═══ Mapping Result ═══\n" ++
    s!"Mapping: {r.mappingId}\n" ++
    s!"Fields: {r.countOf .success} success, {r.countOf .default} default, " ++
    s!"{r.countOf .skipped} skipped, {r.countOf .error} error\n" ++
    "Duration: 0ms\n" ++
    fieldPart r fields ++
    outputPart r.output

/-- A text that ends a line. -/
def endLine (s : String) : String := if Text.endsWith s "\n" then s else s ++ "\n"

namespace OutputFormat

/-- A value in a format, up to the end of its last line. -/
def render (format : OutputFormat) (v : Value) : String :=
  endLine <|
    match format with
    | .json => v.render
    | .jsonPretty | .human => v.pretty
    | .yaml => v.yaml

/-- The report on a run in a format. -/
def renderRun (format : OutputFormat) (r : RunReport) (steps : Bool) : String :=
  if format = .human then describeRun r steps else format.render r.toValue

/-- The report on a mapping in a format. -/
def renderMapping (format : OutputFormat) (r : MappingReport) (fields : Bool) : String :=
  if format = .human then describeMapping r fields else format.render r.toValue

end OutputFormat

/-! ### Routes -/

/-- A route with its place among the routes of its pipeline, and how well it fits. -/
structure Candidate where
  pipelineId : String
  place : Nat
  score : Option Int32
deriving DecidableEq

namespace Candidate

/-- The active routes of the active pipelines. -/
def all (ps : List Pipeline) (q : RouteRequest) : List Candidate :=
  (ps.filter Pipeline.isActive).flatMap fun p =>
    p.activeRoutes.zipIdx.map fun (r, i) => ⟨p.id, i + 1, r.score q⟩

def toValue (c : Candidate) : Value :=
  .ofMembers
    [("pipelineId", .str c.pipelineId), ("rule", .count c.place),
     ("score", .ofOption (c.score.map fun s => .ofInt s.toInt))]

def row (c : Candidate) : List String :=
  [c.pipelineId, toString c.place, c.score.elim "no match" fun s => toString s.toInt]

end Candidate

/-- What is told about a request: the pipeline it goes to, and perhaps the candidates. -/
def routeOverview (q : RouteRequest) (selected : Option Selection) (candidates : List Candidate) :
    Value :=
  .ofMembers <|
    [("request", .ofMembers
        [("productLine", .ofText q.productLine), ("sourceSystem", .ofText q.sourceSystem),
         ("transactionType", .ofText q.transactionType)]),
     ("selected", .ofOption (selected.map Selection.toValue))] ++
    if candidates.isEmpty then [] else [("candidates", .list (candidates.map Candidate.toValue))]

/-! ### Bundles -/

/-- A truth value as a word. -/
def yesNo (b : Bool) : String := if b then "yes" else "no"

/-- The steps of a pipeline, each with its place. -/
def stepLabels (p : Pipeline) : List String :=
  p.activeSteps.map fun s => s!"{s.order.toInt}:{s.kind.name}"

def pipelineRow (p : Pipeline) : List String :=
  [p.id, yesNo p.isActive, Text.join ", " (stepLabels p), toString p.activeRoutes.length,
   toString p.mappings.length, toString p.rules.length]

def systemRow (s : ExternalSystem) : List String :=
  [s.code, s.format.name, s.baseUrl, yesNo s.isActive]

end Interchange.Cli

namespace Interchange.Bundle

open Interchange.Cli

/-- The lookup tables with their sizes. -/
def tableSizes (b : Bundle) : List (String × Nat) := b.tables.map fun t => (t.1, t.2.length)

/-- What a bundle holds, and what is wrong with it. -/
def overview (b : Bundle) : Value :=
  .ofMembers
    [("pipelines", .list (b.pipelines.map fun p =>
        .ofMembers
          [("id", .str p.id), ("name", .str p.name), ("active", .bool p.isActive),
           ("steps", .list ((stepLabels p).map .str)), ("routes", .count p.activeRoutes.length),
           ("mappings", .count p.mappings.length), ("rules", .count p.rules.length)])),
     ("systems", .list (b.systems.map fun s =>
        .ofMembers
          [("code", .str s.2.code), ("format", .str s.2.format.name),
           ("baseUrl", .str s.2.baseUrl), ("active", .bool s.2.isActive)])),
     ("lookupTables", .list (b.tableSizes.map fun t =>
        .ofMembers [("name", .str t.1), ("entries", .count t.2)])),
     ("mappings", .list (b.allMappings.map fun m => .str m.id)),
     ("diagnostics", .list (b.diagnostics.map .str))]

end Interchange.Bundle
