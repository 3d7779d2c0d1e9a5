import Interchange.Pipeline.Run
import Interchange.Record.Text
import Interchange.Text.FileName
/-!
# Bundles

A bundle holds everything that runs need: pipelines, systems by their codes, lookup tables, and
mappings of their own.  No two pipelines have one id and no two systems one code.

* `BundleDocument.read`, `Bundle.ofDocument`, `Bundle.ofJson`, `Bundle.ofYaml`, `Bundle.ofFile` —
  reading a bundle.
* `Bundle.services` — the services of a bundle.
* `Bundle.diagnostics` — references to what is not there.
-/

namespace Interchange

/-- A bundle as it is written. -/
structure BundleDocument where
  pipelines : List Pipeline
  systems : List ExternalSystem
  tables : Tables
  mappings : List Mapping

def BundleDocument.read : Reader BundleDocument :=
  Reader.record "BundleDocument"
    [.default "pipelines" (Reader.list Pipeline.read) [],
     .default "systems" (Reader.list ExternalSystem.read) [],
     .default "lookups" (Reader.table (Reader.table Reader.value)) [],
     .default "mappings" (Reader.list Mapping.read) []]
    fun (pipelines, systems, tables, mappings, ()) => .ok ⟨pipelines, systems, tables, mappings⟩

/-- Everything that runs need. -/
structure Bundle where
  pipelines : List Pipeline
  /-- The systems by their codes. -/
  systems : List (String × ExternalSystem)
  tables : Tables
  mappings : List Mapping

namespace Bundle

/-- The first text that stands in a list for a second time. -/
def firstRepeated? (seen : List String) : List String → Option String
  | [] => none
  | s :: ss => if seen.contains s then some s else firstRepeated? (s :: seen) ss

/-- The bundle of a document, unless an id or a code is taken twice. -/
def ofDocument (d : BundleDocument) : Except SetupFault Bundle :=
  match firstRepeated? [] (d.pipelines.map Pipeline.id) with
  | some id => .error (.duplicatePipeline id)
  | none =>
    match firstRepeated? [] (d.systems.map ExternalSystem.code) with
    | some code => .error (.duplicateSystem code)
    | none => .ok ⟨d.pipelines, Table.ofList (d.systems.map fun s => (s.code, s)), d.tables,
        d.mappings⟩

/-- The bundle that a document describes, if it was read. -/
def ofReading (r : Except RecordFault BundleDocument) : Except SetupFault Bundle :=
  match r with
  | .ok d => ofDocument d
  | .error fault => .error (.unreadableBundle fault)

/-- Reads a bundle off a JSON text. -/
def ofJson (text : String) : Except SetupFault Bundle :=
  ofReading (BundleDocument.read.ofJson text)

/-- Reads a bundle off a YAML text. -/
def ofYaml (text : String) : Except SetupFault Bundle :=
  ofReading (BundleDocument.read.ofYaml text)

/-- Reads a bundle off the text of a file, whose format its extension tells. -/
def ofFile (path text : String) : Except SetupFault Bundle :=
  let extension := Text.asciiLower ((FileName.extension? path).getD "")
  if extension = "json" then ofJson text
  else if extension ∈ ["yaml", "yml"] then ofYaml text
  else .error (.unknownBundleFormat extension path)

/-- The pipeline with an id. -/
def pipeline? (b : Bundle) (id : String) : Option Pipeline := b.pipelines.find? fun p => p.id = id

/-- The system with a code. -/
def system? (b : Bundle) (code : String) : Option ExternalSystem := Table.get? code b.systems

/-- All mappings: those of the bundle itself, then those of its pipelines. -/
def allMappings (b : Bundle) : List Mapping := b.mappings ++ b.pipelines.flatMap Pipeline.mappings

/-- The first mapping with an id. -/
def mapping? (b : Bundle) (id : String) : Option Mapping := b.allMappings.find? fun m => m.id = id

/-- The services of a bundle, with a transport. -/
def services {σ : Type} (b : Bundle) (send : Transport σ) (settings : CallSettings)
    (env : Environment) : Services σ where
  pipeline id := return .ok (b.pipeline? id)
  catalog := return .ok b.pipelines
  system code := return .ok (b.system? code)
  lookup := b.tables.resolver
  send := send
  settings := settings
  environment := env

/-- What is wrong with the references of a step. -/
def stepIssues (b : Bundle) (p : Pipeline) (s : Step) : List String :=
  let place := s!"pipeline '{p.id}' step {s.order.toInt}"
  match s.kind with
  | .callSystem c =>
    if (b.system? c.system).isSome then [] else [s!"{place} calls unregistered system '{c.system}'"]
  | .enrich lookups =>
    (lookups.filter fun l => !b.tables.has l.table).map fun l =>
      s!"{place} enriches from unknown table '{l.table}'"
  | .unsupported stepType => [s!"{place} has unknown type '{stepType}'"]
  | _ => []

/-- What is wrong with a pipeline. -/
def pipelineIssues (b : Bundle) (p : Pipeline) : List String :=
  (if p.activeSteps.isEmpty then [s!"pipeline '{p.id}' has no active steps"] else []) ++
    p.steps.flatMap (b.stepIssues p)

/-- What is wrong with the references of a mapping. -/
def mappingIssues (b : Bundle) (m : Mapping) : List String :=
  m.fields.filterMap fun f =>
    match f.transformation with
    | .lookup table _ =>
      if b.tables.has table then none
      else some s!"mapping '{m.id}' field '{f.sourcePath}' looks up unknown table '{table}'"
    | _ => none

/-- What is wrong with a bundle that can be used all the same. -/
def diagnostics (b : Bundle) : List String :=
  b.pipelines.flatMap b.pipelineIssues ++ b.allMappings.flatMap b.mappingIssues

end Bundle

end Interchange
