import Interchange.Cache.Services
import Interchange.Cli.Report
import Interchange.Cli.Settings
/-!
# Commands

What each command does: it loads the bundle, reads its input, prints its result, and may keep the
output in a file.  What is kept is never masked.  Messages beside a result are for people only: they
are left out of the other formats, and, warnings apart, when the program is to be quiet.

* `Printer` — how results and messages are printed.
* `loadBundle`, `readInput`, `saveOutput` — files.
* `perform` — a command.
-/

namespace Interchange.Cli

variable {m : Type → Type} [Monad m]

/-! ### Printing -/

/-- How results and messages are printed. -/
structure Printer where
  format : OutputFormat
  quiet : Bool
  verbosity : Nat
  /-- Whether credentials are masked. -/
  masks : Bool

namespace Printer

/-- The printer that a command line asks for. -/
def ofCommandLine (c : CommandLine) : Printer :=
  ⟨c.format, c.quiet, c.verbosity, !c.showSecrets⟩

def isHuman (p : Printer) : Bool := p.format = .human

/-- Whether messages beside a result are printed. -/
def talks (p : Printer) : Bool := p.isHuman && !p.quiet

/-- Tells what is being done. -/
def info (p : Printer) (s : String) : Job m Unit :=
  if p.talks then printLine s!"INFO: {s}" else pure ()

/-- Tells that something was done. -/
def success (p : Printer) (s : String) : Job m Unit := if p.talks then printLine s else pure ()

/-- Warns of something. -/
def warning (p : Printer) (s : String) : Job m Unit :=
  if p.isHuman then printLine s!"WARNING: {s}" else pure ()

/-- Tells details. -/
def detail (p : Printer) (s : String) : Job m Unit :=
  if p.isHuman && p.verbosity > 0 then printLine s!"DEBUG: {s}" else pure ()

/-- Prints a table under a title. -/
def table (p : Printer) (title : String) (header : List String) (rows : List (List String)) :
    Job m Unit :=
  if p.talks then
    print (s!"\n=== {title} ===\n" ++ Text.replace "\r\n" "\n" (renderTable header rows))
  else pure ()

/-- Prints a value. -/
def data (p : Printer) (v : Value) : Job m Unit :=
  print (p.format.render (if p.masks then v.masked else v))

/-- Prints the report on a run. -/
def run (p : Printer) (r : RunReport) (steps : Bool) : Job m Unit :=
  print (p.format.renderRun (if p.masks then r.masked else r) steps)

/-- Prints the report on a mapping. -/
def mapping (p : Printer) (r : MappingReport) (fields : Bool) : Job m Unit :=
  print (p.format.renderMapping (if p.masks then r.masked else r) fields)

end Printer

/-! ### Files -/

/-- Whether the name of a file says that it holds YAML. -/
def isYamlName (path : String) : Bool :=
  FileName.extension? path = some "yaml" || FileName.extension? path = some "yml"

/-- Loads the bundle that was named and warns of its diagnostics. -/
def loadBundle (host : Host m) (p : Printer) (named : Option String) : Job m Bundle := do
  match named with
  | none => throw .noBundle
  | some path =>
    let text ← host.content path fun message =>
      .core (.file s!"Failed to read bundle {path}: {message}")
    match Bundle.ofFile path text with
    | .error fault => throw (.core (.setup fault))
    | .ok b =>
      p.detail s!"Loaded bundle {path} ({b.pipelines.length} pipelines)"
      b.diagnostics.forM p.warning
      return b

/-- Reads an input, as YAML if its name says so and else as JSON. -/
def readInput (host : Host m) (path : String) : Job m Value := do
  let text ← host.content path fun message => .during s!"Failed to read {path}" (.file message)
  let (expected, reading) :=
    if isYamlName path then ("YAML", Reader.value.ofYaml text)
    else ("JSON", Reader.value.ofJson text)
  match reading with
  | .ok v => return v
  | .error fault => throw (.badInput path expected fault.message)

/-- Keeps an output in a file, as YAML if its name says so and else as JSON. -/
def saveOutput (host : Host m) (path : String) (v : Value) : Job m Unit := do
  match ← ask (host.save path (if isYamlName path then v.yaml else v.pretty)) with
  | .ok () => return ()
  | .error (.directory message) => throw (.file message)
  | .error (.file message) => throw (.during s!"Failed to write {path}" (.file message))

/-- Keeps an output in a file if there is one for it.  The result is printed in any case, without an
output that was kept. -/
def deliver {α : Type} (host : Host m) (p : Printer) (saveTo : Option String) (output : α → Value)
    (withoutOutput : α → α) (printResult : α → Job m Unit) (result : α) : Job m Unit := do
  match saveTo with
  | none => printResult result
  | some path =>
    saveOutput host path (output result)
    printResult (withoutOutput result)
    p.success s!"✓ Output saved to {path}"

/-! ### Services -/

/-- The transport of a program that has no network. -/
def offline : Transport Unit := fun request =>
  return .failed (.network s!"error sending request for url ({request.url})")

/-- The calls of the steps of a bundle. -/
def bundleCalls (b : Bundle) : List CallConfig :=
  (b.pipelines.flatMap Pipeline.steps).filterMap fun s =>
    match s.kind with
    | .callSystem c => some c
    | _ => none

/-- The variables that the headers of a bundle refer to. -/
def bundleVariables (b : Bundle) : List String :=
  let headers := b.systems.flatMap (fun s => s.2.headers) ++
    (bundleCalls b).flatMap CallConfig.headers
  headers.flatMap fun h => (Environment.references 0 h.2.toList).map String.ofList

/-- The variables of the environment that a bundle refers to. -/
def bundleEnvironment (host : Host m) (b : Bundle) : Job m Environment := do
  let found ← (bundleVariables b).mapM fun name =>
    return (name, ← ask (host.variableNamed name))
  return Environment.ofTable (Table.ofList (found.filterMap fun p => p.2.map fun v => (p.1, v)))

/-- Goes on with what was computed, or panics. -/
def orPanic {α : Type} (result : Except Panic α) : Job m α :=
  match result with
  | .ok x => return x
  | .error p => throw (.panicked p)

/-- What services answer, with caches before them if the settings want caches. -/
def answerOf {α : Type} (s : Settings) (services : Services Unit)
    (question : {σ : Type} → Services σ → Checked σ α) : Except Panic α :=
  if s.cache.enabled then
    (question (services.cached (pure 0)) (Cached.ofSettings s.cache ())).map Prod.fst
  else (question services ()).map Prod.fst

/-! ### Commands -/

/-- The request that a command line describes. -/
def requestOf (productLine sourceSystem : String) (transactionType : Option String) :
    RouteRequest :=
  ⟨some productLine, some sourceSystem, transactionType⟩

/-- Runs a pipeline. -/
def performRun (host : Host m) (p : Printer) (s : Settings) (c : RunCommand) : Job m Unit := do
  let b ← loadBundle host p s.bundle
  let input ← readInput host c.input
  let services := b.services offline s.calls (← bundleEnvironment host b)
  match c.target with
  | .pipeline id => p.info s!"Running pipeline '{id}'"
  | .routed .. => p.info "Routing request to the best-matching pipeline"
  let result ← orPanic <| answerOf s services fun services =>
    match c.target with
    | .pipeline id => services.tryExecute id input
    | .routed product source transaction =>
      services.tryExecuteRouted (requestOf product source transaction) input
  match result with
  | .error e => throw (.core e)
  | .ok r =>
    deliver host p c.saveTo RunReport.output (fun r => { r with output := .null })
      (fun r => p.run r c.steps) r
    match r.failure with
    | some f => throw (.failedRun r.pipelineId f.message)
    | none => return ()

/-- Shows to which pipeline a request would go. -/
def performRoute (host : Host m) (p : Printer) (s : Settings) (c : RouteCommand) :
    Job m Unit := do
  let b ← loadBundle host p s.bundle
  let q := requestOf c.productLine c.sourceSystem c.transactionType
  let selected ← orPanic (Selection.tryBest? b.pipelines q)
  -- They have the scores of which the best was chosen, so that none of their sums can panic.
  let candidates := if c.all then Candidate.all b.pipelines q else []
  match selected with
  | some x => p.success s!"✓ Routed to pipeline '{x.pipelineId}' (score {x.score.toInt})"
  | none => p.warning "No active pipeline matches this request"
  if !p.isHuman then p.data (routeOverview q selected candidates)
  else if !candidates.isEmpty then
    p.table "Candidates" ["Pipeline", "Rule", "Score"] (candidates.map Candidate.row)
  match selected with
  | some _ => return ()
  | none => throw (.core (.unrouted q))

/-- Runs a mapping. -/
def performTransform (host : Host m) (p : Printer) (s : Settings) (c : TransformCommand) :
    Job m Unit := do
  let b ← loadBundle host p s.bundle
  let input ← readInput host c.input
  match b.mapping? c.mapping with
  | none => throw (.unknownMapping c.mapping (b.allMappings.map Mapping.id))
  | some mapping =>
    let services := b.services offline s.calls (Environment.ofTable [])
    let policy := if c.continueOnMissing then RequiredPolicy.continue else .abort
    match ← orPanic (answerOf s services fun services =>
        mapping.tryRun services.lookup input policy) with
    | .error path => throw (.core (.requiredField path))
    | .ok r =>
      deliver host p c.saveTo MappingReport.output (fun r => { r with output := .null })
        (fun r => p.mapping r c.fields) r

/-- Prints the tables of what a bundle holds. -/
def printOverview (p : Printer) (b : Bundle) : Job m Unit := do
  p.table "Pipelines" ["Id", "Active", "Steps", "Routes", "Mappings", "Rules"]
    (b.pipelines.map pipelineRow)
  if !b.systems.isEmpty then
    p.table "External Systems" ["Code", "Format", "Base URL", "Active"]
      (b.systems.map fun x => systemRow x.2)
  if !b.tableSizes.isEmpty then
    p.table "Lookup Tables" ["Table", "Entries"]
      (b.tableSizes.map fun t => [t.1, toString t.2])

/-- Shows what a bundle holds. -/
def performValidate (host : Host m) (p : Printer) (s : Settings) (strict : Bool) :
    Job m Unit := do
  let b ← loadBundle host p s.bundle
  if p.isHuman then printOverview p b else p.data b.overview
  let count := b.diagnostics.length
  if count = 0 then p.success "✓ Bundle is valid"
  else if strict then throw (.diagnostics count)
  else p.warning s!"Bundle loaded with {count} diagnostic(s); use --strict to fail on them"

/-- The words that complete a command line. -/
def completionWords : List String :=
  ["run", "route", "transform", "validate", "completions", "help"]

/-- Prints a script that completes the commands of the program in a shell. -/
def performCompletions (shell : String) : Job m Unit :=
  let words := Text.join " " completionWords
  printLine <|
    match shell with
    | "fish" => s!"complete -c ratebridge -a '{words}'"
    | "zsh" => s!"#compdef ratebridge\ncompadd {words}"
    | _ => s!"complete -W '{words}' ratebridge"

/-- Does what a command says. -/
def perform (host : Host m) (p : Printer) (s : Settings) : Command → Job m Unit
  | .run c => performRun host p s c
  | .route c => performRoute host p s c
  | .transform c => performTransform host p s c
  | .validate strict => performValidate host p s strict
  | .completions shell => performCompletions shell

end Interchange.Cli
