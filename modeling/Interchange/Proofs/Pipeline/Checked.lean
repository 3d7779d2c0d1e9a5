import Interchange.Bundle.Basic
import Interchange.Pipeline.Run
import Interchange.Proofs.Mapping.Policies
import Interchange.Proofs.Pipeline.Score
import Interchange.Proofs.Pipeline.StepOrder
/-!
# Runs that do not panic

The program runs the checked functions, and the laws of runs are stated of the unchecked ones.  They
are laws of the program for every run that ends: rules, mappings, lookups, steps, pipelines and the
choice of a pipeline all keep to their unchecked twins.

What may panic is known before a run.  Writes go to the paths that the configuration names, whatever
the documents are, and of those only the ones with the greatest 64-bit word as a segment may ask for
an item that a list does not have.  The reply of a system is written to a member of the context, and
that is never an index.  The sums of scores are sums of a configured priority and three worths.  So
a bundle without such a path, whose priorities stay below the greatest word by those worths, never
panics.

* `Pipeline.writtenPaths` — all paths that a run of a pipeline may write to.
* `Rule.keeps_tryRunAll`, `Mapping.tryRun_keepsTo`, `Services.tryRunStep_keepsTo` — the parts of a
  run.
* `Services.tryRunPipeline_keepsTo`, `Services.tryExecuteRouted_keepsTo` — runs.
* `Services.runs_of_ended` — a run that ends is the unchecked one.
* `Bundle.Bounded.runs_end` — the runs of a bounded bundle all end.
-/

namespace Interchange

open Checked (KeepsTo)

variable {σ : Type} {safe : Prop}

/-! ### Rules -/

/-- The paths that a rule may write to. -/
def Rule.writtenPaths (r : Rule) : List String := r.actions.map Action.target

/-- An action writes to its target, and nowhere else. -/
theorem Action.keeps_tryTake (a : Action) (doc : Value) :
    Keeps (Path.Bounded a.target) (a.tryTake doc) (a.take doc) := by
  rw [tryTake, take]
  rcases a.effect doc with e | ⟨rest, _ | v⟩
  · exact .ok _
  · exact .ok _
  · exact (rest.keeps_checkedWrite a.target v).map _

namespace Rule

/-- Actions that are taken in order stop at the first that fails, which is no panic. -/
theorem keeps_tryTakeAll {actions : List Action} :
    ∀ doc : Value, Keeps (∀ a ∈ actions, Path.Bounded a.target) (tryTakeAll actions doc)
      (takeAll actions doc) := by
  induction actions with
  | nil => exact fun doc => .ok _
  | cons a actions ih =>
      intro doc
      rw [tryTakeAll, takeAll]
      have first := (a.keeps_tryTake doc).mono
        fun bounded : ∀ b ∈ a :: actions, Path.Bounded b.target => bounded a List.mem_cons_self
      refine first.bind ?_
      rcases a.take doc with e | next
      · exact .ok _
      · exact (ih next).mono fun bounded b member => bounded b (List.mem_cons_of_mem _ member)

/-- So a rule that is applied may panic at the targets of its actions. -/
theorem keeps_tryApply (r : Rule) (doc : Value) :
    Keeps (∀ path ∈ r.writtenPaths, Path.Bounded path) (r.tryApply doc) (r.apply doc) :=
  ((keeps_tryTakeAll doc).map _).mono fun bounded _ member =>
    bounded _ (List.mem_map_of_mem member)

/-- A rule in its turn, whatever the rules before it have made of the document. -/
theorem keeps_tryRunOne (report : RuleReport) (r : Rule) :
    Keeps (∀ path ∈ r.writtenPaths, Path.Bounded path) (tryRunOne report r) (runOne report r) := by
  rw [tryRunOne, runOne]
  dsimp only
  split
  · exact (r.keeps_tryApply report.data).map _
  · exact .ok _

/-- **Rules that are run** come to the same, or panic at a path that one of them names. -/
theorem keeps_tryRunAll (rules : List Rule) (doc : Value) (phase : Scope) :
    Keeps (∀ r ∈ rules, ∀ path ∈ r.writtenPaths, Path.Bounded path) (tryRunAll rules doc phase)
      (runAll rules doc phase) := by
  refine Keeps.foldlM (fun r member report => ?_) _
  have listed : r ∈ rules := (List.mem_filter.mp (List.mem_mergeSort.mp member)).1
  exact (keeps_tryRunOne report r).mono fun bounded => bounded r listed

end Rule

/-! ### Mappings -/

/-- The paths that a mapping may write to. -/
def Mapping.writtenPaths (m : Mapping) : List String := m.fields.map FieldMapping.targetPath

/-- What a field has put out is written to the path of its report. -/
theorem FieldReport.keeps_tryWriteTo (r : FieldReport) (output : Value) :
    Keeps (Path.Bounded r.targetPath) (r.tryWriteTo output) (r.writeTo output) := by
  rw [tryWriteTo, writeTo]
  split
  · cases r.output with
    | none => exact .ok _
    | some v => exact output.keeps_checkedWrite r.targetPath v
  · exact .ok _

namespace Mapping

variable (resolver : Resolver σ) (source : Value) (policy : RequiredPolicy)

/-- The fields of a mapping, whatever the fields before them have written. -/
theorem tryRunFields_keepsTo (fields : List FieldMapping) :
    ∀ (output : Value) (reports : List FieldReport),
      KeepsTo (∀ f ∈ fields, Path.Bounded f.targetPath)
        (tryRunFields resolver source policy fields output reports)
        (runFields resolver source policy fields output reports) := by
  induction fields with
  | nil => exact fun output reports => .pure _
  | cons f fields ih =>
      intro output reports
      -- A report tells of the path of its field, so that it is one of those that are bounded.
      refine (KeepsTo.lift _).bind_of_answers (P := fun r => r.targetPath = f.targetPath)
        (fun _ s => (f.run_reports resolver source source s).targetPath) fun r => ?_
      split
      · exact .pure _
      · refine .check ((r.keeps_tryWriteTo output).mono fun ⟨bounded, path⟩ => ?_) ?_
        · rw [path]
          exact bounded f List.mem_cons_self
        · exact (ih _ _).mono fun ⟨bounded, _⟩ g member =>
            bounded g (List.mem_cons_of_mem _ member)

/-- **A mapping that is run** comes to the same, or panics at the path of one of its fields. -/
theorem tryRun_keepsTo (m : Mapping) :
    KeepsTo (∀ path ∈ m.writtenPaths, Path.Bounded path) (m.tryRun resolver source policy)
      (m.run resolver source policy) := by
  have fields := tryRunFields_keepsTo resolver source policy m.fields .empty []
  refine (fields.mono fun bounded f member => bounded _ (List.mem_map_of_mem member)).bind
    fun outcome => ?_
  rcases outcome with path | ⟨output, reports⟩ <;> exact .pure _

end Mapping

/-! ### Steps -/

/-- The paths that a step may write to on its own. -/
def StepKind.writtenPaths : StepKind → List String
  | .enrich lookups => lookups.map EnrichLookup.targetField
  | _ => []

/-- **The paths that a run of a pipeline may write to**: those of its mappings, its rules and its
lookups. -/
def Pipeline.writtenPaths (p : Pipeline) : List String :=
  p.mappings.flatMap Mapping.writtenPaths ++ p.rules.flatMap Rule.writtenPaths ++
    p.steps.flatMap fun s => s.kind.writtenPaths

/-- **A pipeline that cannot panic**: no path that it writes to has the greatest word as a segment.
-/
def Pipeline.Bounded (p : Pipeline) : Prop := ∀ path ∈ p.writtenPaths, Path.Bounded path

instance (p : Pipeline) : Decidable p.Bounded :=
  inferInstanceAs (Decidable (∀ path ∈ p.writtenPaths, Path.Bounded path))

namespace Pipeline.Bounded

variable {p : Pipeline}

theorem mapping (bounded : p.Bounded) {m : Mapping} (member : m ∈ p.mappings) :
    ∀ path ∈ m.writtenPaths, Path.Bounded path := fun path written =>
  bounded path (List.mem_append_left _ (List.mem_append_left _
    (List.mem_flatMap_of_mem member written)))

theorem rule (bounded : p.Bounded) {r : Rule} (member : r ∈ p.rules) :
    ∀ path ∈ r.writtenPaths, Path.Bounded path := fun path written =>
  bounded path (List.mem_append_left _ (List.mem_append_right _
    (List.mem_flatMap_of_mem member written)))

theorem step (bounded : p.Bounded) {s : Step} (member : s ∈ p.steps) :
    ∀ path ∈ s.kind.writtenPaths, Path.Bounded path := fun path written =>
  bounded path (List.mem_append_right _ (List.mem_flatMap.mpr ⟨s, member, written⟩))

end Pipeline.Bounded

namespace Services

variable (s : Services σ)

/-- The mappings of one step, whatever those before them have made of the context. -/
theorem tryRunMappings_keepsTo (source : Value → Value) (ms : List Mapping) :
    ∀ (context : Value) (told : List Value),
      KeepsTo (∀ m ∈ ms, ∀ path ∈ m.writtenPaths, Path.Bounded path)
        (s.tryRunMappings source ms context told) (s.runMappings source ms context told) := by
  induction ms with
  | nil => exact fun context told => .pure _
  | cons m ms ih =>
      intro context told
      have first : (∀ n ∈ m :: ms, ∀ path ∈ n.writtenPaths, Path.Bounded path) →
          ∀ path ∈ m.writtenPaths, Path.Bounded path := fun bounded =>
        bounded m List.mem_cons_self
      have others (context : Value) (told : List Value) :=
        (ih context told).mono
          fun bounded : ∀ n ∈ m :: ms, ∀ path ∈ n.writtenPaths, Path.Bounded path =>
            fun n member => bounded n (List.mem_cons_of_mem _ member)
      unfold tryRunMappings runMappings
      split
      · exact others _ _
      · have kept := (m.tryRun_keepsTo s.lookup (source context) .abort).mono first
        refine kept.bind fun outcome => ?_
        rcases outcome with path | r
        · exact .pure _
        · exact others _ _

/-- A step that maps runs mappings of its pipeline. -/
theorem tryMap_keepsTo (p : Pipeline) (d : Direction) (source : Value → Value) (context : Value) :
    KeepsTo p.Bounded (s.tryMap p d source context) (s.map p d source context) := by
  have mappings := (s.tryRunMappings_keepsTo source (p.mappingsFor d) context []).mono
    fun bounded : p.Bounded => fun m member => bounded.mapping (List.mem_filter.mp member).1
  refine mappings.bind fun outcome => ?_
  rcases outcome with e | ⟨context, told⟩ <;> exact .pure _

/-- What a step looks up is written to the fields that it names. -/
theorem tryEnrich_keepsTo (ls : List EnrichLookup) :
    ∀ (context : Value) (notes : EnrichNotes),
      KeepsTo (∀ l ∈ ls, Path.Bounded l.targetField) (s.tryEnrich ls context notes)
        (s.enrich ls context notes) := by
  induction ls with
  | nil => exact fun context notes => .pure _
  | cons l ls ih =>
      intro context notes
      have others (context : Value) (notes : EnrichNotes) :=
        (ih context notes).mono fun bounded : ∀ k ∈ l :: ls, Path.Bounded k.targetField =>
          fun k member => bounded k (List.mem_cons_of_mem _ member)
      unfold tryEnrich enrich
      cases context.present? l.sourceField with
      | none => exact others _ _
      | some v =>
          refine (KeepsTo.lift _).bind fun answer => ?_
          rcases answer with fault | _ | found
          · exact .pure _
          · exact others _ _
          · exact .check ((context.keeps_checkedWrite l.targetField found).mono
              fun bounded => bounded l List.mem_cons_self) (others _ _)

/-- **A step that is run** comes to the same, or panics at a path that the pipeline names for it. -/
theorem tryRunStep_keepsTo (p : Pipeline) {step : Step} (member : step ∈ p.steps)
    (context : Value) :
    KeepsTo p.Bounded (s.tryRunStep p step context) (s.runStep p step context) := by
  have rules (doc : Value) (phase : Scope) := (Rule.keeps_tryRunAll p.rules doc phase).mono
    fun bounded : p.Bounded => fun r => bounded.rule
  unfold tryRunStep runStep
  cases kind : step.kind with
  | mapRequest => exact s.tryMap_keepsTo p .request _ context
  | mapResponse => exact s.tryMap_keepsTo p .response _ context
  | applyRules => exact .check (rules _ _) (.pure _)
  | applyResponseRules => exact .check (rules _ _) (.pure _)
  | enrich lookups =>
      have written := (s.tryEnrich_keepsTo lookups context ⟨[], [], []⟩).mono
        fun bounded : p.Bounded => fun l inside =>
          bounded.step member _ (kind ▸ List.mem_map_of_mem inside)
      refine written.bind fun outcome => ?_
      rcases outcome with e | ⟨context, notes⟩ <;> exact .pure _
  | validate | callSystem | mockResponse | unsupported => exact .lift _

/-- The steps of a run, whatever those before them have come to. -/
theorem tryRunSteps_keepsTo (p : Pipeline) (input : Value) {steps : List Step}
    (listed : steps ⊆ p.steps) :
    ∀ (context : Value) (told : List StepReport),
      KeepsTo p.Bounded (s.tryRunSteps p input steps context told)
        (s.runSteps p input steps context told) := by
  induction steps with
  | nil => exact fun context told => .pure _
  | cons step steps ih =>
      intro context told
      obtain ⟨member, others⟩ := List.cons_subset.mp listed
      refine (s.tryRunStep_keepsTo p member context).bind fun outcome => ?_
      rcases outcome with e | progress
      · exact .pure _
      · exact ih others _ _

/-- **A pipeline that is run** comes to the same, or panics at one of the paths that it may write
to. -/
theorem tryRunPipeline_keepsTo (p : Pipeline) (input : Value) :
    KeepsTo p.Bounded (s.tryRunPipeline p input) (s.runPipeline p input) :=
  s.tryRunSteps_keepsTo p input (fun _ member => (Pipeline.mem_activeSteps.mp member).1) input []

/-- **A pipeline that is run by its id** comes to the same, or panics as that pipeline may. -/
theorem tryExecute_keepsTo (id : String) (input : Value) :
    KeepsTo (∀ w p, ((s.pipeline id).run w).1 = .ok (some p) → p.Bounded) (s.tryExecute id input)
      (s.execute id input) := by
  refine (KeepsTo.lift (s.pipeline id)).bind_of_answers
    (P := fun answer => ∀ p, answer = .ok (some p) → p.Bounded)
    (fun bounded w p => bounded w p) fun answer => ?_
  rcases answer with e | _ | p
  · exact .pure _
  · exact .pure _
  · dsimp only
    split
    · exact ((s.tryRunPipeline_keepsTo p input).mono fun ⟨_, bounded⟩ => bounded p rfl).bind
        fun report => .pure _
    · exact .pure _

end Services

/-! ### Choosing a pipeline -/

theorem RoutingRule.keeps_tryScore (r : RoutingRule) (q : RouteRequest) :
    Keeps (r.reached q < 2 ^ 31) (r.tryScore q) (r.score q) := by
  rw [tryScore_eq]
  split
  · next beyond => exact .inr ⟨Int.not_lt.mpr beyond, _, rfl⟩
  · exact .ok _

/-- **A pipeline whose scores fit in a word**, whatever request they are for: none of its routes has
a priority that the worths of all criteria would lead out of the range. -/
def Pipeline.FitsWord (p : Pipeline) : Prop := ∀ r ∈ p.routes, r.priority.toInt + 18 < 2 ^ 31

instance (p : Pipeline) : Decidable p.FitsWord :=
  inferInstanceAs (Decidable (∀ r ∈ p.routes, r.priority.toInt + 18 < 2 ^ 31))

namespace Selection

variable {ps : List Pipeline} {q : RouteRequest}

/-- The candidates of one pipeline are the same, or one of its scores does not fit in its word. -/
theorem keeps_tryOfPipeline (q : RouteRequest) (p : Pipeline) :
    Keeps p.FitsWord (tryOfPipeline q p) (ofPipeline q p) := by
  have scores : Keeps p.FitsWord (p.activeRoutes.mapM fun r => r.tryScore q)
      (p.activeRoutes.map fun r => r.score q) := by
    refine Keeps.mapM fun r member => (r.keeps_tryScore q).mono fun fits => ?_
    exact Int.lt_of_le_of_lt (r.reached_le q) (fits r (List.mem_filter.mp member).1)
  have same : ofPipeline q p = (p.activeRoutes.map fun r => r.score q).filterMap
      fun score => score.map fun n => ⟨p.id, n⟩ := by
    rw [ofPipeline, List.filterMap_map]
    rfl
  rw [same]
  exact scores.bind (.ok _)

/-- **The pipeline that is chosen** is the same, or a score does not fit in its word. -/
theorem keeps_tryBest? (ps : List Pipeline) (q : RouteRequest) :
    Keeps (∀ p ∈ ps, p.FitsWord) (tryBest? ps q) (best? ps q) := by
  have each : Keeps (∀ p ∈ ps, p.FitsWord) ((ps.filter Pipeline.isActive).mapM (tryOfPipeline q))
      ((ps.filter Pipeline.isActive).map (ofPipeline q)) :=
    Keeps.mapM fun p member => (keeps_tryOfPipeline q p).mono fun fits =>
      fits p (List.mem_filter.mp member).1
  have candidates : Keeps (∀ p ∈ ps, p.FitsWord) (tryCandidates ps q) (candidates ps q) := by
    rw [Selection.candidates, List.flatMap_def]
    exact each.bind (.ok _)
  exact candidates.bind (.ok _)

end Selection

/-- **A bundle that cannot panic**: none of its pipelines can, and none has a route whose score
would leave its word. -/
structure Services.Bounded (s : Services σ) : Prop where
  pipelines : ∀ id w p, ((s.pipeline id).run w).1 = .ok (some p) → p.Bounded
  routes : ∀ w ps, (s.catalog.run w).1 = .ok ps → ∀ p ∈ ps, p.FitsWord

namespace Services

variable (s : Services σ)

/-- The choice of a pipeline from the catalog. -/
theorem tryRoute_keepsTo (q : RouteRequest) :
    KeepsTo s.Bounded (s.tryRoute q) (s.route q) := by
  refine (KeepsTo.lift s.catalog).bind_of_answers
    (P := fun answer => ∀ ps, answer = .ok ps → ∀ p ∈ ps, p.FitsWord)
    (fun bounded w ps => bounded.routes w ps) fun answer => ?_
  rcases answer with e | ps
  · exact .pure _
  · exact .check ((Selection.keeps_tryBest? ps q).mono fun ⟨_, fits⟩ => fits ps rfl) (.pure _)

/-- **A pipeline that is chosen and run** comes to the same, or panics at a path or a score. -/
theorem tryExecuteRouted_keepsTo (q : RouteRequest) (input : Value) :
    KeepsTo s.Bounded (s.tryExecuteRouted q input) (s.executeRouted q input) := by
  refine (s.tryRoute_keepsTo q).bind fun answer => ?_
  rcases answer with e | _ | selected
  · exact .pure _
  · exact .pure _
  · exact (s.tryExecute_keepsTo selected.pipelineId input).mono fun bounded w p =>
      bounded.pipelines _ w p

variable {s}

/-- **A run that ends is the unchecked one**: it has the same report, and leaves the world in the
same state. -/
theorem runs_of_ended (input : Value) (w : σ) :
    (∀ id ended, (s.tryExecute id input).run w = .ok ended → (s.execute id input).run w = ended) ∧
      ∀ q ended, (s.tryExecuteRouted q input).run w = .ok ended →
        (s.executeRouted q input).run w = ended :=
  ⟨fun id _ ended => ((s.tryExecute_keepsTo id input w).eq_of_eq_ok ended).symm,
    fun q _ ended => ((s.tryExecuteRouted_keepsTo q input w).eq_of_eq_ok ended).symm⟩

end Services

/-! ### Bundles -/

/-- **A bundle that cannot panic**: no path that one of its pipelines writes to has the greatest
word as a segment, and no score of one of its routes leaves its word. -/
def Bundle.Bounded (b : Bundle) : Prop := ∀ p ∈ b.pipelines, p.Bounded ∧ p.FitsWord

instance (b : Bundle) : Decidable b.Bounded :=
  inferInstanceAs (Decidable (∀ p ∈ b.pipelines, p.Bounded ∧ p.FitsWord))

namespace Bundle

variable {b : Bundle} {send : Transport σ} {settings : CallSettings} {env : Environment}

/-- The services of a bundle give out its pipelines and no others. -/
theorem Bounded.services (bounded : b.Bounded) : (b.services send settings env).Bounded where
  pipelines id w p found := by
    have named : b.pipeline? id = some p := Except.ok.inj found
    exact (bounded p (List.mem_of_find?_eq_some named)).1
  routes w ps found p member := by
    have all : b.pipelines = ps := Except.ok.inj found
    exact (bounded p (all ▸ member)).2

/-- **The runs of a bounded bundle end**, whatever their inputs are, and whatever systems answer. -/
theorem Bounded.runs_end (bounded : b.Bounded) (input : Value) (w : σ) :
    (∀ id, ((b.services send settings env).tryExecute id input).run w =
        .ok (((b.services send settings env).execute id input).run w)) ∧
      ∀ q, ((b.services send settings env).tryExecuteRouted q input).run w =
        .ok (((b.services send settings env).executeRouted q input).run w) :=
  have services : (b.services send settings env).Bounded := bounded.services
  ⟨fun id => ((b.services send settings env).tryExecute_keepsTo id input w).eq_ok
      (services.pipelines id),
    fun q => ((b.services send settings env).tryExecuteRouted_keepsTo q input w).eq_ok services⟩

/-- Among the paths of one mapping, the next number after the greatest word does no harm, for it is
the name of a member; and a route may have any priority but the 18 greatest. -/
example :
    let field (target : String) := FieldMapping.ofPaths "rate" target .direct
    let bundle (target : String) (priority : Int32) : Bundle :=
      ⟨[{ Pipeline.named "p" with
          mappings := [⟨"m", "", .request, true, [field "rates[0]", field target]⟩]
          routes := [⟨some "GL", none, none, priority, true⟩] }], [], [], []⟩
    (bundle "rates[18446744073709551616]" 2147483629).Bounded ∧
      ¬ (bundle "rates[18446744073709551615]" 0).Bounded ∧
      ¬ (bundle "rates[1]" 2147483630).Bounded := by
  decide +kernel

end Bundle

end Interchange
