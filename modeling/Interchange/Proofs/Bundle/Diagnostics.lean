import Interchange.Bundle.Basic
import Interchange.Proofs.Pipeline.References
/-!
# Clean diagnostics are sound

A bundle can be used although its diagnostics find fault with it.  If they find none, then every
reference in it leads somewhere: no run of one of its pipelines stops over a system, a table or a
type of steps that is not there, and no field of one of its mappings reports the failure of a
lookup.

* `Bundle.NothingDangles` — what is promised of services.
* `Bundle.nothingDangles_of_clean` — the services of a bundle with clean diagnostics keep it.
-/

namespace Interchange

variable {σ : Type}

/-- **The report on a run that did not stop over something that is not there.**  No text in it is
that of an error over such a thing, and the text for the whole run is that of another error. -/
structure RunReport.NothingDangles (r : RunReport) : Prop where
  steps : ∀ t ∈ r.steps, ∀ e : Error, e.isDangling = true → t.error ≠ some e.message
  failure : ∀ f, r.failure = some f → ∃ a e, e.isDangling = false ∧ f = Services.stepFailure a e

/-- **What clean diagnostics promise** of services, whatever the state of the world. -/
structure Bundle.NothingDangles (b : Bundle) (s : Services σ) : Prop where
  /-- A step fails, if at all, over something else. -/
  step : ∀ p ∈ b.pipelines, ∀ a ∈ p.steps, ∀ context world e,
    ((s.runStep p a context).run world).1 = .error e → e.isDangling = false
  run : ∀ p ∈ b.pipelines, ∀ input world, ((s.runPipeline p input).run world).1.NothingDangles
  execute : ∀ id input world r,
    ((s.execute id input).run world).1 = .ok r → r.NothingDangles
  executeRouted : ∀ q input world r,
    ((s.executeRouted q input).run world).1 = .ok r → r.NothingDangles
  /-- A field does not report the failure of a lookup. -/
  field : ∀ m ∈ b.allMappings, ∀ f ∈ m.fields, ∀ source context world,
    ((f.run s.lookup source context).run world).1.LookedUp
  mapping : ∀ m ∈ b.allMappings, ∀ source policy world r,
    ((m.run s.lookup source policy).run world).1 = .ok r → ∀ t ∈ r.fields, t.LookedUp

/-- A report that fails with legitimate errors alone names nothing that is missing: the text of such
an error is never that of a dangling one. -/
theorem RunReport.FailsWith.nothingDangles {r : RunReport} (fails : r.FailsWith Error.Legitimate) :
    r.NothingDangles := by
  refine ⟨fun t member e dangling told => ?_, fun f told => ?_⟩
  · obtain ⟨other, legitimate, same⟩ := fails.steps t member e.message told
    exact legitimate.message_ne dangling same.symm
  · obtain ⟨a, e, legitimate, same⟩ := fails.failure f told
    exact ⟨a, e, legitimate.isDangling, same⟩

namespace Bundle

variable {b : Bundle} {send : Transport σ} {settings : CallSettings} {env : Environment}

/-! ### What the diagnostics look at -/

/-- Clean diagnostics have nothing to say of any step, -/
theorem stepIssues_of_clean (clean : b.diagnostics = []) {p : Pipeline} (listed : p ∈ b.pipelines)
    {a : Step} (member : a ∈ p.steps) : b.stepIssues p a = [] := by
  have pipelines := (List.append_eq_nil_iff.mp clean).1
  have issues := List.flatMap_eq_nil_iff.mp pipelines p listed
  exact List.flatMap_eq_nil_iff.mp (List.append_eq_nil_iff.mp issues).2 a member

/-- and nothing of any mapping. -/
theorem mappingIssues_of_clean (clean : b.diagnostics = []) {m : Mapping}
    (listed : m ∈ b.allMappings) : b.mappingIssues m = [] :=
  List.flatMap_eq_nil_iff.mp (List.append_eq_nil_iff.mp clean).2 m listed

/-- A table that is there answers every key. -/
theorem lookup_answers {table : String} (there : b.tables.has table = true) (key : String) :
    Answers (fun r => ∃ found, r = .ok found) ((b.services send settings env).lookup table key) := by
  obtain ⟨entries, named⟩ := Option.isSome_iff_exists.mp there
  refine .pure ⟨Table.get? key entries, ?_⟩
  rw [Tables.find, named]

/-- So a step of a listed pipeline finds its system, its tables and its type. -/
theorem provides_step (clean : b.diagnostics = []) {p : Pipeline} (listed : p ∈ b.pipelines)
    {a : Step} (member : a ∈ p.steps) : (b.services send settings env).Provides a := by
  have issues := stepIssues_of_clean clean listed member
  unfold stepIssues at issues
  dsimp only at issues
  refine ⟨fun c kind => ?_, fun ls kind l looked key => ?_, fun stepType kind => ?_⟩
  · rw [kind] at issues
    cases found : b.system? c.system with
    | none => simp [found] at issues
    | some system => exact .pure ⟨system, congrArg _ found⟩
  · rw [kind] at issues
    have known := List.filter_eq_nil_iff.mp (List.map_eq_nil_iff.mp issues) l looked
    exact lookup_answers (by simpa using known) key
  · rw [kind] at issues
    cases issues

/-- And the lookups of a listed field find their table. -/
theorem provides_field (clean : b.diagnostics = []) {m : Mapping} (listed : m ∈ b.allMappings)
    {f : FieldMapping} (member : f ∈ m.fields) :
    Resolver.Provides (b.services send settings env).lookup f.transformation := by
  intro table notFound looks key
  have issues := List.filterMap_eq_nil_iff.mp (mappingIssues_of_clean clean listed) f member
  rw [looks] at issues
  cases there : b.tables.has table with
  | true => exact lookup_answers there key
  | false => simp [there] at issues

/-! ### Runs -/

/-- Whatever the systems answer, a run then fails over nothing that is missing. -/
theorem run_nothingDangles (clean : b.diagnostics = []) {p : Pipeline} (listed : p ∈ b.pipelines)
    (input : Value) :
    Answers RunReport.NothingDangles ((b.services send settings env).runPipeline p input) := by
  intro world
  exact (Services.runPipeline_answers (fun a member => provides_step clean listed member) input
    world).nothingDangles

/-- This holds of a run by an id, since the id names a listed pipeline or nothing is run, -/
theorem execute_nothingDangles (clean : b.diagnostics = []) (id : String) (input : Value) :
    Answers (fun r => ∀ report, r = .ok report → report.NothingDangles)
      ((b.services send settings env).execute id input) := by
  refine Answers.bind (P := fun r => r = .ok (b.pipeline? id)) (fun _ => rfl) ?_
  rintro _ rfl
  cases found : b.pipeline? id with
  | none => exact .pure (by rintro report ⟨⟩)
  | some p =>
      dsimp only
      split
      · refine (run_nothingDangles clean (List.mem_of_find?_eq_some found) input).bind
          fun report known => .pure ?_
        rintro _ ⟨⟩
        exact known
      · exact .pure (by rintro report ⟨⟩)

/-- and of a run that is routed, which is one by the id that was chosen. -/
theorem executeRouted_nothingDangles (clean : b.diagnostics = []) (q : RouteRequest)
    (input : Value) : Answers (fun r => ∀ report, r = .ok report → report.NothingDangles)
      ((b.services send settings env).executeRouted q input) := by
  refine Answers.bind (P := fun r => r = .ok (Selection.best? b.pipelines q)) (fun _ => rfl) ?_
  rintro _ rfl
  cases Selection.best? b.pipelines q with
  | none => exact .pure (by rintro report ⟨⟩)
  | some selected => exact execute_nothingDangles clean _ input

/-- **Clean diagnostics are sound**, for every transport, all settings and every environment. -/
theorem nothingDangles_of_clean (clean : b.diagnostics = []) (send : Transport σ)
    (settings : CallSettings) (env : Environment) :
    b.NothingDangles (b.services send settings env) where
  step _ listed _ member context world e failed :=
    ((provides_step clean listed member).runStep _ context world e failed).isDangling
  run _ listed input := run_nothingDangles clean listed input
  execute id input := execute_nothingDangles clean id input
  executeRouted q input := executeRouted_nothingDangles clean q input
  field _ listed _ member source context :=
    FieldMapping.run_answers (provides_field clean listed member) source context
  mapping _ listed source policy :=
    Mapping.run_answers (fun _ member => provides_field clean listed member) source policy

/-- A pipeline that looks a state up in a table, once in a step and once in a mapping, before it
calls a system. -/
def zonedQuote : Pipeline :=
  { Pipeline.named "quote" with
    steps :=
      [⟨1, "zone", .enrich [⟨"state", "zones", "zone"⟩], true⟩, ⟨2, "map", .mapRequest, true⟩,
        ⟨3, "partner", .callSystem ⟨"partner", none, "POST", "Quote", none, [], none⟩, true⟩]
    mappings := [⟨"m", "", .request, true, [.ofPaths "state" "label" (.lookup "zones" none)]⟩] }

/-- The bundle of this pipeline, with the table and the system. -/
def zonedBundle : Bundle :=
  ⟨[zonedQuote], [("partner", .ofUrl "partner" "https://partner.example.com" .json)],
    [("zones", [("CA", .str "west")])], []⟩

/-- The system does not answer, so that a run stops; nothing in its report is about something that
is not there. -/
theorem zonedBundle_nothingDangles : zonedBundle.diagnostics = [] ∧
    ∃ r : RunReport,
      (((zonedBundle.services Queue.send .standard fun _ => none).execute "quote"
        (.obj [("state", .str "CA")])).run ⟨[], [], none⟩).1 = .ok r ∧
      r.failure.map RunFailure.family = some .transport ∧ r.NothingDangles := by
  have active : zonedQuote.activeSteps = zonedQuote.steps :=
    List.mergeSort_of_pairwise (by decide)
  have clean : zonedBundle.diagnostics = [] := by
    have issues : zonedBundle.pipelineIssues zonedQuote = [] := by
      unfold pipelineIssues
      rw [active]
      decide +kernel
    show zonedBundle.pipelineIssues zonedQuote ++ [] ++ _ = []
    rw [issues]
    decide +kernel
  have promise := nothingDangles_of_clean clean Queue.send .standard fun _ => none
  refine ⟨clean, _, rfl, ?_, promise.execute "quote" _ ⟨[], [], none⟩ _ rfl⟩
  show ((Services.runSteps _ zonedQuote _ zonedQuote.activeSteps _ _).run _).1.failure.map _ = _
  rw [active]
  decide +kernel

end Bundle

end Interchange
