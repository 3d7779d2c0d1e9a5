import Interchange.Pipeline.Run
/-!
# Services that answer alike

A run learns of the world from its services alone: its pipeline, systems, entries of tables and
replies are what they have answered, and it does nothing to the world but ask.  So if two services
give the same answers as long as their states are related, then everything that is done with them
comes to the same: fields, mappings, steps, runs and routing.  What the states are, and what relates
them, is left open; they need not be of the same type.

## Why the states are related

Services that are compared do not go through the same states.  One that reads through caches asks
its store less often than one that reads directly, and it changes its caches where the other one has
nothing to change.  So there is no function from the states of the one to those of the other that
would be kept, but there is a relation that is.  An answer that is the same is not enough by itself,
since nothing would be known of the answers that follow; therefore `Alike` also asks that the states
are related afterwards.  It is this second half that is carried through a run.

What only one side does is allowed for by `Alike.bind_left` and `Alike.after_left`: it may come
before an action of both if it keeps the states related.

## How it goes through a run

The relation is kept by `pure` and by `bind`, and all else follows the program, with one lemma for
each function and by induction where that goes through a list.  Only three functions ask a service:
looking up a value, calling a system and choosing a pipeline.  The settings of calls and the
environment are not asked for but given; they have to be the same on both sides, as a request is
made of them.

There are two uses.  Services that are wrapped in caches answer like the bare ones, and then the
states are a store with caches and the store alone.  And a resolver whose tables do not change
answers like itself at another time, so that it does not matter which fields have asked it before.

## Main statements

* `Alike` — actions with the same answer, from and to related states.
* `Services.Alike` — services whose actions are alike, one by one.
* `FieldMapping.run_alike`, `Mapping.run_alike` — fields and mappings, for any two resolvers.
* `Services.Alike.runPipeline` — runs of a pipeline.
* `Services.Alike.execute`, `Services.Alike.executeRouted` — runs by an id, and runs that are
  routed.
-/

namespace Interchange

variable {σ τ α β : Type} {R : σ → τ → Prop}

/-- **Actions that are alike**: from related states they give the same answer and lead to related
states. -/
def Alike (R : σ → τ → Prop) (a : StateM σ α) (b : StateM τ α) : Prop :=
  ∀ s t, R s t → (a.run s).1 = (b.run t).1 ∧ R (a.run s).2 (b.run t).2

/-- **Services that are alike**, action by action. -/
structure Services.Alike (R : σ → τ → Prop) (s : Services σ) (t : Services τ) : Prop where
  pipeline : ∀ id, Interchange.Alike R (s.pipeline id) (t.pipeline id)
  catalog : Interchange.Alike R s.catalog t.catalog
  system : ∀ code, Interchange.Alike R (s.system code) (t.system code)
  lookup : ∀ table key, Interchange.Alike R (s.lookup table key) (t.lookup table key)
  send : ∀ r, Interchange.Alike R (s.send r) (t.send r)
  settings : s.settings = t.settings
  environment : s.environment = t.environment

namespace Alike

/-- An answer that is given without asking. -/
theorem pure (x : α) : Alike R (pure x) (pure x) :=
  fun _ _ related => ⟨rfl, related⟩

/-- Actions that are alike may follow one another.  The next ones begin with the same answer, and in
related states. -/
theorem bind {a : StateM σ α} {b : StateM τ α} {f : α → StateM σ β} {g : α → StateM τ β}
    (first : Alike R a b) (next : ∀ x, Alike R (f x) (g x)) : Alike R (a >>= f) (b >>= g) := by
  intro s t related
  obtain ⟨answer, after⟩ := first s t related
  show ((f (a.run s).1).run (a.run s).2).1 = ((g (b.run t).1).run (b.run t).2).1 ∧
    R ((f (a.run s).1).run (a.run s).2).2 ((g (b.run t).1).run (b.run t).2).2
  rw [answer]
  exact next _ _ _ after

/-- An action that the other side has nothing to set against may come first if it keeps states
related.  What is known of its answer is `P`. -/
theorem bind_left {P : α → Prop} {a : StateM σ α} {f : α → StateM σ β} {b : StateM τ β}
    (first : ∀ s t, R s t → P (a.run s).1 ∧ R (a.run s).2 t)
    (next : ∀ x, P x → Alike R (f x) b) : Alike R (a >>= f) b := by
  intro s t related
  obtain ⟨known, after⟩ := first s t related
  show ((f (a.run s).1).run (a.run s).2).1 = (b.run t).1 ∧
    R ((f (a.run s).1).run (a.run s).2).2 (b.run t).2
  exact next _ known _ _ after

/-- The same for an action of whose answer nothing need be known. -/
theorem after_left {a : StateM σ α} {f : α → StateM σ β} {b : StateM τ β}
    (first : ∀ s t, R s t → R (a.run s).2 t) (next : ∀ x, Alike R (f x) b) :
    Alike R (a >>= f) b :=
  bind_left (P := fun _ => True) (fun s t related => ⟨trivial, first s t related⟩)
    fun x _ => next x

end Alike

/-! ### Mappings -/

section Mappings

variable {r : Resolver σ} {q : Resolver τ}

/-- Among the transformations only a lookup asks anything. -/
theorem Transformation.apply_alike (same : ∀ table key, Alike R (r table key) (q table key))
    (t : Transformation) (v context : Value) :
    Alike R (t.apply r v context) (t.apply q v context) := by
  unfold apply
  cases t with
  | lookup table notFound =>
      refine (same table v.toText).bind fun answer => ?_
      rcases answer with fault | _ | found <;> exact .pure _
  | _ => exact .pure _

/-- **A field has the same report** with resolvers that are alike. -/
theorem FieldMapping.run_alike (same : ∀ table key, Alike R (r table key) (q table key))
    (f : FieldMapping) (source context : Value) :
    Alike R (f.run r source context) (f.run q source context) := by
  unfold FieldMapping.run
  split
  · exact .pure _
  · cases source.present? f.sourcePath with
    | none => exact .pure _
    | some v =>
        refine (f.transformation.apply_alike same v context).bind fun answer => ?_
        rcases answer with e | w <;> exact .pure _

/-- The fields of a mapping, whatever the fields before them have written and told. -/
theorem Mapping.runFields_alike (same : ∀ table key, Alike R (r table key) (q table key))
    (source : Value) (policy : RequiredPolicy) (fields : List FieldMapping) :
    ∀ (output : Value) (reports : List FieldReport),
      Alike R (runFields r source policy fields output reports)
        (runFields q source policy fields output reports) := by
  induction fields with
  | nil => intro output reports; exact .pure _
  | cons f fields ih =>
      intro output reports
      refine (f.run_alike same source source).bind fun report => ?_
      split
      · exact .pure _
      · exact ih _ _

/-- **A mapping has the same report**, or is stopped by the same field. -/
theorem Mapping.run_alike (same : ∀ table key, Alike R (r table key) (q table key)) (m : Mapping)
    (source : Value) (policy : RequiredPolicy) :
    Alike R (m.run r source policy) (m.run q source policy) := by
  refine (runFields_alike same source policy m.fields .empty []).bind fun answer => ?_
  rcases answer with path | ⟨output, reports⟩ <;> exact .pure _

end Mappings

/-! ### Calls -/

/-- A call sends the same request, if it can be made at all, and makes the same of the reply. -/
theorem ExternalSystem.invoke_alike {send : Transport σ} {transmit : Transport τ}
    (same : ∀ r, Alike R (send r) (transmit r)) (settings : CallSettings) (env : Environment)
    (system : ExternalSystem) (c : CallConfig) (context : Value) :
    Alike R (system.invoke send settings env c context)
      (system.invoke transmit settings env c context) := by
  unfold invoke
  cases system.request settings env c context with
  | error e => exact .pure _
  | ok r => exact (same r).bind fun outcome => .pure _

/-! ### Steps and runs -/

namespace Services.Alike

variable {s : Services σ} {t : Services τ}

/-- The mappings of one step, whatever those before them have made of the context. -/
theorem runMappings (alike : s.Alike R t) (source : Value → Value) (ms : List Mapping) :
    ∀ (context : Value) (told : List Value),
      Interchange.Alike R (s.runMappings source ms context told)
        (t.runMappings source ms context told) := by
  induction ms with
  | nil => intro context told; exact .pure _
  | cons m ms ih =>
      intro context told
      unfold Services.runMappings
      split
      · exact ih _ _
      · refine (m.run_alike alike.lookup (source context) .abort).bind fun answer => ?_
        rcases answer with path | r
        · exact .pure _
        · exact ih _ _

/-- A step that maps, in either direction. -/
theorem map (alike : s.Alike R t) (p : Pipeline) (d : Direction) (source : Value → Value)
    (context : Value) :
    Interchange.Alike R (s.map p d source context) (t.map p d source context) := by
  refine (alike.runMappings source (p.mappingsFor d) context []).bind fun answer => ?_
  rcases answer with e | ⟨context, told⟩ <;> exact .pure _

/-- A step that enriches the context with what it looks up. -/
theorem enrich (alike : s.Alike R t) (ls : List EnrichLookup) :
    ∀ (context : Value) (notes : EnrichNotes),
      Interchange.Alike R (s.enrich ls context notes) (t.enrich ls context notes) := by
  induction ls with
  | nil => intro context notes; exact .pure _
  | cons l ls ih =>
      intro context notes
      unfold Services.enrich
      cases context.present? l.sourceField with
      | none => exact ih _ _
      | some v =>
          refine (alike.lookup l.table v.toText).bind fun answer => ?_
          rcases answer with fault | _ | found
          · exact .pure _
          · exact ih _ _
          · exact ih _ _

/-- A step that calls a system, which it has to find first. -/
theorem call (alike : s.Alike R t) (c : CallConfig) (context : Value) :
    Interchange.Alike R (s.call c context) (t.call c context) := by
  unfold Services.call
  rw [alike.settings, alike.environment]
  refine (alike.system c.system).bind fun answer => ?_
  rcases answer with e | _ | system
  · exact .pure _
  · exact .pure _
  · refine (system.invoke_alike alike.send _ _ c context).bind fun reply => ?_
    rcases reply with e | i <;> exact .pure _

/-- **A step comes to the same**, of whatever kind it is.  Those that ask nothing are the same by
themselves. -/
theorem runStep (alike : s.Alike R t) (p : Pipeline) (step : Step) (context : Value) :
    Interchange.Alike R (s.runStep p step context) (t.runStep p step context) := by
  unfold Services.runStep
  cases step.kind with
  | mapRequest => exact alike.map p .request _ context
  | mapResponse => exact alike.map p .response _ context
  | callSystem c => exact alike.call c context
  | enrich lookups =>
      refine (alike.enrich lookups context _).bind fun answer => ?_
      rcases answer with e | ⟨context, notes⟩ <;> exact .pure _
  | validate | applyRules | applyResponseRules | mockResponse | unsupported => exact .pure _

/-- The steps of a run, whatever those before them have come to. -/
theorem runSteps (alike : s.Alike R t) (p : Pipeline) (input : Value) (steps : List Step) :
    ∀ (context : Value) (told : List StepReport),
      Interchange.Alike R (s.runSteps p input steps context told)
        (t.runSteps p input steps context told) := by
  induction steps with
  | nil => intro context told; exact .pure _
  | cons step steps ih =>
      intro context told
      refine (alike.runStep p step context).bind fun answer => ?_
      rcases answer with e | progress
      · exact .pure _
      · exact ih _ _

/-- **A run has the same report.** -/
theorem runPipeline (alike : s.Alike R t) (p : Pipeline) (input : Value) :
    Interchange.Alike R (s.runPipeline p input) (t.runPipeline p input) :=
  alike.runSteps p input p.activeSteps input []

/-- **A run by the id of a pipeline** has the same report, or the same error. -/
theorem execute (alike : s.Alike R t) (id : String) (input : Value) :
    Interchange.Alike R (s.execute id input) (t.execute id input) := by
  refine (alike.pipeline id).bind fun answer => ?_
  rcases answer with e | _ | p
  · exact .pure _
  · exact .pure _
  · dsimp only
    split
    · exact (alike.runPipeline p input).bind fun report => .pure _
    · exact .pure _

/-- The same pipeline is chosen for a request. -/
theorem route (alike : s.Alike R t) (q : RouteRequest) :
    Interchange.Alike R (s.route q) (t.route q) := by
  refine alike.catalog.bind fun answer => ?_
  rcases answer with e | ps <;> exact .pure _

/-- **A run that is routed** has the same report, or the same error. -/
theorem executeRouted (alike : s.Alike R t) (q : RouteRequest) (input : Value) :
    Interchange.Alike R (s.executeRouted q input) (t.executeRouted q input) := by
  refine (alike.route q).bind fun answer => ?_
  rcases answer with e | _ | selected
  · exact .pure _
  · exact .pure _
  · exact alike.execute selected.pipelineId input

end Services.Alike

end Interchange
