import Interchange.Pipeline.Run
import Interchange.Proofs.Mapping.Policies
import Interchange.Proofs.Path.Frame
/-!
# What mapping steps leave alone

A mapping writes what its fields produce into a fresh object, which is then merged into the context.
In the fresh object a target path has nothing but objects on its way, so a segment that is an index
names a member of an object there.  Where the context has a list in that place, the object is not
merged into the list but put in its stead, and all that the list holds elsewhere is gone.

* `Services.Maps` — the mappings of a step with their reports, as a relation.
* `MappingReport.written` — where a mapping wrote.
* `Services.mapping_step_keeps_iff` — a value that no target path overlaps is kept exactly if no
  mapping wrote into a list that the value stands in.
-/

namespace Interchange

/-- The places that the active mappings of one direction may write to. -/
def Pipeline.targets (p : Pipeline) (d : Direction) : List (List String) :=
  (p.mappingsFor d).flatMap fun m => m.fields.map fun f => Path.segments f.targetPath

/-- The places that a mapping has written to. -/
def MappingReport.written (r : MappingReport) : List (List String) :=
  (r.fields.filter FieldReport.producedOutput).map fun f => Path.segments f.targetPath

/-- Whether the ways to two places lead through one list of the document. -/
def Value.ListOnWay (v : Value) (t q : List String) : Prop :=
  ∃ a, a <+: t ∧ a <+: q ∧ v.HasListAt a

/-- The direction of the mappings of a step, and the part of the context that they read. -/
def StepKind.mapping? : StepKind → Option (Direction × (Value → Value))
  | .mapRequest => some (.request, fun context => context)
  | .mapResponse => some (.response, responseOf)
  | _ => none

/-- **The mappings of a step**, run one after the other: the context and the state of the world
before, the reports, and the context and the state of the world after. -/
inductive Services.Maps {σ : Type} (s : Services σ) (source : Value → Value) :
    List Mapping → Value → σ → List MappingReport → Value → σ → Prop
  | done {context : Value} {st : σ} : Maps s source [] context st [] context st
  /-- A mapping without fields is passed over. -/
  | pass {m : Mapping} {ms : List Mapping} {context final : Value} {st after : σ}
      {reports : List MappingReport} (idle : m.fields = [])
      (rest : Maps s source ms context st reports final after) :
      Maps s source (m :: ms) context st reports final after
  /-- What a mapping produces is merged into the context. -/
  | merge {m : Mapping} {ms : List Mapping} {context final : Value} {st next after : σ}
      {r : MappingReport} {reports : List MappingReport} (busy : m.fields ≠ [])
      (ran : (m.run s.lookup (source context) .abort).run st = (.ok r, next))
      (rest : Maps s source ms ((asObject context).merge r.output) next reports final after) :
      Maps s source (m :: ms) context st (r :: reports) final after

/-! ### The output of a mapping -/

/-- Fields that write elsewhere keep their output short of a place, and reach of the way to it what
lies on the way to a place that was written. -/
theorem writeAll_spec {q : List String} {reports : List FieldReport} :
    ∀ {output : Value}, output.StopsShortOf q →
      (∀ r ∈ reports, ¬ Path.Overlap (Path.segments r.targetPath) q) →
      (writeAll reports output).StopsShortOf q ∧
        ∀ a, a <+: q → (((writeAll reports output).get? a).isSome ↔ (output.get? a).isSome ∨
          ∃ r ∈ reports, r.producedOutput = true ∧ a <+: Path.segments r.targetPath) := by
  induction reports with
  | nil =>
      intro output short _
      exact ⟨short, fun a _ => by simp [writeAll]⟩
  | cons r reports ih =>
      intro output short apart
      have later : ∀ r' ∈ reports, ¬ Path.Overlap (Path.segments r'.targetPath) q :=
        fun r' member => apart r' (List.mem_cons_of_mem _ member)
      change (writeAll reports (r.writeTo output)).StopsShortOf q ∧ ∀ a, a <+: q →
        (((writeAll reports (r.writeTo output)).get? a).isSome ↔ _)
      rcases r.writeTo_eq with ⟨unwritten, same⟩ | ⟨written, v, set⟩
      · rw [same]
        obtain ⟨shortAfter, reached⟩ := ih short later
        refine ⟨shortAfter, fun a lead => ?_⟩
        rw [reached a lead]
        simp [unwritten]
      · rw [set]
        obtain ⟨shortNext, reachedNext⟩ := short.set v (apart r (by simp))
        obtain ⟨shortAfter, reached⟩ := ih shortNext later
        refine ⟨shortAfter, fun a lead => ?_⟩
        rw [reached a lead, reachedNext a lead]
        simp [written, or_assoc]

theorem MappingReport.exists_written {r : MappingReport} {P : List String → Prop} :
    (∃ t ∈ r.written, P t) ↔
      ∃ f ∈ r.fields, f.producedOutput = true ∧ P (Path.segments f.targetPath) := by
  constructor
  · rintro ⟨t, member, holds⟩
    obtain ⟨f, kept, rfl⟩ := List.mem_map.mp member
    obtain ⟨inside, produced⟩ := List.mem_filter.mp kept
    exact ⟨f, inside, produced, holds⟩
  · rintro ⟨f, inside, produced, holds⟩
    exact ⟨_, List.mem_map.mpr ⟨f, List.mem_filter.mpr ⟨inside, produced⟩, rfl⟩, holds⟩

/-- A mapping enters a list on the way to a place exactly if it wrote into that list. -/
theorem entersList_output_iff {r : MappingReport} {context : Value} {q : List String}
    (object : context.isObject = true) (output : r.output = writeAll r.fields .empty)
    (apart : ∀ f ∈ r.fields, ¬ Path.Overlap (Path.segments f.targetPath) q) (deep : q ≠ []) :
    r.output.StopsShortOf q ∧
      (context.EntersList r.output q ↔ ∃ t ∈ r.written, context.ListOnWay t q) := by
  obtain ⟨short, reached⟩ := writeAll_spec (Value.stopsShortOf_empty deep) apart
  rw [← output] at short reached
  refine ⟨short, ?_⟩
  constructor
  · rintro ⟨a, lead, inOutput, listThere⟩
    rcases (reached a lead).mp inOutput with inEmpty | wrote
    · -- Of an empty object only the root is there, and the context is no list.
      have root : a = [] := by
        cases a with
        | nil => rfl
        | cons k a => simp [Value.get?, Value.child?, Value.empty, Table.get?] at inEmpty
      subst root
      cases context with
      | obj ms => exact absurd listThere Value.HasListAt.not_obj
      | _ => simp [Value.isObject] at object
    · obtain ⟨t, member, onWay⟩ := MappingReport.exists_written.mpr wrote
      exact ⟨t, member, a, onWay, lead, listThere⟩
  · rintro ⟨t, member, a, onWay, lead, listThere⟩
    have wrote := MappingReport.exists_written.mp ⟨t, member, onWay⟩
    exact ⟨a, lead, (reached a lead).mpr (.inr wrote), listThere⟩

/-! ### The mappings of a step -/

namespace Services

variable {σ : Type} {s : Services σ} {source : Value → Value}

theorem maps_of_runMappings {ms : List Mapping} :
    ∀ {context final : Value} {told all : List Value} {st after : σ},
      (s.runMappings source ms context told).run st = (.ok (final, all), after) →
      ∃ reports, s.Maps source ms context st reports final after := by
  induction ms with
  | nil =>
      intro context final told all st after ran
      cases ran
      exact ⟨[], .done⟩
  | cons m ms ih =>
      intro context final told all st after ran
      rw [runMappings] at ran
      split at ran
      · next idle =>
          obtain ⟨reports, maps⟩ := ih ran
          exact ⟨reports, .pass (List.isEmpty_iff.mp idle) maps⟩
      · next busy =>
          rw [StateT.run_bind] at ran
          rcases mapped : (m.run s.lookup (source context) .abort).run st with ⟨path | r, next⟩
          · rw [mapped] at ran
            cases ran
          · rw [mapped] at ran
            obtain ⟨reports, maps⟩ := ih ran
            exact ⟨r :: reports, .merge (fun none => busy (by simp [none])) mapped maps⟩

/-- **What a run of mappings does to a place** that no target path overlaps: what is missing stays
missing, and a value stays exactly if no mapping wrote into a list that it stands in. -/
theorem Maps.keeps_iff {ms : List Mapping} {context final : Value} {st after : σ}
    {reports : List MappingReport} (maps : s.Maps source ms context st reports final after)
    {q : List String} (object : context.isObject = true)
    (apart : ∀ m ∈ ms, ∀ f ∈ m.fields, ¬ Path.Overlap (Path.segments f.targetPath) q) :
    (context.get? q = none → final.get? q = none) ∧
      ∀ v, context.get? q = some v →
        (final.get? q = some v ↔ ∀ r ∈ reports, ∀ t ∈ r.written, ¬ context.ListOnWay t q) := by
  induction maps with
  | done => exact ⟨fun absent => absent, fun v held => by simp [held]⟩
  | pass idle rest ih =>
      exact ih object fun m member => apart m (List.mem_cons_of_mem _ member)
  | @merge m ms context final st next after r reports busy ran rest ih =>
      have later : ∀ m' ∈ ms, ∀ f ∈ m'.fields, ¬ Path.Overlap (Path.segments f.targetPath) q :=
        fun m' member => apart m' (List.mem_cons_of_mem _ member)
      obtain ⟨output, targets⟩ := Mapping.run_ok ran
      have apartHere : ∀ f ∈ r.fields, ¬ Path.Overlap (Path.segments f.targetPath) q := by
        intro f member
        have inTargets : f.targetPath ∈ m.fields.map FieldMapping.targetPath :=
          targets ▸ List.mem_map_of_mem member
        obtain ⟨g, inside, same⟩ := List.mem_map.mp inTargets
        exact same ▸ apart m (by simp) g inside
      have deep : q ≠ [] := by
        rintro rfl
        obtain ⟨f, inside⟩ := List.exists_mem_of_ne_nil _ busy
        exact apart m (by simp) f inside Path.overlap_nil_right
      obtain ⟨short, enters⟩ := entersList_output_iff object output apartHere deep
      rw [asObject, if_pos object] at ih
      obtain ⟨absentAfter, keptAfter⟩ := ih (Value.isObject_merge object short) later
      refine ⟨fun absent => absentAfter (Value.get?_merge_of_none short absent), fun v held => ?_⟩
      by_cases entered : context.EntersList r.output q
      · have lost := absentAfter (Value.get?_merge_of_enters short entered)
        obtain ⟨t, member, onWay⟩ := enters.mp entered
        rw [lost]
        exact iff_of_false (by simp) fun none => none r (by simp) t member onWay
      · obtain ⟨kept, lists⟩ := Value.get?_merge_of_passes short held entered
        have same : ∀ t, (context.merge r.output).ListOnWay t q ↔ context.ListOnWay t q := by
          intro t
          exact exists_congr fun a => and_congr_right fun _ => and_congr_right fun lead =>
            lists a lead
        rw [keptAfter v kept, List.forall_mem_cons]
        have here : ∀ t ∈ r.written, ¬ context.ListOnWay t q :=
          fun t member onWay => entered (enters.mpr ⟨t, member, onWay⟩)
        simp only [same]
        exact (and_iff_right here).symm

/-- A step that maps runs the mappings of its direction. -/
theorem maps_of_runStep {p : Pipeline} {step : Step} {d : Direction} {context : Value}
    {start after : σ} {progress : Progress} (maps : step.kind.mapping? = some (d, source))
    (ran : (s.runStep p step context).run start = (.ok progress, after)) :
    ∃ reports, s.Maps source (p.mappingsFor d) context start reports progress.context after := by
  have mapped : (s.map p d source context).run start = (.ok progress, after) := by
    rw [runStep] at ran
    cases kind : step.kind <;> rw [kind] at maps ran <;> cases maps <;> exact ran
  rw [map, StateT.run_bind] at mapped
  rcases all : (s.runMappings source (p.mappingsFor d) context []).run start
    with ⟨e | ⟨final, told⟩, next⟩
  · rw [all] at mapped
    cases mapped
  · rw [all] at mapped
    cases mapped
    exact maps_of_runMappings all

/-- Mappings write to target paths of their direction only. -/
theorem Maps.written_subset {ms : List Mapping} {context final : Value} {st after : σ}
    {reports : List MappingReport} (maps : s.Maps source ms context st reports final after) :
    ∀ r ∈ reports, ∀ t ∈ r.written,
      t ∈ ms.flatMap fun m => m.fields.map fun f => Path.segments f.targetPath := by
  induction maps with
  | done => intro r member; cases member
  | pass idle rest ih =>
      intro r member t written
      rw [List.flatMap_cons]
      exact List.mem_append_right _ (ih r member t written)
  | merge busy ran rest ih =>
      intro r member t written
      rw [List.flatMap_cons]
      rcases List.mem_cons.mp member with rfl | later
      · refine List.mem_append_left _ ?_
        obtain ⟨f, kept, rfl⟩ := List.mem_map.mp written
        have inTargets := List.mem_map_of_mem (f := FieldReport.targetPath)
          (List.mem_filter.mp kept).1
        rw [(Mapping.run_ok ran).2] at inTargets
        obtain ⟨g, inside, same⟩ := List.mem_map.mp inTargets
        exact List.mem_map.mpr ⟨g, inside, by rw [same]⟩
      · exact List.mem_append_right _ (ih r later t written)

/-- **What mapping steps keep.**  A step that succeeds runs the mappings of its direction, which
write to their target paths only.  A value that no target path overlaps is kept by it exactly if no
mapping wrote into a list of the context that the value stands in: if, wherever the way to a place
that was written runs along the way to the value, it runs through objects. -/
theorem mapping_step_keeps_iff {p : Pipeline} {step : Step} {d : Direction} {context : Value}
    {start after : σ} {progress : Progress} (maps : step.kind.mapping? = some (d, source))
    (object : context.isObject = true)
    (ran : (s.runStep p step context).run start = (.ok progress, after)) :
    ∃ reports, s.Maps source (p.mappingsFor d) context start reports progress.context after ∧
      (∀ r ∈ reports, ∀ t ∈ r.written, t ∈ p.targets d) ∧
      ∀ q v, context.get? q = some v → (∀ t ∈ p.targets d, ¬ Path.Overlap t q) →
        (progress.context.get? q = some v ↔
          ∀ r ∈ reports, ∀ t ∈ r.written, ¬ context.ListOnWay t q) := by
  obtain ⟨reports, all⟩ := maps_of_runStep maps ran
  refine ⟨reports, all, all.written_subset, fun q v held apart => ?_⟩
  refine (all.keeps_iff object fun m member f inside => apart _ ?_).2 v held
  exact List.mem_flatMap.mpr ⟨m, member, List.mem_map.mpr ⟨f, inside, rfl⟩⟩

end Services

/-! ### A mapping into a list -/

/-- A world without pipelines, systems and tables. -/
def Services.absent : Services Unit where
  pipeline _ := pure (.ok none)
  catalog := pure (.ok [])
  system _ := pure (.ok none)
  lookup _ _ := pure (.ok none)
  send _ := pure .timedOut
  settings := .standard
  environment _ := none

/-- A pipeline that maps an age to the first of the drivers. -/
def firstDriverAge : Pipeline :=
  { Pipeline.named "quote" with
    mappings := [⟨"age", "age", .request, true, [.ofPaths "age" "drivers[0].age" .direct]⟩] }

/-- A context with two drivers. -/
def twoDrivers : Value :=
  .obj [("age", .ofInt 30),
    ("drivers", .list [.obj [("name", .str "Ann")], .obj [("name", .str "Bo")]]),
    ("state", .str "CA")]

namespace Services

/-- The age of the first driver is written over the list of the drivers, and the second is lost. -/
theorem second_driver_lost :
    let step := Step.ofKind 1 .mapRequest none true
    ∃ progress, (absent.runStep firstDriverAge step twoDrivers).run () = (.ok progress, ()) ∧
      (∀ t ∈ firstDriverAge.targets .request, ¬ Path.Overlap t ["drivers", "1", "name"]) ∧
      twoDrivers.get? ["drivers", "1", "name"] = some (.str "Bo") ∧
      progress.context.get? ["drivers", "1", "name"] = none := by
  intro step
  refine ⟨_, rfl, ?_, by decide +kernel, by decide +kernel⟩
  have targets : firstDriverAge.targets .request = [["drivers", "0", "age"]] := by decide +kernel
  rw [targets]
  simp [Path.Overlap]

/-- In the same run, the state stays, since the way to it has no list in common with the way to the
age. -/
theorem state_kept :
    let step := Step.ofKind 1 .mapRequest none true
    ∃ progress, (absent.runStep firstDriverAge step twoDrivers).run () = (.ok progress, ()) ∧
      step.kind.mapping? = some (.request, fun context => context) ∧
      twoDrivers.isObject = true ∧ progress.context.get? ["state"] = some (.str "CA") := by
  intro step
  have maps : step.kind.mapping? = some (.request, fun context => context) := rfl
  have object : twoDrivers.isObject = true := rfl
  have ran : (absent.runStep firstDriverAge step twoDrivers).run () = (.ok _, ()) := rfl
  refine ⟨_, ran, maps, object, ?_⟩
  have targets : firstDriverAge.targets .request = [["drivers", "0", "age"]] := by decide +kernel
  obtain ⟨reports, -, within, keeps⟩ := mapping_step_keeps_iff maps object ran
  refine (keeps ["state"] (.str "CA") (by decide +kernel) ?_).mpr ?_
  · rw [targets]
    simp [Path.Overlap]
  · intro r member t written
    have place := within r member t written
    rw [targets, List.mem_singleton] at place
    rintro ⟨a, onWay, lead, listThere⟩
    cases a with
    | nil => exact Value.HasListAt.not_obj listThere
    | cons k a =>
        rw [place] at onWay
        have drivers := (List.cons_prefix_cons.mp onWay).1
        have state := (List.cons_prefix_cons.mp lead).1
        rw [drivers] at state
        exact absurd state (by decide)

end Services

end Interchange
