import Interchange.Proofs.Cache.Transparency
import Interchange.Proofs.Mapping.Policies
import Interchange.Proofs.Path.Lens
/-!
# The order of fields

A field reads the source document and the lookup tables, and never what another field has written.
So the report on it does not depend on the fields before it, as long as the tables do not change
while a mapping runs.  A store that is asked for the tables may fail at any time, and if it fails
after its first answer, the order of two fields shows in which of them has got it.  The output is
built from an empty object by writing alone.  On the way to a target there is then nothing but
objects that were made on the way to other targets, so that two writes may be exchanged, also where
their segments look like indices; and as there are no lists, no write can panic.

* `Resolver.Steady` — tables that do not change; `Bundle.steady_lookup_cached` says that those of a
  bundle are steady even behind caches.
* `writeAll_perm` — what is written at places that lie apart may be written in any order.
* `FieldRuns.eq_map` — each field has one report, wherever it stands.
* `Mapping.run_perm` — so the order of the fields of a mapping makes no difference.
* `Mapping.order_shows` — but it does if the store fails.
-/

namespace Interchange

/-! ### What is written apart -/

/-- The place that a field is to be written to. -/
def FieldMapping.target (f : FieldMapping) : List String := Path.segments f.targetPath

/-- The place that a report belongs to. -/
def FieldReport.target (r : FieldReport) : List String := Path.segments r.targetPath

/-- **Places that lie apart**: none is the whole document, and none lies in another one. -/
structure Path.Apart (places : List (List String)) : Prop where
  deep : ∀ p ∈ places, p ≠ []
  apart : places.Pairwise fun p q => ¬ Overlap p q

instance (places : List (List String)) : Decidable (Path.Apart places) :=
  decidable_of_iff ((∀ p ∈ places, p ≠ []) ∧ places.Pairwise fun p q => ¬ Path.Overlap p q)
    ⟨fun ⟨deep, apart⟩ => ⟨deep, apart⟩, fun ⟨deep, apart⟩ => ⟨deep, apart⟩⟩

namespace FieldReport

/-- **A report that fits in with an output**: the output ends before the place that it belongs to.
-/
structure Fits (r : FieldReport) (output : Value) : Prop where
  short : output.StopsShortOf r.target

variable {r r' : FieldReport} {output : Value}

/-- What is written elsewhere leaves room for a report. -/
theorem Fits.writeTo (fits : r'.Fits output) (apart : ¬ Path.Overlap r.target r'.target) :
    r'.Fits (r.writeTo output) := by
  rcases r.writeTo_eq with ⟨-, same⟩ | ⟨-, v, set⟩
  · rwa [same]
  · rw [set]
    exact ⟨(fits.short.set v apart).1⟩

/-- It can be written. -/
theorem Fits.tryWriteTo (fits : r.Fits output) : r.tryWriteTo output = .ok (r.writeTo output) := by
  rw [r.tryWriteTo_eq_elim, r.writeTo_eq_elim]
  cases write : r.write? with
  | none => rfl
  | some w =>
      have path : w.1 = r.targetPath := r.path_of_write? write
      refine Value.checkedWrite_eq_ok ?_ w.2
      rw [path]
      exact fits.short.sites_eq_nil ▸ nofun

/-- What is written for two reports may be exchanged. -/
theorem Fits.writeTo_comm (fits : r.Fits output) (fits' : r'.Fits output)
    (apart : ¬ Path.Overlap r.target r'.target) :
    r'.writeTo (r.writeTo output) = r.writeTo (r'.writeTo output) := by
  rcases r.writeTo_eq with ⟨-, same⟩ | ⟨-, v, set⟩
  · rw [same, same]
  · rcases r'.writeTo_eq with ⟨-, same'⟩ | ⟨-, v', set'⟩
    · rw [same', same']
    · rw [set, set', set', set]
      exact fits.short.set_comm apart v v' fits'.short

end FieldReport

/-- **What is written for reports** whose places lie apart does not depend on their order. -/
theorem writeAll_perm {rs rs' : List FieldReport} (perm : rs.Perm rs') :
    ∀ {output : Value}, (∀ r ∈ rs, r.Fits output) →
      (rs.Pairwise fun r r' => ¬ Path.Overlap r.target r'.target) →
      writeAll rs output = writeAll rs' output := by
  -- Two writes may be exchanged only in an output that both reports fit in with, and all that are
  -- still to be written do.
  induction perm with
  | nil =>
      intro output _ _
      rfl
  | cons r _ ih =>
      intro output fits apart
      obtain ⟨here, later⟩ := List.pairwise_cons.mp apart
      rw [writeAll_cons, writeAll_cons]
      refine ih (fun r' member => ?_) later
      exact (fits r' (List.mem_cons_of_mem _ member)).writeTo (here r' member)
  | swap r r' rs =>
      intro output fits apart
      have parted := (List.pairwise_cons.mp apart).1 r (by simp)
      rw [writeAll_cons, writeAll_cons, writeAll_cons, writeAll_cons,
        (fits r' (by simp)).writeTo_comm (fits r (by simp)) parted]
  | trans first _ ih ih' =>
      intro output fits apart
      rw [ih fits apart]
      refine ih' (fun r member => fits r (first.mem_iff.mpr member)) ?_
      exact (first.pairwise_iff fun parted overlap => parted overlap.symm).mp apart

/-- All of it can be written. -/
theorem tryWriteAll_of_fits {rs : List FieldReport} {output : Value}
    (fits : ∀ r ∈ rs, r.Fits output)
    (apart : rs.Pairwise fun r r' => ¬ Path.Overlap r.target r'.target) :
    tryWriteAll rs output = .ok (writeAll rs output) := by
  induction rs generalizing output with
  | nil => rfl
  | cons r rs ih =>
      obtain ⟨here, later⟩ := List.pairwise_cons.mp apart
      rw [tryWriteAll_cons, writeAll_cons, (fits r List.mem_cons_self).tryWriteTo]
      exact ih (fun r' member => (fits r' (List.mem_cons_of_mem _ member)).writeTo (here r' member))
        later

/-! ### Tables that do not change -/

section Tables

variable {σ τ : Type}

/-- **The states of a resolver** that it can come to from a state by answering questions. -/
inductive Resolver.Reaches (resolver : Resolver σ) (s : σ) : σ → Prop
  | start : Reaches resolver s s
  | ask {t : σ} (reached : Reaches resolver s t) (table key : String) :
      Reaches resolver s ((resolver table key).run t).2

/-- **A resolver of tables that do not change**: whatever it has been asked before, its answer
depends on the table and the key alone.  It may carry a state, but that does not show. -/
def Resolver.Steady (resolver : Resolver σ) (s : σ) : Prop :=
  ∀ t, resolver.Reaches s t → ∀ table key,
    ((resolver table key).run t).1 = ((resolver table key).run s).1

namespace Resolver

variable {resolver : Resolver σ} {s : σ}

/-- Tables that are held as they are do not change. -/
theorem steady_tables (t : Tables) (s : σ) : (t.resolver : Resolver σ).Steady s :=
  fun _ _ _ _ => rfl

/-- A resolver that answers like a steady one is steady. -/
theorem Steady.of_alike {R : σ → τ → Prop} {other : Resolver τ} {t : τ} (steady : other.Steady t)
    (alike : ∀ table key, Alike R (resolver table key) (other table key)) (related : R s t) :
    resolver.Steady s := by
  have follows : ∀ s', resolver.Reaches s s' → ∃ t', other.Reaches t t' ∧ R s' t' := by
    intro s' reached
    induction reached with
    | start => exact ⟨t, .start, related⟩
    | ask _ table key ih =>
        obtain ⟨t', reached', related'⟩ := ih
        exact ⟨_, reached'.ask table key, (alike table key _ _ related').2⟩
  intro s' reached table key
  obtain ⟨t', reached', related'⟩ := follows s' reached
  calc ((resolver table key).run s').1
      = ((other table key).run t').1 := (alike table key _ _ related').1
    _ = ((other table key).run t).1 := steady t' reached' table key
    _ = ((resolver table key).run s).1 := (alike table key _ _ related).1.symm

/-- As long as a steady resolver is only asked, nobody can tell its states apart. -/
theorem Steady.alike (steady : resolver.Steady s) (table key : String) :
    Alike (fun t t' => resolver.Reaches s t ∧ resolver.Reaches s t') (resolver table key)
      (resolver table key) := by
  rintro t t' ⟨reached, reached'⟩
  refine ⟨?_, reached.ask table key, reached'.ask table key⟩
  rw [steady t reached, steady t' reached']

end Resolver

/-- The tables of a bundle do not change, also if they are read through caches. -/
theorem Bundle.steady_lookup_cached {ν : Type} {b : Bundle} {send : Transport τ}
    {settings : CallSettings} {env : Environment} {clock : τ → StateM ν Nat}
    {c : Cached (τ × ν)} {world : τ} (mirrors : c.Mirrors b world) :
    Resolver.Steady ((b.services send.besideClock settings env).cached (lookAt clock)).lookup c :=
  have alike := @Bundle.services_alike τ ν b send settings env clock
  (Resolver.steady_tables b.tables world).of_alike alike.lookup mirrors

/-! ### One report for each field -/

variable {resolver : Resolver σ} {source : Value} {s : σ}

/-- The report on a field that is run alone. -/
def FieldMapping.reportOn (resolver : Resolver σ) (source : Value) (s : σ) (f : FieldMapping) :
    FieldReport :=
  ((f.run resolver source source).run s).1

/-- A field that is run later has the same report, and leaves the resolver in a state that it can
come to. -/
theorem FieldMapping.run_of_steady (steady : resolver.Steady s) (f : FieldMapping) (source : Value)
    {t : σ} (reached : resolver.Reaches s t) :
    ((f.run resolver source source).run t).1 = f.reportOn resolver source s ∧
      resolver.Reaches s ((f.run resolver source source).run t).2 := by
  obtain ⟨same, after, -⟩ := f.run_alike steady.alike source source t s ⟨reached, .start⟩
  exact ⟨same, after⟩

/-- **Each field has one report**, whatever fields are run before it. -/
theorem FieldRuns.eq_map (steady : resolver.Steady s) {fields : List FieldMapping} {t last : σ}
    {rs : List FieldReport} (runs : FieldRuns resolver source fields t rs last)
    (reached : resolver.Reaches s t) :
    rs = fields.map (FieldMapping.reportOn resolver source s) := by
  induction runs with
  | done => rfl
  | @step f _ _ _ _ _ _ ran _ ih =>
      obtain ⟨same, after⟩ := f.run_of_steady steady source reached
      rw [ran] at same after
      rw [List.map_cons, ← same, ih after]

/-! ### The whole mapping -/

/-- **The same results for fields in another order**, if each field has a report of its own. -/
structure MappingReport.SameResults (report : FieldMapping → FieldReport) (r r' : MappingReport)
    (fields fields' : List FieldMapping) : Prop where
  mappingId : r.mappingId = r'.mappingId
  output : r.output = r'.output
  counts : ∀ status, r.countOf status = r'.countOf status
  /-- Every field has its report, -/
  reported : r.fields = fields.map report
  /-- wherever it stands. -/
  reported' : r'.fields = fields'.map report

/-- The report on a field belongs to the place of the field. -/
theorem FieldMapping.target_reportOn (f : FieldMapping) :
    (f.reportOn resolver source s).target = f.target := by
  have reports : f.Reports source (f.reportOn resolver source s) :=
    f.run_reports resolver source source s
  rw [FieldReport.target, reports.targetPath, FieldMapping.target]

/-- Fields with targets that lie apart fit in with an empty object, and lie apart themselves. -/
theorem Path.Apart.reportOn {fields : List FieldMapping}
    (apart : Path.Apart (fields.map FieldMapping.target)) (resolver : Resolver σ) (source : Value)
    (s : σ) :
    (∀ r ∈ fields.map (FieldMapping.reportOn resolver source s), r.Fits .empty) ∧
      (fields.map (FieldMapping.reportOn resolver source s)).Pairwise
        fun r r' => ¬ Path.Overlap r.target r'.target := by
  constructor
  · intro r member
    obtain ⟨f, inside, rfl⟩ := List.mem_map.mp member
    constructor
    rw [FieldMapping.target_reportOn]
    exact Value.stopsShortOf_empty (apart.deep _ (List.mem_map_of_mem inside))
  · rw [List.pairwise_map]
    simp only [FieldMapping.target_reportOn]
    exact List.pairwise_map.mp apart.apart

/-- Places lie apart in whatever order they are listed. -/
theorem Path.Apart.perm {places places' : List (List String)} (apart : Path.Apart places)
    (perm : places.Perm places') : Path.Apart places' where
  deep p member := apart.deep p (perm.mem_iff.mpr member)
  apart := (perm.pairwise_iff fun parted overlap => parted overlap.symm).mp apart.apart

/-- A mapping whose targets lie apart ends, with the reports that its fields have if they are run
alone. -/
theorem Mapping.tryRun_of_apart (m : Mapping) (steady : resolver.Steady s)
    (apart : Path.Apart (m.fields.map FieldMapping.target)) (source : Value) :
    ∃ last, (m.tryRun resolver source .continue).run s =
      .ok (.ok ⟨m.id, writeAll (m.fields.map (FieldMapping.reportOn resolver source s)) .empty,
        m.fields.map (FieldMapping.reportOn resolver source s)⟩, last) := by
  obtain ⟨rs, last, runs⟩ := exists_fieldRuns resolver source m.fields s
  obtain rfl := runs.eq_map steady .start
  obtain ⟨fits, parted⟩ := apart.reportOn resolver source s
  exact ⟨last, by rw [tryRun_continue runs, tryWriteAll_of_fits fits parted]; rfl⟩

/-- **The order of fields makes no difference** to a mapping that continues, if their targets lie
apart, and the lookup tables do not change while it runs: it ends with the same output, the same
counts, and for each field the report that it has if it is run alone. -/
theorem Mapping.run_perm (m : Mapping) {fields : List FieldMapping} (perm : m.fields.Perm fields)
    (resolver : Resolver σ) (source : Value) (s : σ) (steady : resolver.Steady s)
    (apart : Path.Apart (m.fields.map FieldMapping.target)) :
    ∃ r r' last last',
      (m.tryRun resolver source .continue).run s = .ok (.ok r, last) ∧
        ({ m with fields := fields }.tryRun resolver source .continue).run s = .ok (.ok r', last') ∧
        r.SameResults (FieldMapping.reportOn resolver source s) r' m.fields fields := by
  have apart' := apart.perm (perm.map FieldMapping.target)
  obtain ⟨last, ran⟩ := m.tryRun_of_apart steady apart source
  obtain ⟨last', ran'⟩ := { m with fields := fields }.tryRun_of_apart steady apart' source
  refine ⟨_, _, last, last', ran, ran', ?_⟩
  have reports := perm.map (FieldMapping.reportOn resolver source s)
  obtain ⟨fits, parted⟩ := apart.reportOn resolver source s
  exact {
    mappingId := rfl
    output := writeAll_perm reports fits parted
    counts := fun status => (reports.filter _).length_eq
    reported := rfl
    reported' := rfl }

/-- The class of a driver may be looked up before or after the ages are copied, and what is made on
the way to the first age serves the second one, in whatever order they are written. -/
theorem Mapping.drivers_in_either_order :
    let tables : Tables := [("classes", [("CA", .str "west")])]
    let source := Value.obj [("ages", .list [.str "44", .str "17"]), ("state", .str "CA")]
    let first := FieldMapping.ofPaths "ages[0]" "drivers[0].age" .direct
    let second := FieldMapping.ofPaths "ages[1]" "drivers[1].age" .direct
    let zone := FieldMapping.ofPaths "state" "drivers[0].zone" (.lookup "classes" none)
    let m : Mapping := ⟨"drivers", "", .request, true, [first, second, zone]⟩
    m.fields.Perm [zone, second, first] ∧
      (tables.resolver : Resolver Unit).Steady () ∧
      Path.Apart (m.fields.map FieldMapping.target) ∧
      ∃ r r' last last',
        (m.tryRun tables.resolver source .continue).run () = .ok (.ok r, last) ∧
          ({ m with fields := [zone, second, first] }.tryRun tables.resolver source .continue).run
            () = .ok (.ok r', last') ∧
          r.SameResults (FieldMapping.reportOn tables.resolver source ()) r' m.fields
            [zone, second, first] := by
  intro tables source first second zone m
  have perm : m.fields.Perm [zone, second, first] := List.reverse_perm [zone, second, first]
  have steady : (tables.resolver : Resolver Unit).Steady () := Resolver.steady_tables tables ()
  have apart : Path.Apart (m.fields.map FieldMapping.target) := by decide +kernel
  exact ⟨perm, steady, apart, m.run_perm perm tables.resolver source () steady apart⟩

/-- A store answers once and then fails.  Of two fields that ask it the same question and are
written to two members of the output, the one that is run first gets the answer. -/
theorem Mapping.order_shows :
    let store : Resolver Bool := fun _ _ failing =>
      (if failing then .error (.unavailable "timed out") else .ok (some (.str "west")), true)
    let zone := FieldMapping.ofPaths "state" "zone" (.lookup "zones" none)
    let region := FieldMapping.ofPaths "state" "region" (.lookup "zones" none)
    let source := Value.obj [("state", .str "CA")]
    let m : Mapping := ⟨"m", "", .request, true, [zone, region]⟩
    m.fields.Perm [region, zone] ∧ Path.Apart (m.fields.map FieldMapping.target) ∧
      ∃ r r' last last',
        (m.tryRun store source .continue).run false = .ok (.ok r, last) ∧
          ({ m with fields := [region, zone] }.tryRun store source .continue).run false =
            .ok (.ok r', last') ∧
          r.output = .obj [("zone", .str "west")] ∧
          r'.output = .obj [("region", .str "west")] := by
  intro store zone region source m
  have runs := @FieldRuns.next Bool store source zone _ _ false _ (.next region .done)
  have runs' := @FieldRuns.next Bool store source region _ _ false _ (.next zone .done)
  have ran := @tryRun_of_writesFit Bool store source m _ _ _ runs (by decide +kernel)
  have ran' := @tryRun_of_writesFit Bool store source { m with fields := [region, zone] } _ _ _
    runs' (by decide +kernel)
  exact ⟨List.reverse_perm [region, zone], by decide +kernel, _, _, _, _, ran, ran',
    by decide +kernel, by decide +kernel⟩

end Tables

end Interchange
