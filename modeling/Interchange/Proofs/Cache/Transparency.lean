import Interchange.Bundle.Basic
import Interchange.Cache.Services
import Interchange.Proofs.Cache.History
import Interchange.Proofs.Pipeline.Simulation
/-!
# Caches are transparent

As long as a bundle does not change, nobody can tell whether its services are read through caches:
any sequence of questions has the same answers, and the same requests are sent.  All that it takes
is that a cache keeps nothing but what the bundle answers.  Hits, misses, expiry, eviction and
forgetting keep it so, whatever the clock shows.

* `TimedCache.Agrees` — a cache that keeps nothing but the answers there are.
* `Cached.Mirrors` — caches that agree with a bundle, before a world.
* `Services.answers` — the answers to a sequence of questions.
* `Bundle.answers_cached` — they are the same with caches and without.
-/

namespace Interchange

/-! ### One cache -/

namespace TimedCache

variable {κ β : Type} {c : TimedCache κ β} {truth : κ → Option β}

/-- **A cache that agrees with the answers there are**: what is kept under a key, be it old or new,
is the answer to that key. -/
def Agrees (c : TimedCache κ β) (truth : κ → Option β) : Prop :=
  ∀ e ∈ c.entries, truth e.1 = some e.2.value

/-- An empty cache holds nothing that could be wrong. -/
theorem agrees_ofSettings (s : CacheSettings) : (ofSettings s : TimedCache κ β).Agrees truth := by
  intro e member
  cases member

theorem Agrees.keeps (agrees : c.Agrees truth) : c.Keeps fun key v => truth key = some v := agrees

/-- Forgetting leaves fewer entries, and all of them right, -/
theorem Agrees.invalidateWhere (agrees : c.Agrees truth) (p : κ → Bool) :
    (c.invalidateWhere p).Agrees truth :=
  agrees.keeps.invalidateWhere p

/-- or none. -/
theorem agrees_clear (c : TimedCache κ β) : c.clear.Agrees truth := by
  intro e member
  cases member

variable [DecidableEq κ]

/-- A hit is the answer to its key. -/
theorem Agrees.of_get (agrees : c.Agrees truth) {now : Nat} {key : κ} {v : β}
    (hit : (c.get now key).1 = some v) : truth key = some v :=
  agrees.keeps.of_get hit

/-- Reading adds no entry, -/
theorem Agrees.get (agrees : c.Agrees truth) (now : Nat) (key : κ) :
    (c.get now key).2.Agrees truth :=
  agrees.keeps.get now key

/-- and what is put is what the bundle answers. -/
theorem Agrees.put (agrees : c.Agrees truth) {key : κ} {v : β} (answer : truth key = some v)
    (now : Nat) : (c.put now key v).Agrees truth :=
  agrees.keeps.put (fun _ => answer) now

end TimedCache

/-! ### A clock beside the world -/

section Clock

variable {τ ν : Type}

/-- A look at a clock.  Its hands may move with every look, and with what goes on in the world. -/
def lookAt (clock : τ → StateM ν Nat) : StateM (τ × ν) Nat := fun w =>
  let (now, hands) := (clock w.1).run w.2
  (now, (w.1, hands))

/-- A transport in a world that has a clock beside it. -/
def Transport.besideClock (send : Transport τ) : Transport (τ × ν) := fun r w =>
  let (outcome, world) := (send r).run w.1
  (outcome, (world, w.2))

end Clock

/-! ### Caches before a bundle -/

section Bundles

variable {τ ν : Type} {b : Bundle}

/-- **Caches that mirror a bundle**: each of them agrees with what the bundle answers, and the world
behind them is the one that there would be without them.  An unknown table has no answer that could
be kept. -/
structure Cached.Mirrors (b : Bundle) (c : Cached (τ × ν)) (world : τ) : Prop where
  pipelines : c.pipelines.Agrees fun id => some (b.pipeline? id)
  catalog : c.catalog.Agrees fun _ => some b.pipelines
  systems : c.systems.Agrees fun code => some (b.system? code)
  lookups : c.lookups.Agrees fun k => (b.tables.find k.1 k.2).toOption
  world : c.inner.1 = world

/-- A cache that may be read from and written to without the bundle being mirrored any less. -/
structure CacheSlot.Agrees {κ β : Type} (slot : CacheSlot (τ × ν) κ β) (b : Bundle)
    (truth : κ → Option β) : Prop where
  cache : ∀ {c : Cached (τ × ν)} {world : τ}, c.Mirrors b world → (slot.cache c).Agrees truth
  store : ∀ {c : Cached (τ × ν)} {world : τ} {cache : TimedCache κ β}, c.Mirrors b world →
    cache.Agrees truth → (slot.store cache c).Mirrors b world

theorem pipelineSlot_agrees : (Cached.pipelineSlot (σ := τ × ν)).Agrees b fun id =>
    some (b.pipeline? id) :=
  ⟨fun mirrors => mirrors.pipelines, fun mirrors agrees => { mirrors with pipelines := agrees }⟩

theorem catalogSlot_agrees : (Cached.catalogSlot (σ := τ × ν)).Agrees b fun _ =>
    some b.pipelines :=
  ⟨fun mirrors => mirrors.catalog, fun mirrors agrees => { mirrors with catalog := agrees }⟩

theorem systemSlot_agrees : (Cached.systemSlot (σ := τ × ν)).Agrees b fun code =>
    some (b.system? code) :=
  ⟨fun mirrors => mirrors.systems, fun mirrors agrees => { mirrors with systems := agrees }⟩

theorem lookupSlot_agrees : (Cached.lookupSlot (σ := τ × ν)).Agrees b fun k =>
    (b.tables.find k.1 k.2).toOption :=
  ⟨fun mirrors => mirrors.lookups, fun mirrors agrees => { mirrors with lookups := agrees }⟩

/-- Looking at the clock leaves the caches and the world behind them as they are. -/
theorem Cached.Mirrors.lookAt {c : Cached (τ × ν)} {world : τ} (mirrors : c.Mirrors b world)
    (clock : τ → StateM ν Nat) :
    (((Cached.behind (Interchange.lookAt clock)).run c).2).Mirrors b world :=
  { mirrors with world := mirrors.world }

/-- **A read through a cache** has the answer that there is, whether it is found in the cache, or
found to be out of date, or not found. -/
theorem cachedRead_alike {κ β ε : Type} [DecidableEq κ] {slot : CacheSlot (τ × ν) κ β}
    {truth : κ → Option β} (agrees : slot.Agrees b truth) (clock : τ → StateM ν Nat) {key : κ}
    {answer : Except ε β} (answered : truth key = answer.toOption) :
    Alike (Cached.Mirrors b) (cachedRead (lookAt clock) slot (pure answer) key) (pure answer) := by
  unfold cachedRead
  refine .after_left (fun c world mirrors => mirrors.lookAt clock) fun now => ?_
  refine .bind_left (P := fun c => (slot.cache c).Agrees truth)
    (fun c world mirrors => ⟨agrees.cache mirrors, mirrors⟩) fun c kept => ?_
  have still := kept.get now key
  -- A hit is the answer itself, so that there is one.
  have found : ∀ v, ((slot.cache c).get now key).1 = some v → answer = .ok v := by
    intro v hit
    have told := kept.of_get hit
    rw [answered] at told
    cases answer with
    | error e => cases told
    | ok w => rw [Option.some.inj told]
  revert still found
  rcases (slot.cache c).get now key with ⟨hit, cache⟩
  intro still found
  refine .after_left (fun c world mirrors => agrees.store mirrors still) fun _ => ?_
  cases hit with
  | some v =>
      rw [found v rfl]
      exact .pure _
  | none =>
      -- What is read behind the cache is the answer itself, and only a value is kept.
      refine .bind_left (P := fun x => x = answer)
        (fun c world mirrors => ⟨rfl, { mirrors with world := mirrors.world }⟩) ?_
      rintro x rfl
      rcases x with e | v
      · exact .pure _
      · refine .after_left (fun c world mirrors => mirrors.lookAt clock) fun later => ?_
        refine .after_left (fun c world mirrors => ?_) fun _ => .pure _
        exact agrees.store mirrors ((agrees.cache mirrors).put answered later)

variable {send : Transport τ} {settings : CallSettings} {env : Environment}
  {clock : τ → StateM ν Nat}

/-- The services of a bundle answer alike behind caches that mirror it. -/
theorem Bundle.services_alike :
    (((b.services send.besideClock settings env).cached (lookAt clock)).Alike (Cached.Mirrors b)
      (b.services send settings env)) where
  pipeline _ := cachedRead_alike pipelineSlot_agrees clock rfl
  catalog := cachedRead_alike catalogSlot_agrees clock rfl
  system _ := cachedRead_alike systemSlot_agrees clock rfl
  lookup _ _ := cachedRead_alike lookupSlot_agrees clock rfl
  send r := by
    rintro c _ mirrors
    cases mirrors.world
    exact ⟨rfl, { mirrors with world := rfl }⟩
  settings := rfl
  environment := rfl

end Bundles

/-! ### Sequences of questions -/

/-- What a cache can be told to forget. -/
inductive Forgetting
  | pipeline (id : String)
  | system (code : String)
  | configuration
  | table (name : String)
  | tables
deriving DecidableEq

/-- Something that is asked of services. -/
inductive Question
  | execute (id : String) (input : Value)
  | executeRouted (q : RouteRequest) (input : Value)
  | route (q : RouteRequest)
  | run (p : Pipeline) (input : Value)
  | map (m : Mapping) (source : Value) (policy : RequiredPolicy)
  | transform (f : FieldMapping) (source context : Value)
  | apply (t : Transformation) (v context : Value)
  | lookup (table key : String)
  | pipeline (id : String)
  | catalog
  | system (code : String)
  /-- Nothing is asked, and something is forgotten. -/
  | forget (f : Forgetting)

/-- An answer to a question. -/
inductive Answer
  | run (r : Except Error RunReport)
  | route (r : Except Error (Option Selection))
  | map (r : Except String MappingReport)
  | transform (r : FieldReport)
  | apply (r : Except TransformError Value)
  | lookup (r : Except LookupFault (Option Value))
  | pipeline (r : Except Error (Option Pipeline))
  | catalog (r : Except Error (List Pipeline))
  | system (r : Except Error (Option ExternalSystem))
  | forgotten

/-- Forgets something that is kept in caches. -/
def Cached.forget {σ : Type} : Forgetting → Cached σ → Cached σ
  | .pipeline id => invalidatePipeline id
  | .system code => invalidateSystem code
  | .configuration => invalidateAll
  | .table name => invalidateTable name
  | .tables => invalidateLookups

namespace Services

variable {σ τ : Type}

/-- The answer to a question. -/
def answer (s : Services σ) (forget : Forgetting → σ → σ) : Question → StateM σ Answer
  | .execute id input => return .run (← s.execute id input)
  | .executeRouted q input => return .run (← s.executeRouted q input)
  | .route q => return .route (← s.route q)
  | .run p input => return .run (.ok (← s.runPipeline p input))
  | .map m source policy => return .map (← m.run s.lookup source policy)
  | .transform f source context => return .transform (← f.run s.lookup source context)
  | .apply t v context => return .apply (← t.apply s.lookup v context)
  | .lookup table key => return .lookup (← s.lookup table key)
  | .pipeline id => return .pipeline (← s.pipeline id)
  | .catalog => return .catalog (← s.catalog)
  | .system code => return .system (← s.system code)
  | .forget f => do
    modify (forget f)
    return .forgotten

/-- The answers to questions, one after the other. -/
def answers (s : Services σ) (forget : Forgetting → σ → σ) : List Question → StateM σ (List Answer)
  | [] => return []
  | q :: qs => do
    let a ← s.answer forget q
    return a :: (← s.answers forget qs)

variable {R : σ → τ → Prop} {s : Services σ} {t : Services τ} {forget : Forgetting → σ → σ}
  {lose : Forgetting → τ → τ}

/-- Services that are alike answer a question alike, if what is forgotten makes no difference. -/
theorem Alike.answer (alike : s.Alike R t) (same : ∀ f a b, R a b → R (forget f a) (lose f b))
    (q : Question) : Interchange.Alike R (s.answer forget q) (t.answer lose q) := by
  cases q with
  | execute id input => exact (alike.execute id input).bind fun _ => .pure _
  | executeRouted q input => exact (alike.executeRouted q input).bind fun _ => .pure _
  | route q => exact (alike.route q).bind fun _ => .pure _
  | run p input => exact (alike.runPipeline p input).bind fun _ => .pure _
  | map m source policy => exact (m.run_alike alike.lookup source policy).bind fun _ => .pure _
  | transform f source context =>
      exact (f.run_alike alike.lookup source context).bind fun _ => .pure _
  | apply t v context => exact (t.apply_alike alike.lookup v context).bind fun _ => .pure _
  | lookup table key => exact (alike.lookup table key).bind fun _ => .pure _
  | pipeline id => exact (alike.pipeline id).bind fun _ => .pure _
  | catalog => exact alike.catalog.bind fun _ => .pure _
  | system code => exact (alike.system code).bind fun _ => .pure _
  | forget f => exact fun a b related => ⟨rfl, same f a b related⟩

/-- Services that answer each question alike answer all of them alike, as long as forgetting on both
sides keeps their states related. -/
theorem Alike.answers (alike : s.Alike R t) (same : ∀ f a b, R a b → R (forget f a) (lose f b))
    (qs : List Question) : Interchange.Alike R (s.answers forget qs) (t.answers lose qs) := by
  induction qs with
  | nil => exact .pure _
  | cons q qs ih => exact (alike.answer same q).bind fun _ => ih.bind fun _ => .pure _

end Services

section Transparency

variable {τ ν : Type} {b : Bundle}

/-- What is forgotten is asked for again; nothing else comes of it. -/
theorem Cached.Mirrors.forget {c : Cached (τ × ν)} {world : τ} (mirrors : c.Mirrors b world)
    (f : Forgetting) : (c.forget f).Mirrors b world := by
  cases f with
  | pipeline id =>
      exact { mirrors with
        pipelines := mirrors.pipelines.invalidateWhere _
        catalog := TimedCache.agrees_clear _ }
  | system code => exact { mirrors with systems := mirrors.systems.invalidateWhere _ }
  | configuration =>
      exact { mirrors with
        pipelines := TimedCache.agrees_clear _
        catalog := TimedCache.agrees_clear _
        systems := TimedCache.agrees_clear _ }
  | table name => exact { mirrors with lookups := mirrors.lookups.invalidateWhere _ }
  | tables => exact { mirrors with lookups := TimedCache.agrees_clear _ }

/-- **Nobody can tell that there are caches.**  Before a bundle that does not change, any questions
have the same answers and leave the same world behind, whether they are asked behind caches, which
start out empty, or not.  The settings of the caches make no difference, neither does what the clock
shows, nor what is forgotten in between. -/
theorem Bundle.answers_cached (b : Bundle) (send : Transport τ) (settings : CallSettings)
    (env : Environment) (clock : τ → StateM ν Nat) (configuration tables : CacheSettings)
    (qs : List Question) (world : τ) (hands : ν) :
    let plain := ((b.services send settings env).answers (fun _ w => w) qs).run world
    let caches : Cached (τ × ν) :=
      { Cached.ofSettings configuration (world, hands) with lookups := .ofSettings tables }
    let cached := (((b.services send.besideClock settings env).cached (lookAt clock)).answers
      Cached.forget qs).run caches
    cached.1 = plain.1 ∧ cached.2.inner.1 = plain.2 := by
  intro plain caches cached
  have start : caches.Mirrors b world :=
    { pipelines := TimedCache.agrees_ofSettings _
      catalog := TimedCache.agrees_ofSettings _
      systems := TimedCache.agrees_ofSettings _
      lookups := TimedCache.agrees_ofSettings _
      world := rfl }
  obtain ⟨same, mirrors⟩ :=
    b.services_alike.answers (fun f _ _ mirrors => mirrors.forget f) qs caches world start
  exact ⟨same, mirrors.world⟩

end Transparency

end Interchange
