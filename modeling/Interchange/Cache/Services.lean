import Interchange.Cache.Basic
import Interchange.Pipeline.Run
/-!
# Cached services

Pipelines, systems and lookups may be read through caches, which also keep that something is not
there.  A failure is not kept.

* `cachedRead` — one read through a cache.
* `Services.cached` — services of which everything but the transport is cached.
* `Cached.invalidatePipeline`, `Cached.invalidateSystem`, `Cached.invalidateTable` — forgetting.
-/

namespace Interchange

/-- The caches before services with a state. -/
structure Cached (σ : Type) where
  pipelines : TimedCache String (Option Pipeline)
  catalog : TimedCache Unit (List Pipeline)
  systems : TimedCache String (Option ExternalSystem)
  lookups : TimedCache (String × String) (Option Value)
  inner : σ

/-- One of the caches. -/
structure CacheSlot (σ κ β : Type) where
  cache : Cached σ → TimedCache κ β
  store : TimedCache κ β → Cached σ → Cached σ

namespace Cached

variable {σ : Type}

/-- Empty caches before services in a state. -/
def ofSettings (s : CacheSettings) (inner : σ) : Cached σ :=
  ⟨.ofSettings s, .ofSettings s, .ofSettings s, .ofSettings s, inner⟩

def pipelineSlot : CacheSlot σ String (Option Pipeline) :=
  ⟨Cached.pipelines, fun c s => { s with pipelines := c }⟩

def catalogSlot : CacheSlot σ Unit (List Pipeline) :=
  ⟨Cached.catalog, fun c s => { s with catalog := c }⟩

def systemSlot : CacheSlot σ String (Option ExternalSystem) :=
  ⟨Cached.systems, fun c s => { s with systems := c }⟩

def lookupSlot : CacheSlot σ (String × String) (Option Value) :=
  ⟨Cached.lookups, fun c s => { s with lookups := c }⟩

/-- Does something behind the caches. -/
def behind {α : Type} (act : StateM σ α) : StateM (Cached σ) α := fun s =>
  let (a, inner) := act s.inner
  (a, { s with inner := inner })

/-- Forgets a pipeline, and all that was chosen from. -/
def invalidatePipeline (id : String) (s : Cached σ) : Cached σ :=
  { s with pipelines := s.pipelines.invalidate id, catalog := s.catalog.clear }

/-- Forgets a system. -/
def invalidateSystem (code : String) (s : Cached σ) : Cached σ :=
  { s with systems := s.systems.invalidate code }

/-- Forgets all pipelines and systems. -/
def invalidateAll (s : Cached σ) : Cached σ :=
  { s with
    pipelines := s.pipelines.clear
    catalog := s.catalog.clear
    systems := s.systems.clear }

/-- Forgets the entries of a table. -/
def invalidateTable (table : String) (s : Cached σ) : Cached σ :=
  { s with lookups := s.lookups.invalidateWhere fun k => k.1 == table }

/-- Forgets the entries of all tables. -/
def invalidateLookups (s : Cached σ) : Cached σ := { s with lookups := s.lookups.clear }

end Cached

/-- Reads through a cache: what it has, else what `read` gives, which is kept. -/
def cachedRead {σ κ β ε : Type} [DecidableEq κ] (clock : StateM σ Nat) (slot : CacheSlot σ κ β)
    (read : StateM σ (Except ε β)) (key : κ) : StateM (Cached σ) (Except ε β) := do
  let now ← Cached.behind clock
  let (hit, cache) := (slot.cache (← get)).get now key
  modify (slot.store cache)
  match hit with
  | some v => return .ok v
  | none =>
    match ← Cached.behind read with
    | .error e => return .error e
    | .ok v =>
      let now ← Cached.behind clock
      modify fun s => slot.store ((slot.cache s).put now key v) s
      return .ok v

namespace Services

/-- Services behind caches. -/
def cached {σ : Type} (clock : StateM σ Nat) (s : Services σ) : Services (Cached σ) where
  pipeline id := cachedRead clock Cached.pipelineSlot (s.pipeline id) id
  catalog := cachedRead clock Cached.catalogSlot s.catalog ()
  system code := cachedRead clock Cached.systemSlot (s.system code) code
  lookup table key := cachedRead clock Cached.lookupSlot (s.lookup table key) (table, key)
  send r := Cached.behind (s.send r)
  settings := s.settings
  environment := s.environment

end Services

end Interchange
