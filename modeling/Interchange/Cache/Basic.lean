import Interchange.Record.Reader
/-!
# Caches

A cache keeps a limited number of entries for a limited time.  When it is full, the entry that was
not used for longest makes room.  Time is told by a clock from outside, in milliseconds; an entry
is dropped when it is read after its time.  A cache that is not enabled keeps and counts nothing.

* `CacheSettings.read` — the record.
* `TimedCache.get`, `TimedCache.put`, `TimedCache.invalidate` — the operations.
-/

namespace Interchange

/-- How much a cache keeps, and for how many seconds. -/
structure CacheSettings where
  maxEntries : Nat
  lifetime : Nat
  enabled : Bool
deriving DecidableEq

namespace CacheSettings

/-- The settings in the absence of others. -/
def standard : CacheSettings := ⟨1000, 30, true⟩

def read : Reader CacheSettings :=
  Reader.record "CacheConfig"
    [.default "maxEntries" (Reader.natural 64 "usize") standard.maxEntries,
     .default "ttlSecs" (Reader.natural 64 "u64") standard.lifetime,
     .default "enabled" Reader.bool standard.enabled]
    fun (entries, lifetime, enabled, ()) => .ok ⟨entries, lifetime, enabled⟩

/-- The settings as a record. -/
def toValue (s : CacheSettings) : Value :=
  .obj [("maxEntries", .count s.maxEntries), ("ttlSecs", .count s.lifetime),
    ("enabled", .bool s.enabled)]

/-- The milliseconds for which an entry is kept. -/
def lifetimeMillis (s : CacheSettings) : Nat := s.lifetime * 1000

end CacheSettings

/-- A value with the time at which it was stored. -/
structure Stamped (β : Type) where
  value : β
  since : Nat
deriving DecidableEq

/-- What a cache has counted. -/
structure CacheCounts where
  entries : Nat
  hits : Nat
  misses : Nat
deriving DecidableEq

/-- Entries by key, with the keys in the order of their last use, the latest at the end. -/
structure TimedCache (κ β : Type) where
  entries : List (κ × Stamped β)
  recency : List κ
  lifetime : Nat
  capacity : Nat
  enabled : Bool
  hits : Nat
  misses : Nat
deriving DecidableEq

namespace TimedCache

variable {κ β : Type}

/-- A cache without entries.  There is room for at least one. -/
def ofSettings (s : CacheSettings) : TimedCache κ β :=
  ⟨[], [], s.lifetimeMillis, max s.maxEntries 1, s.enabled, 0, 0⟩

/-- How many entries there are. -/
def size (c : TimedCache κ β) : Nat := c.entries.length

/-- What was counted so far. -/
def counts (c : TimedCache κ β) : CacheCounts := ⟨c.size, c.hits, c.misses⟩

/-- Drops the entries whose keys have a property. -/
def invalidateWhere (p : κ → Bool) (c : TimedCache κ β) : TimedCache κ β :=
  { c with
    entries := c.entries.filter fun e => !p e.1
    recency := c.recency.filter fun k => !p k }

/-- Drops all entries. -/
def clear (c : TimedCache κ β) : TimedCache κ β := { c with entries := [], recency := [] }

variable [DecidableEq κ]

/-- The entry under a key, however old. -/
def find? (c : TimedCache κ β) (key : κ) : Option (Stamped β) :=
  (c.entries.find? fun e => e.1 = key).map Prod.snd

/-- Drops the entry under a key. -/
def invalidate (key : κ) (c : TimedCache κ β) : TimedCache κ β :=
  c.invalidateWhere fun k => k = key

/-- Notes the use of a key. -/
def touch (key : κ) (c : TimedCache κ β) : TimedCache κ β :=
  { c with recency := c.recency.filter (· ≠ key) ++ [key] }

/-- Whether an entry may still be used at a time. -/
def isFresh (c : TimedCache κ β) (now : Nat) (e : Stamped β) : Bool := now - e.since ≤ c.lifetime

/-- Reads the value under a key at a time. -/
def get (now : Nat) (key : κ) (c : TimedCache κ β) : Option β × TimedCache κ β :=
  if c.enabled then
    match c.find? key with
    | some e =>
      if c.isFresh now e then (some e.value, { c.touch key with hits := c.hits + 1 })
      else (none, { c.invalidate key with misses := c.misses + 1 })
    | none => (none, { c with misses := c.misses + 1 })
  else (none, c)

/-- Drops the entry that was not used for longest. -/
def evict (c : TimedCache κ β) : TimedCache κ β :=
  match c.recency with
  | oldest :: _ => c.invalidate oldest
  | [] => c

/-- Makes room for a key. -/
def makeRoom (key : κ) (c : TimedCache κ β) : TimedCache κ β :=
  if (c.find? key).isNone && c.capacity ≤ c.size then c.evict else c

/-- Stores a value under a key at a time. -/
def put (now : Nat) (key : κ) (value : β) (c : TimedCache κ β) : TimedCache κ β :=
  if c.enabled then
    let c := c.makeRoom key
    { c.touch key with
      entries := c.entries.filter (fun e => e.1 ≠ key) ++ [(key, ⟨value, now⟩)] }
  else c

end TimedCache

end Interchange
