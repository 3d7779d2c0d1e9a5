import Interchange.Cache.Basic
import Mathlib.Data.List.Induction
import Mathlib.Data.List.Nodup
/-!
# What is done to a cache

A cache is used by putting, getting and invalidating.  One relation says all that such an event can
do to a cache that is enabled; what is to be said of all caches is shown for it, and then holds
after any sequence of events.

* `TimedCache.Event`, `TimedCache.after` — what is done to a cache, and the cache after it.
* `TimedCache.find?_store`, `TimedCache.find?_invalidateWhere` — which entries single steps leave.
* `TimedCache.Keeps` — what may be kept under a key, which all operations respect.
* `TimedCache.Effect` — what an event does, and the key that it uses.
* `TimedCache.Listed` — the keys in the order of their last use are the keys of the entries.
-/

namespace Interchange.TimedCache

variable {κ β : Type}

/-! ### Events -/

/-- What can be done to a cache. -/
inductive Operation (κ β : Type)
  | put (key : κ) (value : β)
  | get (key : κ)
  | invalidate (key : κ)
  | invalidateWhere (p : κ → Bool)
  | clear

/-- Something that is done to a cache at a time. -/
structure Event (κ β : Type) where
  time : Nat
  operation : Operation κ β

/-- Whether an operation drops what it covers, and does nothing else. -/
def Operation.isInvalidation : Operation κ β → Bool
  | invalidate _ | invalidateWhere _ | clear => true
  | put _ _ | get _ => false

variable [DecidableEq κ]

/-- Whether an operation stores something under a key. -/
def Operation.stores (key : κ) : Operation κ β → Bool
  | put k _ => key = k
  | get _ | invalidate _ | invalidateWhere _ | clear => false

/-- Whether an operation invalidates a key. -/
def Operation.covers (key : κ) : Operation κ β → Bool
  | invalidate k => key = k
  | invalidateWhere p => p key
  | clear => true
  | put _ _ | get _ => false

/-- What only takes entries out stores none. -/
theorem Operation.stores_of_isInvalidation {operation : Operation κ β}
    (invalidates : operation.isInvalidation = true) (key : κ) :
    operation.stores key = false := by
  cases operation with
  | put | get => simp [isInvalidation] at invalidates
  | invalidate | invalidateWhere | clear => rfl

/-- The cache after one event. -/
def act (c : TimedCache κ β) : Event κ β → TimedCache κ β
  | ⟨now, .put key value⟩ => c.put now key value
  | ⟨now, .get key⟩ => (c.get now key).2
  | ⟨_, .invalidate key⟩ => c.invalidate key
  | ⟨_, .invalidateWhere p⟩ => c.invalidateWhere p
  | ⟨_, .clear⟩ => c.clear

/-- The cache after events, one after the other. -/
def after (c : TimedCache κ β) (history : List (Event κ β)) : TimedCache κ β :=
  history.foldl act c

/-- The key that an event uses: one that is put, or got with a hit. -/
def used? (c : TimedCache κ β) : Event κ β → Option κ
  | ⟨_, .put key _⟩ => some key
  | ⟨now, .get key⟩ => if (c.get now key).1.isSome then some key else none
  | ⟨_, .invalidate _⟩ | ⟨_, .invalidateWhere _⟩ | ⟨_, .clear⟩ => none

/-- The last event of a history acts on what the events before it have left. -/
theorem after_concat (c : TimedCache κ β) (history : List (Event κ β)) (x : Event κ β) :
    c.after (history ++ [x]) = (c.after history).act x := by
  rw [after, List.foldl_append]
  rfl

/-! ### Entries -/

variable {c : TimedCache κ β} {key : κ}

/-- The cache with an entry stored, room or not. -/
def store (key : κ) (e : Stamped β) (c : TimedCache κ β) : TimedCache κ β :=
  { c.touch key with entries := c.entries.filter (fun entry => entry.1 ≠ key) ++ [(key, e)] }

/-- An entry is put in two steps: room is made, and it is stored. -/
theorem put_of_enabled (enabled : c.enabled = true) (now : Nat) (value : β) :
    c.put now key value = (c.makeRoom key).store key ⟨value, now⟩ := by
  rw [put, if_pos enabled]
  rfl

omit [DecidableEq κ] in
/-- Clearing takes out the entries of all keys. -/
theorem clear_eq_invalidateWhere : c.clear = c.invalidateWhere fun _ => true := by
  simp [clear, invalidateWhere]

/-- Of the keys, those of the predicate are forgotten and no others. -/
theorem find?_invalidateWhere (p : κ → Bool) :
    (c.invalidateWhere p).find? key = if p key then none else c.find? key := by
  rw [find?, find?, invalidateWhere, List.find?_filter]
  by_cases drops : p key
  · rw [if_pos drops, Option.map_eq_none_iff, List.find?_eq_none]
    rintro entry - both
    obtain ⟨kept, here⟩ : p entry.1 = false ∧ entry.1 = key := by simpa using both
    exact Bool.false_ne_true (kept.symm.trans (here ▸ drops))
  · rw [if_neg drops]
    congr 2
    funext entry
    by_cases here : entry.1 = key <;> simp_all

/-- A stored entry is found under its key, and under the other keys what was there before. -/
theorem find?_store (k : κ) (e : Stamped β) :
    (c.store k e).find? key = if key = k then some e else c.find? key := by
  -- The other entries are those that are left when the key is invalidated.
  have others : (c.store k e).find? key =
      ((c.invalidateWhere fun j => j = k).find? key).or
        (if key = k then some e else none) := by
    simp only [find?, invalidateWhere, store, List.find?_append, Option.map_or, decide_not]
    by_cases here : key = k
    · simp [here]
    · simp [here, Ne.symm here]
  rw [others, find?_invalidateWhere]
  by_cases here : key = k <;> simp [here]

/-- Making room drops one entry at most, and none when the key has one. -/
theorem makeRoom_eq (key : κ) : c.makeRoom key = c ∨
    (c.find? key).isNone ∧ c.capacity ≤ c.size ∧
      ∃ oldest later, c.recency = oldest :: later ∧ c.makeRoom key = c.invalidate oldest := by
  rw [makeRoom]
  split
  · next full =>
      obtain ⟨new, full⟩ := Bool.and_eq_true_iff.mp full
      rw [evict]
      cases c.recency with
      | nil => exact .inl rfl
      | cons oldest later => exact .inr ⟨new, of_decide_eq_true full, oldest, later, rfl, rfl⟩
  · exact .inl rfl

/-- What outlasts the dropping of entries outlasts the making of room. -/
theorem makeRoom_of_invalidateWhere (holds : TimedCache κ β → Prop) (now : holds c)
    (drops : ∀ p, holds (c.invalidateWhere p)) (key : κ) : holds (c.makeRoom key) := by
  rcases makeRoom_eq (c := c) key with same | ⟨-, -, oldest, -, -, same⟩
  · rwa [same]
  · rw [same]
    exact drops fun k => k = oldest

/-- A read finds an entry that may still be used, or one that is too old, or none. -/
theorem get_cases (enabled : c.enabled = true) (now : Nat) (key : κ) :
    (∃ e, c.find? key = some e ∧ now - e.since ≤ c.lifetime ∧
      c.get now key = (some e.value, { c.touch key with hits := c.hits + 1 })) ∨
    (∃ e, c.find? key = some e ∧ ¬now - e.since ≤ c.lifetime ∧
      c.get now key = (none, { c.invalidate key with misses := c.misses + 1 })) ∨
    c.find? key = none ∧ c.get now key = (none, { c with misses := c.misses + 1 }) := by
  rw [get, if_pos enabled]
  cases found : c.find? key with
  | none => exact .inr (.inr ⟨rfl, rfl⟩)
  | some e =>
      by_cases fresh : now - e.since ≤ c.lifetime
      · exact .inl ⟨e, rfl, fresh, by simp [isFresh, fresh]⟩
      · exact .inr (.inl ⟨e, rfl, fresh, by simp [isFresh, fresh]⟩)

/-! ### What is kept -/

/-- Whatever is kept under a key, be it old or new, **suits that key**. -/
def Keeps (c : TimedCache κ β) (suits : κ → β → Prop) : Prop :=
  ∀ e ∈ c.entries, suits e.1 e.2.value

/-- Nothing is kept under a key that was just invalidated. -/
theorem keeps_invalidate (c : TimedCache κ β) (key : κ) (P : β → Prop) :
    (c.invalidate key).Keeps fun k v => k = key → P v := by
  intro e among here
  simp [invalidate, invalidateWhere, here] at among

namespace Keeps

variable {suits fits : κ → β → Prop} {v : β}

omit [DecidableEq κ] in
/-- What is kept may be asked for less. -/
theorem mono (keeps : c.Keeps suits) (imp : ∀ k v, suits k v → fits k v) : c.Keeps fits :=
  fun e among => imp _ _ (keeps e among)

omit [DecidableEq κ] in
/-- Entries may be dropped at any time. -/
theorem invalidateWhere (keeps : c.Keeps suits) (p : κ → Bool) :
    (c.invalidateWhere p).Keeps suits :=
  fun e among => keeps e (List.mem_of_mem_filter among)

/-- An entry that is found suits its key, -/
theorem of_find? (keeps : c.Keeps suits) {e : Stamped β} (found : c.find? key = some e) :
    suits key e.value := by
  obtain ⟨entry, first, rfl⟩ := Option.map_eq_some_iff.mp found
  have here : entry.1 = key := by simpa using List.find?_some first
  rw [← here]
  exact keeps entry (List.mem_of_find?_eq_some first)

/-- and so does an answer. -/
theorem of_get (keeps : c.Keeps suits) {now : Nat} (hit : (c.get now key).1 = some v) :
    suits key v := by
  by_cases enabled : c.enabled = true
  · rcases get_cases enabled now key with ⟨e, found, -, got⟩ | ⟨e, -, -, got⟩ | ⟨-, got⟩ <;>
      rw [got] at hit <;> cases hit
    exact keeps.of_find? found
  · rw [TimedCache.get, if_neg enabled] at hit
    cases hit

/-- Reading keeps all that is kept, though it may drop an entry and moves its key to the end, -/
theorem get (keeps : c.Keeps suits) (now : Nat) (key : κ) : (c.get now key).2.Keeps suits := by
  by_cases enabled : c.enabled = true
  · rcases get_cases enabled now key with ⟨e, -, -, got⟩ | ⟨e, -, -, got⟩ | ⟨-, got⟩ <;> rw [got]
    · exact keeps
    · exact keeps.invalidateWhere fun k => k = key
    · exact keeps
  · rwa [TimedCache.get, if_neg enabled]

/-- and so does making room. -/
theorem makeRoom (keeps : c.Keeps suits) (key : κ) : (c.makeRoom key).Keeps suits :=
  makeRoom_of_invalidateWhere (·.Keeps suits) keeps keeps.invalidateWhere key

/-- What is stored has to suit its key, unless nothing is stored at all. -/
theorem put (keeps : c.Keeps suits) (stored : c.enabled = true → suits key v) (now : Nat) :
    (c.put now key v).Keeps suits := by
  by_cases enabled : c.enabled = true
  · rw [put_of_enabled enabled]
    intro e among
    rcases List.mem_append.mp among with kept | new
    · exact keeps.makeRoom key e (List.mem_of_mem_filter kept)
    · rw [List.mem_singleton.mp new]
      exact stored enabled
  · rwa [TimedCache.put, if_neg enabled]

end Keeps

/-- A cache does not become enabled or disabled by being read, -/
theorem enabled_get (now : Nat) (key : κ) : (c.get now key).2.enabled = c.enabled := by
  by_cases enabled : c.enabled = true
  · rcases get_cases enabled now key with ⟨e, -, -, got⟩ | ⟨e, -, -, got⟩ | ⟨-, got⟩ <;>
      rw [got] <;>
      rfl
  · rw [get, if_neg enabled]

/-- or by being written to. -/
theorem enabled_put (now : Nat) (key : κ) (v : β) : (c.put now key v).enabled = c.enabled := by
  by_cases enabled : c.enabled = true
  · rw [put_of_enabled enabled]
    exact makeRoom_of_invalidateWhere (·.enabled = c.enabled) rfl (fun _ => rfl) key
  · rw [put, if_neg enabled]

/-- What was just stored is found. -/
theorem get_put_self (enabled : c.enabled = true) (now : Nat) (key : κ) (v : β) :
    ((c.put now key v).get now key).1 = some v := by
  have still := (enabled_put now key v).trans enabled
  have stored : (c.put now key v).find? key = some ⟨v, now⟩ := by
    rw [put_of_enabled enabled, find?_store, if_pos rfl]
  rcases get_cases still now key with ⟨e, found, -, got⟩ | ⟨e, found, old, -⟩ | ⟨absent, -⟩
  · rw [got]
    obtain rfl := Option.some.inj (found.symm.trans stored)
    rfl
  · obtain rfl := Option.some.inj (found.symm.trans stored)
    exact absurd (Nat.sub_self now ▸ Nat.zero_le _) old
  · cases absent.symm.trans stored

/-! ### What an event does -/

/-- **What an event does** to a cache that is enabled, and the key that it uses. -/
inductive Effect (c : TimedCache κ β) : Event κ β → Option κ → TimedCache κ β → Prop
  | invalidated (now : Nat) {operation : Operation κ β}
      (invalidates : operation.isInvalidation = true) :
      Effect c ⟨now, operation⟩ none (c.invalidateWhere fun key => operation.covers key)
  | missed (now : Nat) {key : κ} (absent : c.find? key = none) :
      Effect c ⟨now, .get key⟩ none { c with misses := c.misses + 1 }
  | expired {now : Nat} {key : κ} {e : Stamped β} (found : c.find? key = some e)
      (old : ¬now - e.since ≤ c.lifetime) :
      Effect c ⟨now, .get key⟩ none { c.invalidate key with misses := c.misses + 1 }
  | hit {now : Nat} {key : κ} {e : Stamped β} (found : c.find? key = some e)
      (fresh : now - e.since ≤ c.lifetime) :
      Effect c ⟨now, .get key⟩ (some key) { c.touch key with hits := c.hits + 1 }
  | stored (now : Nat) (key : κ) (value : β) :
      Effect c ⟨now, .put key value⟩ (some key) ((c.makeRoom key).store key ⟨value, now⟩)

/-- Whatever is done to a cache that is enabled, it is one of these. -/
theorem act_effect (enabled : c.enabled = true) (x : Event κ β) :
    c.Effect x (c.used? x) (c.act x) := by
  obtain ⟨now, operation⟩ := x
  cases operation with
  | put key value =>
      rw [act, used?, put_of_enabled enabled]
      exact .stored now key value
  | get key =>
      rw [act, used?]
      rcases get_cases enabled now key with
        ⟨e, found, fresh, got⟩ | ⟨e, found, old, got⟩ | ⟨absent, got⟩ <;> rw [got]
      · exact .hit found fresh
      · exact .expired found old
      · exact .missed now absent
  | invalidate key => exact .invalidated now rfl
  | invalidateWhere p => exact .invalidated now rfl
  | clear =>
      rw [act, used?, clear_eq_invalidateWhere]
      exact .invalidated now rfl

/-- No event changes how much there is room for, or for how long. -/
theorem Effect.settings {d : TimedCache κ β} {x : Event κ β} {used : Option κ}
    (effect : c.Effect x used d) :
    d.enabled = c.enabled ∧ d.lifetime = c.lifetime ∧ d.capacity = c.capacity := by
  cases effect with
  | invalidated | missed | expired | hit => exact ⟨rfl, rfl, rfl⟩
  | stored now key value =>
      rcases makeRoom_eq (c := c) key with same | ⟨-, -, _, -, -, same⟩ <;> rw [same] <;>
        exact ⟨rfl, rfl, rfl⟩

/-- What is used but not stored has an entry. -/
theorem Effect.found {d : TimedCache κ β} {x : Event κ β} (effect : c.Effect x (some key) d)
    (stores : x.operation.stores key = false) : (c.find? key).isSome := by
  cases effect with
  | hit found => exact found ▸ rfl
  | stored => simp [Operation.stores] at stores

/-- No event changes the settings. -/
theorem after_settings (enabled : c.enabled = true) (history : List (Event κ β)) :
    (c.after history).enabled = true ∧ (c.after history).lifetime = c.lifetime ∧
      (c.after history).capacity = c.capacity := by
  induction history using List.reverseRecOn with
  | nil => exact ⟨enabled, rfl, rfl⟩
  | append_singleton history x ih =>
      rw [after_concat]
      obtain ⟨still, lifetime, capacity⟩ := (act_effect ih.1 x).settings
      exact ⟨still.trans ih.1, lifetime.trans ih.2.1, capacity.trans ih.2.2⟩

/-! ### The order of use -/

/-- **The order of use lists the keys of the entries**, each of them once. -/
structure Listed (c : TimedCache κ β) : Prop where
  once : c.recency.Nodup
  keys : c.recency.Perm (c.entries.map Prod.fst)

omit [DecidableEq κ] in
/-- An empty cache has an empty order of use. -/
theorem listed_ofSettings (s : CacheSettings) : (ofSettings s : TimedCache κ β).Listed where
  once := .nil
  keys := .refl _

namespace Listed

/-- The order of use lists the keys that have an entry, -/
theorem mem_iff (listed : c.Listed) : key ∈ c.recency ↔ (c.find? key).isSome := by
  rw [listed.keys.mem_iff]
  simp [find?]

omit [DecidableEq κ] in
/-- so it is as long as the cache is large. -/
theorem size_eq (listed : c.Listed) : c.size = c.recency.length := by
  rw [size, ← List.length_map Prod.fst, ← listed.keys.length_eq]

omit [DecidableEq κ] in
/-- Keys leave the order of use with their entries. -/
theorem invalidateWhere (listed : c.Listed) (p : κ → Bool) : (c.invalidateWhere p).Listed where
  once := listed.once.filter _
  keys := by
    have filtered := listed.keys.filter fun k => !p k
    rwa [List.filter_map] at filtered

/-- A key that is used moves to the end, and is listed once as before. -/
theorem once_concat (listed : c.Listed) (key : κ) :
    (c.recency.filter (· ≠ key) ++ [key]).Nodup := by
  rw [← List.concat_eq_append]
  exact (listed.once.filter _).concat (by simp)

/-- A key that has an entry is only moved. -/
theorem touch (listed : c.Listed) (present : (c.find? key).isSome) : (c.touch key).Listed where
  once := listed.once_concat key
  keys := by
    have same : (c.recency.filter (· ≠ key)).Perm (c.recency.erase key) := by
      rw [listed.once.erase_eq_filter]
      exact .of_eq (List.filter_congr fun k _ => by simp [bne, beq_eq_decide])
    have moved : (c.recency.filter (· ≠ key) ++ [key]).Perm (key :: c.recency.erase key) :=
      (List.perm_append_singleton _ _).trans (same.cons key)
    have back : (key :: c.recency.erase key).Perm c.recency :=
      (List.perm_cons_erase (listed.mem_iff.mpr present)).symm
    exact (moved.trans back).trans listed.keys

/-- So a stored entry has the last place. -/
theorem store (listed : c.Listed) (key : κ) (e : Stamped β) : (c.store key e).Listed where
  once := listed.once_concat key
  keys := by
    have others := (listed.keys.filter (· ≠ key)).append_right [key]
    rw [List.filter_map] at others
    rw [TimedCache.store, List.map_append]
    exact others

end Listed

end Interchange.TimedCache
