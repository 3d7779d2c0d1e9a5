import Interchange.Proofs.Cache.Recency
/-!
# How much a cache keeps

A cache makes room before it stores something new, so that it never has more entries than there is
room for.  This rests on the order of use: it lists the keys of the entries and nothing else, so
that the first key of it always has an entry to drop.  Every read of a cache that is enabled is
counted once, as a hit or as a miss; a cache that is not enabled stays as it was made.

* `TimedCache.reads` — how often a cache was asked.
* `TimedCache.Listed.size_effect` — every event stays within the room there is.
* `TimedCache.listed_and_bounded_after` — what holds of a cache after any events at any times.
-/

namespace Interchange.TimedCache

variable {κ β : Type}

/-- Whether an operation reads a key. -/
def Operation.isGet : Operation κ β → Bool
  | get _ => true
  | put _ _ | invalidate _ | invalidateWhere _ | clear => false

/-- How many of the events are reads. -/
def reads (history : List (Event κ β)) : Nat := history.countP fun x => x.operation.isGet

theorem Operation.isGet_of_isInvalidation {operation : Operation κ β}
    (invalidates : operation.isInvalidation = true) : operation.isGet = false := by
  cases operation with
  | put | get => simp [isInvalidation] at invalidates
  | invalidate | invalidateWhere | clear => rfl

theorem reads_concat (history : List (Event κ β)) (x : Event κ β) :
    reads (history ++ [x]) = reads history + (if x.operation.isGet then 1 else 0) := by
  rw [reads, List.countP_append, List.countP_singleton]
  rfl

variable [DecidableEq κ] {c d : TimedCache κ β} {key : κ} {x : Event κ β} {used : Option κ}

/-! ### Room -/

namespace Listed

/-- Dropping an entry that is there leaves fewer. -/
theorem size_invalidate_lt (listed : c.Listed) (present : key ∈ c.recency) :
    (c.invalidate key).size < c.size := by
  have fewer : (c.recency.filter fun k => !decide (k = key)).length < c.recency.length :=
    List.length_filter_lt_length_iff_exists.mpr ⟨key, present, by simp⟩
  rw [invalidate, (listed.invalidateWhere _).size_eq, listed.size_eq]
  exact fewer

theorem makeRoom (listed : c.Listed) (key : κ) : (c.makeRoom key).Listed :=
  makeRoom_of_invalidateWhere (·.Listed) listed listed.invalidateWhere key

/-- After room was made for a key, it has an entry already or there is room for one more. -/
theorem size_makeRoom (listed : c.Listed) (room : 0 < c.capacity) (within : c.size ≤ c.capacity)
    (key : κ) :
    ((c.makeRoom key).find? key).isSome ∧ (c.makeRoom key).size ≤ c.capacity ∨
      (c.makeRoom key).size < c.capacity := by
  rw [TimedCache.makeRoom]
  split
  · next full =>
      have full := of_decide_eq_true (Bool.and_eq_true_iff.mp full).2
      rw [evict]
      cases first : c.recency with
      | nil =>
          -- A cache without keys has no entries, and is not full.
          rw [listed.size_eq, first] at full
          exact absurd full (Nat.not_le_of_lt room)
      | cons oldest later =>
          have fewer := listed.size_invalidate_lt (first ▸ List.mem_cons_self)
          exact .inr (Nat.lt_of_lt_of_le fewer within)
  · next free =>
      cases found : c.find? key with
      | some e => exact .inl ⟨rfl, within⟩
      | none => exact .inr (by simpa [found] using free)

/-- What is stored replaces an entry or is one more. -/
theorem size_store (listed : c.Listed) (key : κ) (e : Stamped β) :
    (c.store key e).size = if (c.find? key).isSome then c.size else c.size + 1 := by
  rw [(listed.store key e).size_eq]
  split
  · next present => exact (listed.touch present).size_eq.symm
  · next absent =>
      have others : c.recency.filter (· ≠ key) = c.recency := by
        refine List.filter_eq_self.mpr fun k among => decide_eq_true ?_
        rintro rfl
        exact absent (listed.mem_iff.mp among)
      rw [TimedCache.store, TimedCache.touch, others, List.length_append, listed.size_eq]
      rfl

/-- **Every event stays within the room there is.** -/
theorem size_effect (listed : c.Listed) (room : 0 < c.capacity) (within : c.size ≤ c.capacity)
    (effect : c.Effect x used d) : d.size ≤ c.capacity := by
  cases effect with
  | invalidated | expired => exact Nat.le_trans (List.length_filter_le _ _) within
  | missed | hit => exact within
  | stored now key value =>
      rw [(listed.makeRoom key).size_store key ⟨value, now⟩]
      rcases listed.size_makeRoom room within key with ⟨present, within⟩ | free
      · rwa [if_pos present]
      · split
        · exact Nat.le_of_lt free
        · exact free

end Listed

/-! ### Counts -/

/-- Every read is counted once, and nothing else is. -/
theorem Effect.counts (effect : c.Effect x used d) :
    d.hits + d.misses = c.hits + c.misses + (if x.operation.isGet then 1 else 0) := by
  cases effect with
  | invalidated now invalidates =>
      rw [Operation.isGet_of_isInvalidation invalidates]
      rfl
  | missed | expired => rfl
  | hit => exact Nat.add_right_comm _ _ _
  | stored now key value =>
      rcases makeRoom_eq (c := c) key with same | ⟨-, -, _, -, -, same⟩ <;> rw [same] <;> rfl

/-! ### Any events -/

variable {s : CacheSettings}

theorem size_after_le (enabled : s.enabled = true) (history : List (Event κ β)) :
    ((ofSettings s).after history).size ≤ max s.maxEntries 1 := by
  induction history using List.reverseRecOn with
  | nil => exact Nat.zero_le _
  | append_singleton history x ih =>
      obtain ⟨still, -, capacity⟩ := after_settings (c := ofSettings s) enabled history
      have listed := (tracks_after enabled history).toListed
      rw [after_concat]
      have room : 0 < ((ofSettings s).after history).capacity := by
        rw [capacity]
        exact Nat.lt_of_lt_of_le Nat.zero_lt_one (Nat.le_max_right _ _)
      have within := Nat.le_trans ih (Nat.le_of_eq capacity.symm)
      exact Nat.le_trans (listed.size_effect room within (act_effect still x))
        (Nat.le_of_eq capacity)

theorem counts_after (enabled : s.enabled = true) (history : List (Event κ β)) :
    ((ofSettings s).after history).hits + ((ofSettings s).after history).misses =
      reads history := by
  induction history using List.reverseRecOn with
  | nil => rfl
  | append_singleton history x ih =>
      have still := (after_settings (c := ofSettings s) enabled history).1
      rw [after_concat, (act_effect still x).counts, ih, reads_concat]

/-- Nothing can be done to a cache that is not enabled. -/
theorem after_of_disabled (disabled : s.enabled = false) (history : List (Event κ β)) :
    (ofSettings s).after history = ofSettings s := by
  have stays : ∀ x : Event κ β, (ofSettings s).act x = ofSettings s := by
    rintro ⟨now, operation⟩
    cases operation with
    | put key value => rw [act, put, if_neg (by simp [ofSettings, disabled])]
    | get key => rw [act, get, if_neg (by simp [ofSettings, disabled])]
    | invalidate | invalidateWhere | clear => rfl
  induction history using List.reverseRecOn with
  | nil => rfl
  | append_singleton history x ih => rw [after_concat, ih, stays]

/-- **What holds of every cache**, whatever was done to it at whatever times.  Its order of use
lists the keys of the entries, each of them once and nothing else; there are no more entries than
there is room for, which is for one at least; every read was counted once; and a cache that is not
enabled has no entries and counts nothing. -/
theorem listed_and_bounded_after (s : CacheSettings) (history : List (Event κ β)) :
    let c : TimedCache κ β := (ofSettings s).after history
    c.Listed ∧ c.size ≤ max 1 s.maxEntries ∧
      c.hits + c.misses = (if s.enabled then reads history else 0) ∧
      (s.enabled = true ∨ c.entries = []) := by
  intro c
  rw [Nat.max_comm]
  cases enabled : s.enabled with
  | true =>
      exact ⟨(tracks_after enabled history).toListed, size_after_le enabled history,
        counts_after enabled history, .inl rfl⟩
  | false =>
      have same : c = ofSettings s := after_of_disabled enabled history
      rw [same]
      exact ⟨listed_ofSettings s, Nat.zero_le _, rfl, .inr rfl⟩

/-- Where there is room for two, a key that is put again drops nothing, a third key drops the one
that was used first, and reading an entry that is too old drops it. -/
example :
    let c := (ofSettings ⟨2, 60, true⟩ : TimedCache String Nat).after
      [⟨0, .put "a" 1⟩, ⟨1, .put "b" 2⟩, ⟨2, .get "a"⟩, ⟨3, .put "a" 3⟩, ⟨4, .put "c" 4⟩,
        ⟨5, .get "b"⟩, ⟨90000, .get "c"⟩]
    c.recency = ["a"] ∧ c.size = 1 ∧ c.hits + c.misses = 3 := by
  decide

end Interchange.TimedCache
