import Interchange.Proofs.Cache.History
import Mathlib.Data.List.Dedup
import Mathlib.Data.List.Perm.Subperm
/-!
# What a cache answers

A cache answers with what was put last under a key, if that was not invalidated since and is not
too old.  It may have dropped the entry to make room for others, but not as long as fewer other keys
were used since than it has room for: the keys are kept in the order of their last use, and an entry
goes when all others that there is room for, and the one that is stored, were used after it.

* `TimedCache.Stands` — that something was put last under a key and not invalidated since.
* `TimedCache.usedSince` — the keys that were put or hit since a key was.
* `TimedCache.Tracks` — the invariant: a cache in step with its history.
* `TimedCache.get_after` — an answer is what stands, and what stands and was used of late is the
  answer.
-/

namespace Interchange.TimedCache

variable {κ β : Type} [DecidableEq κ]

/-! ### Histories -/

/-- The keys that events use, in their order. -/
def uses (c : TimedCache κ β) : List (Event κ β) → List κ
  | [] => []
  | x :: history => (c.used? x).toList ++ (c.act x).uses history

/-- The keys that were used since a key was, the latest first. -/
def usedSince (key : κ) (uses : List κ) : List κ := uses.reverse.takeWhile fun k => k ≠ key

/-- **What stands under a key**: it was put there, and since then nothing was put there and no
invalidation covered the key. -/
def Stands (key : κ) (e : Stamped β) (history : List (Event κ β)) : Prop :=
  ∃ earlier later, history = earlier ++ ⟨e.since, .put key e.value⟩ :: later ∧
    ∀ x ∈ later, x.operation.stores key = false ∧ x.operation.covers key = false

theorem uses_concat (history : List (Event κ β)) (x : Event κ β) : ∀ c : TimedCache κ β,
    c.uses (history ++ [x]) = c.uses history ++ ((c.after history).used? x).toList := by
  induction history with
  | nil => intro c; simp [uses, after]
  | cons y history ih =>
      intro c
      rw [List.cons_append, uses, uses, ih, List.append_assoc]
      rfl

theorem usedSince_concat (key k : κ) (uses : List κ) :
    usedSince key (uses ++ [k]) = if k = key then [] else k :: usedSince key uses := by
  rw [usedSince, List.reverse_concat, List.takeWhile_cons]
  by_cases here : k = key <;> simp [here, usedSince]

/-- The use of another key is one more. -/
theorem usedSince_subset {key : κ} {used : Option κ} (other : used ≠ some key) (uses : List κ) :
    usedSince key uses ⊆ usedSince key (uses ++ used.toList) := by
  cases used with
  | none => simp
  | some k =>
      rw [Option.toList_some, usedSince_concat, if_neg fun same => other (congrArg some same)]
      exact List.subset_cons_self k _

theorem length_dedup_le {l m : List κ} (sub : l ⊆ m) :
    l.dedup.length ≤ m.dedup.length :=
  (l.nodup_dedup.subperm fun _ among =>
    List.mem_dedup.mpr (sub (List.mem_dedup.mp among))).length_le

theorem not_stands_nil {key : κ} {e : Stamped β} : ¬Stands key e [] := by
  rintro ⟨earlier, later, split, -⟩
  simp at split

theorem Stands.mem {key : κ} {e : Stamped β} {history : List (Event κ β)}
    (stands : Stands key e history) : ⟨e.since, .put key e.value⟩ ∈ history := by
  obtain ⟨earlier, later, rfl, -⟩ := stands
  simp

/-- What stands after one more event was put by it, or stood before and was left alone. -/
theorem stands_concat_iff {key : κ} {e : Stamped β} {history : List (Event κ β)} {x : Event κ β} :
    Stands key e (history ++ [x]) ↔
      x = ⟨e.since, .put key e.value⟩ ∨
        Stands key e history ∧ x.operation.stores key = false ∧
          x.operation.covers key = false := by
  constructor
  · rintro ⟨earlier, later, split, left⟩
    rcases List.eq_nil_or_concat later with rfl | ⟨later, y, rfl⟩
    · exact .inl (List.cons.inj (List.append_inj' split rfl).2).1
    · rw [List.concat_eq_append, ← List.cons_append, ← List.append_assoc] at split
      obtain ⟨rfl, last⟩ := List.append_inj' split rfl
      cases last
      refine .inr ⟨⟨earlier, later, rfl, fun z among => left z ?_⟩, left x ?_⟩ <;> simp [*]
  · rintro (rfl | ⟨⟨earlier, later, rfl, left⟩, leaves⟩)
    · exact ⟨history, [], rfl, by simp⟩
    · refine ⟨earlier, later ++ [x], by simp, fun z among => ?_⟩
      rcases List.mem_append.mp among with among | among
      · exact left z among
      · exact List.mem_singleton.mp among ▸ leaves

/-- At most one thing stands under a key. -/
theorem Stands.unique {key : κ} {e f : Stamped β} {history : List (Event κ β)}
    (stands : Stands key e history) (also : Stands key f history) : e = f := by
  induction history using List.reverseRecOn with
  | nil => exact absurd stands not_stands_nil
  | append_singleton history x ih =>
      rcases stands_concat_iff.mp stands with rfl | ⟨stands, leaves, -⟩
      · rcases stands_concat_iff.mp also with same | ⟨-, leaves, -⟩
        · cases e; cases f; cases same; rfl
        · simp [Operation.stores] at leaves
      · rcases stands_concat_iff.mp also with rfl | ⟨also, -⟩
        · simp [Operation.stores] at leaves
        · exact ih stands also

/-! ### A cache in step with its history -/

variable {c : TimedCache κ β} {key : κ}

/-- **A cache in step with its history**: what it has under a key stands there, and its keys are in
the order of their last use. -/
structure Tracks (c : TimedCache κ β) (history : List (Event κ β)) (uses : List κ) : Prop
    extends c.Listed where
  stands : ∀ {key e}, c.find? key = some e → Stands key e history
  order : c.recency.Pairwise fun k later => later ∈ usedSince k uses

variable {history : List (Event κ β)} {uses : List κ}

theorem tracks_ofSettings (s : CacheSettings) : (ofSettings s : TimedCache κ β).Tracks [] [] where
  toListed := listed_ofSettings s
  stands found := by simp [find?, ofSettings] at found
  order := .nil

namespace Tracks

/-- Entries may be dropped at any time. -/
theorem invalidateWhere (tracks : c.Tracks history uses) (p : κ → Bool) :
    (c.invalidateWhere p).Tracks history uses where
  toListed := tracks.toListed.invalidateWhere p
  stands found := by
    rw [find?_invalidateWhere] at found
    split at found
    · cases found
    · exact tracks.stands found
  order := tracks.order.filter _

theorem makeRoom (tracks : c.Tracks history uses) (key : κ) :
    (c.makeRoom key).Tracks history uses :=
  makeRoom_of_invalidateWhere (·.Tracks history uses) tracks tracks.invalidateWhere key

/-- What is counted does not matter. -/
theorem count (tracks : c.Tracks history uses) (hits misses : Nat) :
    ({ c with hits := hits, misses := misses } : TimedCache κ β).Tracks history uses :=
  ⟨⟨tracks.once, tracks.keys⟩, tracks.stands, tracks.order⟩

/-- Nor does an event that leaves alone what is kept. -/
theorem extend (tracks : c.Tracks history uses) {x : Event κ β}
    (leaves : ∀ key, (c.find? key).isSome →
      x.operation.stores key = false ∧ x.operation.covers key = false) :
    c.Tracks (history ++ [x]) uses :=
  { tracks with
    stands := fun found => stands_concat_iff.mpr <| .inr
      ⟨tracks.stands found, leaves _ (found ▸ rfl)⟩ }

/-- The latest use comes after all others. -/
theorem order_concat (tracks : c.Tracks history uses) (key : κ) :
    (c.recency.filter (· ≠ key) ++ [key]).Pairwise fun k later =>
      later ∈ usedSince k (uses ++ [key]) := by
  rw [List.pairwise_append]
  refine ⟨(tracks.order.filter _).imp_of_mem fun {k later} among _ since => ?_,
    List.pairwise_singleton _ _, fun k among later last => ?_⟩
  -- In both cases the key is another one, so that its use is one more since that of `k`.
  all_goals
    have other : key ≠ k := fun same => by simp [same] at among
    rw [usedSince_concat, if_neg other]
  · exact List.mem_cons_of_mem _ since
  · exact List.mem_singleton.mp last ▸ List.mem_cons_self

/-- A hit puts its key last. -/
theorem touch (tracks : c.Tracks history uses) (present : (c.find? key).isSome) :
    (c.touch key).Tracks history (uses ++ [key]) where
  toListed := tracks.toListed.touch present
  stands := tracks.stands
  order := tracks.order_concat key

/-- What is stored stands, and its key is last. -/
theorem store (tracks : c.Tracks history uses) (now : Nat) (key : κ) (value : β) :
    (c.store key ⟨value, now⟩).Tracks (history ++ [⟨now, .put key value⟩]) (uses ++ [key]) where
  toListed := tracks.toListed.store key _
  stands {k e} found := by
    rw [find?_store] at found
    split at found
    · next same =>
        cases found
        exact stands_concat_iff.mpr <| .inl (same ▸ rfl)
    · next other =>
        exact stands_concat_iff.mpr <| .inr ⟨tracks.stands found, decide_eq_false other, rfl⟩
  order := tracks.order_concat key

/-- **Every event keeps a cache in step.** -/
theorem effect (tracks : c.Tracks history uses) {x : Event κ β} {used : Option κ}
    {d : TimedCache κ β} (effect : c.Effect x used d) :
    d.Tracks (history ++ [x]) (uses ++ used.toList) := by
  cases effect with
  | @invalidated now operation invalidates =>
      rw [Option.toList_none, List.append_nil]
      refine (tracks.invalidateWhere _).extend fun key kept => ?_
      refine ⟨Operation.stores_of_isInvalidation invalidates key, ?_⟩
      rw [find?_invalidateWhere] at kept
      cases covers : operation.covers key with
      | false => rfl
      | true => simp [covers] at kept
  | missed =>
      rw [Option.toList_none, List.append_nil]
      exact (tracks.extend fun _ _ => ⟨rfl, rfl⟩).count c.hits (c.misses + 1)
  | expired =>
      rw [Option.toList_none, List.append_nil]
      exact ((tracks.invalidateWhere _).extend fun _ _ => ⟨rfl, rfl⟩).count c.hits (c.misses + 1)
  | hit found =>
      exact ((tracks.touch (found ▸ rfl)).extend fun _ _ => ⟨rfl, rfl⟩).count (c.hits + 1) c.misses
  | stored now key value => exact (tracks.makeRoom key).store now key value

/-- When a key is the first to make room for a new one, all others and the new one were used since
it was: these are as many as there are entries. -/
theorem size_le (tracks : c.Tracks history uses) {k : κ} {later : List κ}
    (first : c.recency = key :: later) (new : (c.find? k).isNone) :
    c.size ≤ (usedSince key (uses ++ [k])).dedup.length := by
  have absent : k ∉ c.recency := by simpa [tracks.mem_iff] using new
  have once := tracks.once
  have order := tracks.order
  rw [first] at absent once order
  have size : c.size = (k :: later).length := by
    rw [tracks.size_eq, first]
    rfl
  rw [usedSince_concat, if_neg (List.ne_of_not_mem_cons absent), size]
  -- The new key and the later ones are different from one another, and each of them was used.
  refine (List.Nodup.subperm ?_ ?_).length_le
  · exact List.nodup_cons.mpr ⟨List.not_mem_of_not_mem_cons absent, once.of_cons⟩
  · intro other among
    rw [List.mem_dedup]
    rcases List.mem_cons.mp among with rfl | among
    · exact List.mem_cons_self
    · exact List.mem_cons_of_mem _ (List.rel_of_pairwise_cons order among)

/-- What is neither replaced nor covered, not too old and used of late is kept. -/
theorem keeps (tracks : c.Tracks history uses) {x : Event κ β} {used : Option κ}
    {d : TimedCache κ β} (effect : c.Effect x used d) {e : Stamped β}
    (found : c.find? key = some e) (stores : x.operation.stores key = false)
    (covers : x.operation.covers key = false) (fresh : x.time - e.since ≤ c.lifetime)
    (few : (usedSince key (uses ++ used.toList)).dedup.length < c.capacity) :
    d.find? key = some e := by
  -- An entry is lost to an invalidation that covers it, to its age, or to an entry that is stored;
  -- a hit or a miss loses none.
  cases effect with
  | invalidated =>
      rw [find?_invalidateWhere, if_neg (Bool.eq_false_iff.mp covers), found]
  | missed => exact found
  | @expired now k f also old =>
      have other : ¬key = k := by
        rintro rfl
        cases found.symm.trans also
        exact old fresh
      have kept : (c.invalidate k).find? key = _ := find?_invalidateWhere _
      rw [if_neg (by simpa using other), found] at kept
      exact kept
  | hit => exact found
  | stored now k value =>
      rw [find?_store, if_neg (of_decide_eq_false stores)]
      rcases makeRoom_eq (c := c) k with same | ⟨new, full, oldest, later, first, same⟩
      · rw [same, found]
      · have other : ¬key = oldest := by
          rintro rfl
          have many := Nat.le_trans full (tracks.size_le first new)
          exact absurd few (Nat.not_lt_of_le many)
        rw [same, invalidate, find?_invalidateWhere, if_neg (by simpa using other), found]

end Tracks

/-! ### What is got -/

variable {s : CacheSettings}

/-- A cache is in step with all that was done to it. -/
theorem tracks_after (enabled : s.enabled = true) (history : List (Event κ β)) :
    ((ofSettings s).after history).Tracks history ((ofSettings s).uses history) := by
  induction history using List.reverseRecOn with
  | nil => exact tracks_ofSettings s
  | append_singleton history x ih =>
      rw [after_concat, uses_concat]
      exact ih.effect (act_effect (after_settings enabled history).1 x)

/-- **What stands is kept** until it is too old, as long as fewer other keys were used since its own
was than there is room for. -/
theorem find?_after (enabled : s.enabled = true) {e : Stamped β} (stands : Stands key e history)
    (fresh : ∀ x ∈ history, x.time - e.since ≤ s.lifetimeMillis)
    (few : (usedSince key ((ofSettings s : TimedCache κ β).uses history)).dedup.length <
      max s.maxEntries 1) :
    ((ofSettings s).after history).find? key = some e := by
  induction history using List.reverseRecOn with
  | nil => exact absurd stands not_stands_nil
  | append_singleton history x ih =>
      obtain ⟨still, lifetime, capacity⟩ := after_settings (c := ofSettings s) enabled history
      have effect := act_effect still x
      rw [uses_concat] at few
      rw [after_concat]
      rcases stands_concat_iff.mp stands with rfl | ⟨stands, stores, covers⟩
      · rw [act, put_of_enabled still, find?_store, if_pos rfl]
      · have found : ((ofSettings s).after history).find? key = some e := by
          by_cases own : ((ofSettings s).after history).used? x = some key
          · -- The count starts again here, and says nothing of the time before; but a key is only
            -- hit where it has an entry.
            obtain ⟨f, found⟩ := Option.isSome_iff_exists.mp ((own ▸ effect).found stores)
            rw [found, ((tracks_after enabled history).stands found).unique stands]
          · refine ih stands (fun y among => fresh y (List.mem_append_left _ among)) ?_
            exact Nat.lt_of_le_of_lt (length_dedup_le (usedSince_subset own _)) few
        exact (tracks_after enabled history).keeps effect found stores covers
          (lifetime ▸ fresh x (by simp)) (capacity ▸ few)

/-- **What a cache answers**, when it is asked at a time that none of what was done to it is later
than, as when the clock never goes back.  An answer is what was put last under the key, not
invalidated since and not too old.  And what was put last under the key is the answer if it was not
invalidated since, is not too old, and fewer other keys were put or hit since the key was than there
is room for. -/
theorem get_after (s : CacheSettings) (enabled : s.enabled = true) (history : List (Event κ β))
    (now : Nat) (forward : ∀ x ∈ history, x.time ≤ now) (key : κ) :
    let c : TimedCache κ β := ofSettings s
    (∀ value, ((c.after history).get now key).1 = some value →
      ∃ e, Stands key e history ∧ e.value = value ∧ e.since ≤ now ∧
        now - e.since ≤ s.lifetimeMillis) ∧
    ∀ e, Stands key e history → now - e.since ≤ s.lifetimeMillis →
      (usedSince key (c.uses history)).dedup.length < max s.maxEntries 1 →
      ((c.after history).get now key).1 = some e.value := by
  intro c
  obtain ⟨still, lifetime, -⟩ := after_settings (c := c) enabled history
  constructor
  · intro value hit
    rcases get_cases still now key with ⟨e, found, fresh, got⟩ | ⟨e, -, -, got⟩ | ⟨-, got⟩ <;>
      rw [got] at hit <;> cases hit
    have stands := (tracks_after enabled history).stands found
    exact ⟨e, stands, rfl, forward _ stands.mem, Nat.le_trans fresh (Nat.le_of_eq lifetime)⟩
  · intro e stands fresh few
    have found := find?_after enabled stands
      (fun x among => Nat.le_trans (Nat.sub_le_sub_right (forward x among) _) fresh) few
    rw [get, if_pos still, found]
    have usable : (c.after history).isFresh now e = true :=
      decide_eq_true (Nat.le_trans fresh (Nat.le_of_eq lifetime.symm))
    simp only [usable, if_true]

/-- Two keys, one of which is hit before a third is put, where there is room for two. -/
def third : List (Event String Nat) :=
  [⟨0, .put "a" 1⟩, ⟨1, .put "b" 2⟩, ⟨2, .get "a"⟩, ⟨3, .put "c" 3⟩]

/-- The key that was hit is still there, and the other one made room. -/
theorem hit_key_kept :
    (((ofSettings ⟨2, 60, true⟩).after third).get 4 "a").1 = some 1 ∧
    (∃ e, Stands "a" e third ∧ e.value = 1 ∧ e.since ≤ 4 ∧ 4 - e.since ≤ 60000) ∧
    (((ofSettings ⟨2, 60, true⟩).after third).get 4 "b").1 = none := by
  have answers := get_after ⟨2, 60, true⟩ rfl third 4 (by decide) "a"
  have kept := answers.2 ⟨1, 0⟩ ⟨[], third.tail, rfl, by decide⟩ (by decide) (by decide)
  exact ⟨kept, answers.1 1 kept, by decide⟩

end Interchange.TimedCache
