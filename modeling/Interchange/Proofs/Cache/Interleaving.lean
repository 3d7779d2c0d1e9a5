import Interchange.Proofs.Cache.History
import Interchange.Proofs.Cache.Transparency
/-!
# Calls that interleave

A read through a cache takes three steps: it looks into the cache, reads what stands behind it, and
keeps what it has read.  Each of them is done as one, but between them there is room for other
calls, for forgetting, and for changes of what stands behind.  So a call that has read a pipeline
before it is replaced and forgotten may keep it afterwards, and calls that start later are answered
with it. This is the one way in which forgetting is undone.

* `cachedRead_eq_steps` — the steps of a read.
* `Traffic.after` — any calls, in whatever order their steps are done.
* `Traffic.after_uninterrupted` — a call whose steps are done at once is a read through the cache.
* `Traffic.Effect` — what one move does; `Traffic.Answers` — the answers that are still to be had.
* `Traffic.StaysForgotten` — that no later call is answered with what was replaced before.
* `Traffic.staysForgotten_iff` — this is so unless a call still has to keep what was replaced.
-/

namespace Interchange

/-! ### The steps of a read -/

section Steps

variable {σ κ β ε : Type} [DecidableEq κ]

/-- The first step of a read through a cache: what the cache has. -/
def cachedLook (clock : StateM σ Nat) (slot : CacheSlot σ κ β) (key : κ) :
    StateM (Cached σ) (Option β) := do
  let now ← Cached.behind clock
  let (hit, cache) := (slot.cache (← get)).get now key
  modify (slot.store cache)
  return hit

/-- The last step: what was read is kept. -/
def cachedKeep (clock : StateM σ Nat) (slot : CacheSlot σ κ β) (key : κ) (v : β) :
    StateM (Cached σ) Unit := do
  let now ← Cached.behind clock
  modify fun s => slot.store ((slot.cache s).put now key v) s

/-- A read looks, reads behind the cache if there was nothing, and keeps what it has read. -/
theorem cachedRead_eq_steps (clock : StateM σ Nat) (slot : CacheSlot σ κ β)
    (read : StateM σ (Except ε β)) (key : κ) :
    cachedRead clock slot read key = (do
      match ← cachedLook clock slot key with
      | some v => return .ok v
      | none =>
        match ← Cached.behind read with
        | .error e => return .error e
        | .ok v =>
          cachedKeep clock slot key v
          return .ok v) := rfl

end Steps

/-! ### Calls, step by step -/

/-- **What stands behind the caches**: the time that a clock shows, and what a read of a pipeline
gives.  Neither changes by being looked at. -/
structure Backing (σ : Type) where
  time : σ → Nat
  pipeline : σ → String → Except Error (Option Pipeline)

namespace Backing

variable {σ : Type}

def clock (o : Backing σ) : StateM σ Nat := fun w => (o.time w, w)

def read (o : Backing σ) (id : String) : StateM σ (Except Error (Option Pipeline)) :=
  fun w => (o.pipeline w id, w)

end Backing

/-- How far a call that reads a pipeline has come. -/
inductive Stage
  | waiting
  /-- The cache had nothing. -/
  | missed (id : String)
  /-- An answer was read, and is still to be kept. -/
  | fetched (id : String) (answer : Option Pipeline)
  | returned (id : String) (answer : Except Error (Option Pipeline))

/-- Something that is done as one: a step of a call, forgetting, or a change of what stands behind
the caches, be it of the pipelines or of the time. -/
inductive Move (σ : Type)
  | look (call : Nat) (id : String)
  | fetch (call : Nat)
  | keep (call : Nat)
  | forget (f : Forgetting)
  | change (world : σ)

/-- Caches, and the calls that are made of them, each of them once. -/
structure Traffic (σ : Type) where
  caches : Cached σ
  stage : Nat → Stage

namespace Traffic

variable {σ : Type}

/-- No call has begun, and the caches are empty. -/
def start (s : CacheSettings) (world : σ) : Traffic σ := ⟨.ofSettings s world, fun _ => .waiting⟩

/-- A call comes to a stage, and leaves caches behind. -/
def advance (t : Traffic σ) (call : Nat) (caches : Cached σ) (stage : Stage) : Traffic σ :=
  ⟨caches, Function.update t.stage call stage⟩

/-- The stage of a call that has looked into the cache. -/
def looked (id : String) : Option (Option Pipeline) → Stage
  | some answer => .returned id (.ok answer)
  | none => .missed id

/-- The stage of a call that has read. -/
def fetchedFrom (id : String) : Except Error (Option Pipeline) → Stage
  | .ok answer => .fetched id answer
  | .error e => .returned id (.error e)

/-- What one move does.  A call whose turn has not come for a step does nothing. -/
def act (o : Backing σ) (t : Traffic σ) : Move σ → Traffic σ
  | .look call id =>
    match t.stage call with
    | .waiting =>
      let (hit, caches) := (cachedLook o.clock Cached.pipelineSlot id).run t.caches
      t.advance call caches (looked id hit)
    | _ => t
  | .fetch call =>
    match t.stage call with
    | .missed id =>
      let (read, caches) := (Cached.behind (o.read id)).run t.caches
      t.advance call caches (fetchedFrom id read)
    | _ => t
  | .keep call =>
    match t.stage call with
    | .fetched id answer =>
      let ((), caches) := (cachedKeep o.clock Cached.pipelineSlot id answer).run t.caches
      t.advance call caches (.returned id (.ok answer))
    | _ => t
  | .forget f => { t with caches := t.caches.forget f }
  | .change world => { t with caches := { t.caches with inner := world } }

/-- What moves do, one after the other. -/
def after (o : Backing σ) (t : Traffic σ) (moves : List (Move σ)) : Traffic σ :=
  moves.foldl (act o) t

variable {o : Backing σ} {t : Traffic σ}

theorem after_append (earlier later : List (Move σ)) :
    t.after o (earlier ++ later) = (t.after o earlier).after o later :=
  List.foldl_append

theorem after_concat (moves : List (Move σ)) (m : Move σ) :
    t.after o (moves ++ [m]) = (t.after o moves).act o m := by
  rw [after_append]
  rfl

/-! #### The steps of one call -/

section Look

variable {caches : Cached σ} {cache : TimedCache String (Option Pipeline)} {id : String}
  {hit : Option (Option Pipeline)}

theorem run_cachedLook
    (outcome : caches.pipelines.get (o.time caches.inner) id = (hit, cache)) :
    (cachedLook o.clock Cached.pipelineSlot id).run caches =
      (hit, { caches with pipelines := cache }) := by
  have run : (cachedLook o.clock Cached.pipelineSlot id).run caches =
      ((caches.pipelines.get (o.time caches.inner) id).1,
        { caches with pipelines := (caches.pipelines.get (o.time caches.inner) id).2 }) := rfl
  rw [run, outcome]

theorem act_look {call : Nat} (waiting : t.stage call = .waiting)
    (outcome : t.caches.pipelines.get (o.time t.caches.inner) id = (hit, cache)) :
    t.act o (.look call id) =
      t.advance call { t.caches with pipelines := cache } (looked id hit) := by
  rw [act, waiting]
  dsimp only
  rw [run_cachedLook outcome]

end Look

theorem act_fetch {call : Nat} {id : String} (missed : t.stage call = .missed id) :
    t.act o (.fetch call) =
      t.advance call t.caches (fetchedFrom id (o.pipeline t.caches.inner id)) := by
  rw [act, missed]
  rfl

theorem act_keep {call : Nat} {id : String} {answer : Option Pipeline}
    (fetched : t.stage call = .fetched id answer) :
    t.act o (.keep call) =
      t.advance call
        { t.caches with
          pipelines := t.caches.pipelines.put (o.time t.caches.inner) id answer }
        (.returned id (.ok answer)) := by
  rw [act, fetched]
  rfl

/-- A call that has returned has nothing left to do. -/
theorem act_of_returned {call : Nat} {id : String} {answer : Except Error (Option Pipeline)}
    (returned : t.stage call = .returned id answer) :
    t.act o (.fetch call) = t ∧ t.act o (.keep call) = t := by
  rw [act, act, returned]
  exact ⟨rfl, rfl⟩

theorem stage_advance (call other : Nat) (caches : Cached σ) (stage : Stage) :
    (t.advance call caches stage).stage other = if other = call then stage else t.stage other :=
  Function.update_apply _ _ _ _

theorem caches_advance (call : Nat) (caches : Cached σ) (stage : Stage) :
    (t.advance call caches stage).caches = caches := rfl

theorem advance_advance (call : Nat) (first second : Cached σ) (earlier later : Stage) :
    (t.advance call first earlier).advance call second later = t.advance call second later := by
  rw [advance, advance, advance, Function.update_idem]

section Uninterrupted

variable {caches : Cached σ} {cache : TimedCache String (Option Pipeline)} {id : String}

theorem run_cachedRead_of_hit {answer : Option Pipeline}
    (hit : caches.pipelines.get (o.time caches.inner) id = (some answer, cache)) :
    (cachedRead o.clock Cached.pipelineSlot (o.read id) id).run caches =
      (.ok answer, { caches with pipelines := cache }) := by
  rw [cachedRead_eq_steps, StateT.run_bind, run_cachedLook hit]
  rfl

theorem run_cachedRead_of_missed
    (missed : caches.pipelines.get (o.time caches.inner) id = (none, cache)) :
    (cachedRead o.clock Cached.pipelineSlot (o.read id) id).run caches =
      match o.pipeline caches.inner id with
      | .error e => (.error e, { caches with pipelines := cache })
      | .ok answer =>
        (.ok answer,
          { caches with pipelines := cache.put (o.time caches.inner) id answer }) := by
  have read : (Cached.behind (o.read id)).run { caches with pipelines := cache } =
      (o.pipeline caches.inner id, { caches with pipelines := cache }) := rfl
  rw [cachedRead_eq_steps, StateT.run_bind, run_cachedLook missed]
  refine (StateT.run_bind _ _ _).trans ?_
  rw [read]
  cases o.pipeline caches.inner id <;> rfl

/-- **A call whose steps are done at once** is a read through the cache. -/
theorem after_uninterrupted {call : Nat} (waiting : t.stage call = .waiting) (id : String) :
    let read := (cachedRead o.clock Cached.pipelineSlot (o.read id) id).run t.caches
    t.after o [.look call id, .fetch call, .keep call] =
      t.advance call read.2 (.returned id read.1) := by
  intro read
  have comes : ∀ caches stage, (t.advance call caches stage).stage call = stage :=
    fun caches stage => by rw [stage_advance, if_pos rfl]
  have steps : t.after o [.look call id, .fetch call, .keep call] =
      ((t.act o (.look call id)).act o (.fetch call)).act o (.keep call) := rfl
  rcases outcome : t.caches.pipelines.get (o.time t.caches.inner) id with ⟨_ | answer, cache⟩
  · have come : read = _ := run_cachedRead_of_missed outcome
    rw [steps, act_look waiting outcome, looked, act_fetch (comes _ _), advance_advance,
      caches_advance, come]
    dsimp only
    cases o.pipeline t.caches.inner id with
    | error e => exact (act_of_returned (comes _ _)).2
    | ok answer =>
        rw [fetchedFrom, act_keep (comes _ _), advance_advance]
        rfl
  · have come : read = _ := run_cachedRead_of_hit outcome
    rw [steps, act_look waiting outcome, looked, (act_of_returned (comes _ _)).1, come]
    exact (act_of_returned (comes _ _)).2

end Uninterrupted

/-! #### What one move does -/

/-- **What one move does**: nothing, or the step of a call whose turn it is, or something else that
leaves the calls alone. -/
inductive Effect (o : Backing σ) (t : Traffic σ) : Move σ → Traffic σ → Prop
  | idle {m : Move σ} : Effect o t m t
  | looked {call : Nat} {id : String} {hit : Option (Option Pipeline)}
      {cache : TimedCache String (Option Pipeline)} (waiting : t.stage call = .waiting)
      (outcome : t.caches.pipelines.get (o.time t.caches.inner) id = (hit, cache)) :
      Effect o t (.look call id)
        (t.advance call { t.caches with pipelines := cache } (looked id hit))
  | fetched {call : Nat} {id : String} (missed : t.stage call = .missed id) :
      Effect o t (.fetch call)
        (t.advance call t.caches (fetchedFrom id (o.pipeline t.caches.inner id)))
  | kept {call : Nat} {id : String} {answer : Option Pipeline}
      (fetched : t.stage call = .fetched id answer) :
      Effect o t (.keep call)
        (t.advance call
          { t.caches with
            pipelines := t.caches.pipelines.put (o.time t.caches.inner) id answer }
          (.returned id (.ok answer)))
  | forgotten (f : Forgetting) : Effect o t (.forget f) { t with caches := t.caches.forget f }
  | changed (world : σ) :
      Effect o t (.change world) { t with caches := { t.caches with inner := world } }

/-- Whatever is done, it is one of these. -/
theorem act_effect (o : Backing σ) (t : Traffic σ) (m : Move σ) : t.Effect o m (t.act o m) := by
  cases m with
  | look call id =>
      cases stage : t.stage call with
      | waiting => exact act_look stage rfl ▸ .looked stage rfl
      | missed | fetched | returned =>
          rw [act, stage]
          exact .idle
  | fetch call =>
      cases stage : t.stage call with
      | missed id => exact act_fetch stage ▸ .fetched stage
      | waiting | fetched | returned =>
          rw [act, stage]
          exact .idle
  | keep call =>
      cases stage : t.stage call with
      | fetched id answer => exact act_keep stage ▸ .kept stage
      | waiting | missed | returned =>
          rw [act, stage]
          exact .idle
  | forget f => exact .forgotten f
  | change world => exact .changed world

variable {u : Traffic σ} {m : Move σ}

/-- Forgetting drops pipelines, if it does anything to them. -/
theorem pipelines_forget (caches : Cached σ) (f : Forgetting) :
    (caches.forget f).pipelines = caches.pipelines ∨
      ∃ p, (caches.forget f).pipelines = caches.pipelines.invalidateWhere p := by
  cases f with
  | pipeline id => exact .inr ⟨fun k => k = id, rfl⟩
  | configuration => exact .inr ⟨fun _ => true, TimedCache.clear_eq_invalidateWhere⟩
  | system | table | tables => exact .inl rfl

theorem enabled_forget (caches : Cached σ) (f : Forgetting) :
    (caches.forget f).pipelines.enabled = caches.pipelines.enabled := by
  rcases pipelines_forget caches f with same | ⟨p, same⟩ <;> rw [same]
  rfl

theorem Effect.enabled (effect : t.Effect o m u) :
    u.caches.pipelines.enabled = t.caches.pipelines.enabled := by
  cases effect with
  | idle | fetched | changed => rfl
  | forgotten f => exact enabled_forget t.caches f
  | kept => exact TimedCache.enabled_put _ _ _
  | @looked call id hit cache waiting outcome =>
      have same := TimedCache.enabled_get (c := t.caches.pipelines) (o.time t.caches.inner) id
      rwa [outcome] at same

/-- What stands behind the caches is changed by changes only. -/
theorem Effect.inner (effect : t.Effect o m u) (unchanged : ∀ world, m ≠ .change world) :
    u.caches.inner = t.caches.inner := by
  cases effect with
  | idle | looked | fetched | kept => rfl
  | forgotten f => cases f <;> rfl
  | changed world => exact absurd rfl (unchanged world)

/-- At most one call moves on. -/
theorem Effect.waiting (effect : t.Effect o m u) :
    ∃ mover, ∀ call, call ≠ mover → t.stage call = .waiting → u.stage call = .waiting := by
  have others : ∀ mover caches stage, ∃ mover', ∀ call, call ≠ mover' →
      t.stage call = .waiting → (t.advance mover caches stage).stage call = .waiting :=
    fun mover caches stage => ⟨mover, fun call other waiting => by
      rw [stage_advance, if_neg other, waiting]⟩
  cases effect with
  | idle | forgotten | changed => exact ⟨0, fun _ _ waiting => waiting⟩
  | looked | fetched | kept => exact others _ _ _

theorem enabled_after (s : CacheSettings) (world : σ) (moves : List (Move σ)) :
    ((start s world).after o moves).caches.pipelines.enabled = s.enabled := by
  induction moves using List.reverseRecOn with
  | nil => rfl
  | append_singleton moves m ih =>
      rw [after_concat, (act_effect o _ m).enabled, ih]

theorem inner_after {moves : List (Move σ)} (unchanged : ∀ m ∈ moves, ∀ world, m ≠ .change world) :
    (t.after o moves).caches.inner = t.caches.inner := by
  induction moves using List.reverseRecOn with
  | nil => rfl
  | append_singleton moves m ih =>
      rw [after_concat, (act_effect o _ m).inner (unchanged m (by simp))]
      exact ih fun m' among => unchanged m' (List.mem_append_left _ among)

/-- There are always calls that have not begun. -/
theorem exists_waiting (s : CacheSettings) (world : σ) (moves : List (Move σ)) :
    ∃ bound, ∀ call, bound ≤ call →
      ((start s world).after o moves).stage call = .waiting := by
  induction moves using List.reverseRecOn with
  | nil => exact ⟨0, fun _ _ => rfl⟩
  | append_singleton moves m ih =>
      obtain ⟨bound, beyond⟩ := ih
      rw [after_concat]
      obtain ⟨mover, others⟩ := (act_effect o ((start s world).after o moves) m).waiting
      refine ⟨max bound (mover + 1), fun call far => ?_⟩
      exact others call (by omega) (beyond call (by omega))

/-! #### What stays forgotten -/

/-- Whether the store has held an answer at some time since certain moves began. -/
def HeldSince (o : Backing σ) (t : Traffic σ) (moves : List (Move σ)) (id : String)
    (answer : Option Pipeline) : Prop :=
  ∃ earlier, earlier <+: moves ∧
    o.pipeline (t.after o earlier).caches.inner id = .ok answer

/-- **What was replaced stays forgotten**: whatever is done from now on, a call that has not begun
yet is only answered with what the store holds, now or later. -/
def StaysForgotten (o : Backing σ) (t : Traffic σ) (id : String) : Prop :=
  ∀ later call answer, t.stage call = .waiting →
    (t.after o later).stage call = .returned id (.ok answer) → t.HeldSince o later id answer

variable {id : String} {late : Nat → Prop} {P Q : Option Pipeline → Prop}

theorem HeldSince.concat {moves : List (Move σ)} {answer : Option Pipeline}
    (held : t.HeldSince o moves id answer) (m : Move σ) :
    t.HeldSince o (moves ++ [m]) id answer := by
  obtain ⟨earlier, begins, held⟩ := held
  exact ⟨earlier, begins.trans (List.prefix_append moves [m]), held⟩

/-- Where nothing is changed, only what the store holds can be held. -/
theorem HeldSince.of_unchanged {moves : List (Move σ)} {answer : Option Pipeline}
    (held : t.HeldSince o moves id answer) (unchanged : ∀ m ∈ moves, ∀ world, m ≠ .change world) :
    o.pipeline t.caches.inner id = .ok answer := by
  obtain ⟨earlier, begins, held⟩ := held
  rwa [inner_after fun m among => unchanged m (begins.subset among)] at held

/-- The answers for a pipeline that later calls can get are among some: those that are kept, those
that are still to be kept, and those that were given. -/
structure Answers (t : Traffic σ) (id : String) (late : Nat → Prop)
    (P : Option Pipeline → Prop) : Prop where
  cached : t.caches.pipelines.Keeps fun k v => k = id → P v
  fetched : ∀ call answer, t.stage call = .fetched id answer →
    t.caches.pipelines.enabled = true ∨ late call → P answer
  returned : ∀ call answer, t.stage call = .returned id (.ok answer) → late call → P answer

namespace Answers

theorem mono (answers : t.Answers id late P) (imp : ∀ v, P v → Q v) : t.Answers id late Q where
  cached := answers.cached.mono fun _ v suits here => imp v (suits here)
  fetched call answer stage reaches := imp _ (answers.fetched call answer stage reaches)
  returned call answer stage isLate := imp _ (answers.returned call answer stage isLate)

/-- One call moves on, and only to answers that are among them. -/
theorem advance (answers : t.Answers id late P) {call : Nat} {caches : Cached σ} {stage : Stage}
    (cached : caches.pipelines.Keeps fun k v => k = id → P v)
    (same : caches.pipelines.enabled = t.caches.pipelines.enabled)
    (fetched : ∀ answer, stage = .fetched id answer → P answer)
    (returned : ∀ answer, stage = .returned id (.ok answer) → late call → P answer) :
    (t.advance call caches stage).Answers id late P where
  cached := cached
  fetched other answer comes reaches := by
    rw [stage_advance] at comes
    split at comes
    · exact fetched answer comes
    · exact answers.fetched other answer comes (same ▸ reaches)
  returned other answer comes isLate := by
    rw [stage_advance] at comes
    split at comes
    · next here => exact returned answer comes (here ▸ isLate)
    · exact answers.returned other answer comes isLate

/-- Every move keeps to some answers, if what the store holds now is among them. -/
theorem effect (answers : t.Answers id late P) (effect : t.Effect o m u)
    (now : ∀ v, o.pipeline t.caches.inner id = .ok v → P v) : u.Answers id late P := by
  have still := effect.enabled
  cases effect with
  | idle => exact answers
  | changed world => exact { answers with }
  | forgotten f =>
      refine ⟨?_, fun call answer stage reaches => ?_, answers.returned⟩
      · rcases pipelines_forget t.caches f with same | ⟨p, same⟩ <;> rw [same]
        · exact answers.cached
        · exact answers.cached.invalidateWhere p
      · exact answers.fetched call answer stage (still ▸ reaches)
  | @looked call k hit cache waiting outcome =>
      have kept := answers.cached.get (o.time t.caches.inner) k
      rw [outcome] at kept
      refine answers.advance kept still (fun answer comes => ?_) fun answer comes _ => ?_
      · cases hit <;> cases comes
      · cases hit with
        | none => cases comes
        | some v =>
            cases comes
            exact answers.cached.of_get (congrArg Prod.fst outcome) rfl
  | @fetched call k missed =>
      refine answers.advance answers.cached rfl (fun answer comes => ?_) fun answer comes _ => ?_
      · cases read : o.pipeline t.caches.inner k with
        | error e => rw [read] at comes; cases comes
        | ok v =>
            rw [read] at comes
            cases comes
            exact now answer read
      · cases read : o.pipeline t.caches.inner k <;> rw [read] at comes <;> cases comes
  | @kept call k v fetched =>
      refine answers.advance ?_ still (fun answer comes => ?_) fun answer comes isLate => ?_
      · refine answers.cached.put (fun enabled here => ?_) _
        exact answers.fetched call v (here ▸ fetched) (.inl enabled)
      · cases comes
      · cases comes
        exact answers.fetched call v fetched (.inr isLate)

/-- **Whatever is done**, the answers are among those that the store has held. -/
theorem after (answers : t.Answers id late fun v => o.pipeline t.caches.inner id = .ok v)
    (moves : List (Move σ)) :
    (t.after o moves).Answers id late (t.HeldSince o moves id) := by
  induction moves using List.reverseRecOn with
  | nil => exact answers.mono fun v held => ⟨[], List.prefix_rfl, held⟩
  | append_singleton moves m ih =>
      rw [after_concat]
      refine (ih.mono fun v held => held.concat m).effect (act_effect o _ m) fun v held => ?_
      exact ⟨moves, List.prefix_append moves [m], held⟩

end Answers

/-- A call that keeps what it has read hands it on to the next that looks. -/
theorem stage_after_kept {call next : Nat} {answer : Option Pipeline}
    (enabled : t.caches.pipelines.enabled = true) (fetched : t.stage call = .fetched id answer)
    (waiting : t.stage next = .waiting) :
    (t.after o [.keep call, .look next id]).stage next = .returned id (.ok answer) := by
  have other : next ≠ call := by
    rintro rfl
    cases waiting.symm.trans fetched
  have steps : t.after o [.keep call, .look next id] =
      (t.act o (.keep call)).act o (.look next id) := rfl
  rw [steps, act_keep fetched, act_look (by rw [stage_advance, if_neg other, waiting]) rfl,
    stage_advance, if_pos rfl]
  exact congrArg (looked id)
    (TimedCache.get_put_self enabled (o.time t.caches.inner) id answer)

/-- **Forgetting is not undone** by any order of steps, unless a call that has not yet kept what it
has read has read what was replaced since, and the caches keep anything at all. -/
theorem staysForgotten_iff (o : Backing σ) (s : CacheSettings) (world : σ) (moves : List (Move σ))
    (id : String) :
    let t := (start s world).after o (moves ++ [.forget (.pipeline id)])
    t.StaysForgotten o id ↔ s.enabled = false ∨
      ∀ call answer, t.stage call = .fetched id answer →
        o.pipeline t.caches.inner id = .ok answer := by
  intro t
  have enabled : t.caches.pipelines.enabled = s.enabled := enabled_after s world _
  constructor
  · -- The call in flight keeps what it has read, and the next that begins is answered with it.
    intro stays
    refine or_iff_not_imp_left.mpr fun keeping call answer fetched => ?_
    obtain ⟨next, beyond⟩ := exists_waiting (o := o) s world (moves ++ [.forget (.pipeline id)])
    have waiting : t.stage next = .waiting := beyond next (Nat.le_refl next)
    have handedOn := stage_after_kept (o := o)
      (enabled.trans ((Bool.not_eq_false _).mp keeping)) fetched waiting
    exact (stays _ next answer waiting handedOn).of_unchanged (by simp)
  · -- Nothing is kept under the pipeline now, and only calls in flight can put back what was read
    -- before.
    intro current later call answer waiting returned
    have forgotten : t = ((start s world).after o moves).act o (.forget (.pipeline id)) :=
      after_concat moves _
    have answers : t.Answers id (fun call => t.stage call = .waiting)
        fun v => o.pipeline t.caches.inner id = .ok v := by
      refine ⟨?_, fun call answer fetched reaches => ?_, fun call answer returned isLate => ?_⟩
      · rw [forgotten]
        exact TimedCache.keeps_invalidate _ id _
      · rcases reaches with keeping | isLate
        · rcases current with disabled | current
          · rw [enabled, disabled] at keeping
            cases keeping
          · exact current call answer fetched
        · cases isLate.symm.trans fetched
      · cases isLate.symm.trans returned
    exact (answers.after later).returned call answer returned waiting

/-- A store of one pipeline, before a clock that stands. -/
def oneRecord : Backing (Option Pipeline) := ⟨fun _ => 0, fun record _ => .ok record⟩

/-- A pipeline was read, is replaced by one that is not active, and is forgotten; then the call
that has read it goes on, and the next one is answered with it. -/
theorem replaced_pipeline_comes_back :
    let old := Pipeline.named "quote"
    let new := { old with isActive := false }
    let t := (start .standard (some old)).after oneRecord
      [.look 0 "quote", .fetch 0, .change (some new), .forget (.pipeline "quote")]
    t.caches.inner = some new ∧ t.stage 1 = .waiting ∧
      (t.after oneRecord [.keep 0, .look 1 "quote"]).stage 1 = .returned "quote" (.ok (some old)) ∧
      ¬t.StaysForgotten oneRecord "quote" := by
  intro old new t
  have handedOn : (t.after oneRecord [.keep 0, .look 1 "quote"]).stage 1 =
      .returned "quote" (.ok (some old)) := rfl
  refine ⟨rfl, rfl, handedOn, fun stays => ?_⟩
  have held := (stays _ 1 (some old) rfl handedOn).of_unchanged (by simp)
  have same : new = old := Option.some.inj (Except.ok.inj held)
  cases congrArg Pipeline.isActive same

end Traffic

end Interchange
