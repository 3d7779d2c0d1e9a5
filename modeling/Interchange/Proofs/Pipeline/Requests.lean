import Interchange.Bundle.Basic
import Interchange.Cache.Services
import Interchange.Proofs.Pipeline.Course
import Interchange.Proofs.Pipeline.Simulation
/-!
# What a run sends

A run whose requests are answered from a queue of prepared replies sends one request for each visit
to a step that calls an active system under a usable address with usable headers, and no other.  The
requests are sent in the order of the visits, and each of them is answered with the next reply that
was not used before.

* `Queue.after`, `Queue.outcome` — a queue after some requests, and how the next one ends.
* `Services.SendsThrough` — services that send through a queue.
* `Services.call?` — the call that a visit comes to.
* `Services.runPipeline_callsInTurn` — every run sends the requests of its calls, once and in turn.
-/

namespace Interchange

variable {σ α β ρ : Type}

/-! ### Queues -/

namespace Queue

/-- Whether a request is given up before its reply comes. -/
def isLate (q : Queue) (r : Request) : Bool := q.delay.any fun d => r.timeout ≤ d

/-- The queue after some requests.  All of them are recorded, and each that is not given up uses
one reply. -/
def after (q : Queue) (rs : List Request) : Queue :=
  { q with
    replies := q.replies.drop (rs.countP fun r => !q.isLate r)
    sent := q.sent ++ rs }

/-- How a request ends for which the reply with some number is the next one. -/
def outcome (q : Queue) (number : Nat) (r : Request) : Outcome :=
  if q.isLate r then .timedOut
  else
    match q.replies[number]? with
    | some (.ok reply) => .answered reply
    | some (.error f) => .failed f
    | none => .failed (.network "no mock response queued")

theorem run_send (r : Request) (q : Queue) : (send r).run q = (q.outcome 0 r, q.after [r]) := by
  obtain ⟨replies, sent, delay⟩ := q
  show send r _ = _
  rw [send, outcome, after, isLate, List.countP_singleton]
  cases late : delay.any fun d => r.timeout ≤ d with
  | true => simp [isLate, late]
  | false => rcases replies with _ | ⟨f | reply, rest⟩ <;> simp [isLate, late]

@[simp] theorem after_nil (q : Queue) : q.after [] = q := by
  simp [after]

theorem after_append (q : Queue) (rs ts : List Request) :
    q.after (rs ++ ts) = (q.after rs).after ts := by
  rw [after, after, after, List.countP_append, List.drop_drop, List.append_assoc]
  rfl

theorem outcome_after (q : Queue) (rs : List Request) (number : Nat) (r : Request) :
    (q.after rs).outcome number r = q.outcome (rs.countP (fun r => !q.isLate r) + number) r := by
  rw [outcome, outcome, after, List.getElem?_drop]
  rfl

end Queue

/-! ### Actions that leave a part of the world alone -/

/-- Whether an action leaves a part of the world as it was. -/
def Leaves (part : σ → ρ) (a : StateM σ α) : Prop := ∀ w, part (a.run w).2 = part w

namespace Leaves

variable {part : σ → ρ}

theorem pure (x : α) : Leaves part (pure x : StateM σ α) := fun _ => rfl

theorem bind {a : StateM σ α} {f : α → StateM σ β} (first : Leaves part a)
    (next : ∀ x, Leaves part (f x)) : Leaves part (a >>= f) :=
  fun w => (next _ _).trans (first w)

/-- An action leaves a part alone if it is alike to itself in worlds with that part. -/
theorem iff_alike {a : StateM σ α} :
    Leaves part a ↔ ∀ x, Alike (fun w v => w = v ∧ part w = x) a a := by
  constructor
  · rintro leaves x w _ ⟨rfl, rfl⟩
    exact ⟨rfl, rfl, leaves w⟩
  · intro alike w
    exact (alike (part w) w w ⟨rfl, rfl⟩).2.2

theorem run_mapping {r : Resolver σ} (lookup : ∀ table key, Leaves part (r table key))
    (m : Mapping) (source : Value) (policy : RequiredPolicy) :
    Leaves part (m.run r source policy) :=
  iff_alike.mpr fun x =>
    m.run_alike (fun table key => iff_alike.mp (lookup table key) x) source policy

end Leaves

/-! ### Services that send through a queue -/

/-- **Services that send through a queue**, which is a part of the world: the queue answers their
requests, and nothing else that they do touches it. -/
structure Services.SendsThrough (queue : σ → Queue) (s : Services σ) : Prop where
  answer : ∀ r w, ((s.send r).run w).1 = ((Queue.send r).run (queue w)).1
  record : ∀ r w, queue ((s.send r).run w).2 = ((Queue.send r).run (queue w)).2
  system : ∀ code, Leaves queue (s.system code)
  lookup : ∀ table key, Leaves queue (s.lookup table key)

/-- The services of a bundle do so. -/
theorem Bundle.sendsThrough (b : Bundle) (settings : CallSettings) (env : Environment) :
    (b.services Queue.send settings env).SendsThrough fun q => q where
  answer _ _ := rfl
  record _ _ := rfl
  system _ := .pure _
  lookup _ _ := .pure _

section Caches

variable {queue : σ → Queue}

theorem Leaves.behind {act : StateM σ α} (leaves : Leaves queue act) :
    Leaves (fun c => queue c.inner) (Cached.behind act) :=
  fun c => leaves c.inner

theorem Leaves.cachedRead {κ ε : Type} [DecidableEq κ] {clock : StateM σ Nat}
    {read : StateM σ (Except ε β)} (still : Leaves queue clock) (reads : Leaves queue read)
    (slot : CacheSlot σ κ β) (inner : ∀ cache c, (slot.store cache c).inner = c.inner) (key : κ) :
    Leaves (fun c => queue c.inner) (cachedRead clock slot read key) := by
  have stores : ∀ f : Cached σ → TimedCache κ β,
      Leaves (fun c => queue c.inner) (modify fun c => slot.store (f c) c) :=
    fun f c => congrArg queue (inner (f c) c)
  unfold Interchange.cachedRead
  refine still.behind.bind fun now => ?_
  refine Leaves.bind (fun c => rfl) fun c => ?_
  rcases (slot.cache c).get now key with ⟨hit, cache⟩
  refine (stores fun _ => cache).bind fun _ => ?_
  cases hit with
  | some v => exact .pure _
  | none =>
      refine reads.behind.bind fun answer => ?_
      rcases answer with e | v
      · exact .pure _
      · refine still.behind.bind fun later => ?_
        exact (stores fun c => (slot.cache c).put later key v).bind fun _ => .pure _

/-- Services behind caches send through the queue that they send through without, if the clock does
not touch it. -/
theorem Services.SendsThrough.cached {s : Services σ} {clock : StateM σ Nat}
    (sends : s.SendsThrough queue) (still : Leaves queue clock) :
    (s.cached clock).SendsThrough fun c => queue c.inner where
  answer r c := sends.answer r c.inner
  record r c := sends.record r c.inner
  system code := still.cachedRead (sends.system code) _ (fun _ _ => rfl) code
  lookup table key := still.cachedRead (sends.lookup table key) _ (fun _ _ => rfl) (table, key)

end Caches

namespace Services

variable {s : Services σ} {p : Pipeline} {queue : σ → Queue}

/-- **The call that a step comes to** in a context and a world: that of a step which calls a system
that is registered and active, if the address and the headers can be made. -/
def call? (s : Services σ) (a : Step) (context : Value) (w : σ) :
    Option (ExternalSystem × Request) :=
  match a.kind with
  | .callSystem c =>
    match ((s.system c.system).run w).1 with
    | .ok (some system) =>
      if system.isActive then
        match callUrl system.baseUrl c.path, system.callHeaders s.environment c with
        | .ok url, .ok headers =>
          some (system, ⟨Text.asciiUpper c.method, url, headers,
            system.format.encode (c.payload context) c.operation,
            system.callTimeout s.settings c⟩)
        | _, _ => none
      else none
    | _ => none
  | _ => none

/-- The requests of the calls that visits come to. -/
def requests (s : Services σ) (visits : List (Visit σ)) : List Request :=
  visits.filterMap fun v => (s.call? v.step v.context v.world).map Prod.snd

/-- **Calls in turn**: what is promised of a run that began in the world `start`, paid some visits,
gave the report `r` and ended in the world `final`. -/
structure CallsInTurn (queue : σ → Queue) (s : Services σ) (p : Pipeline) (input : Value)
    (start : σ) (visits : List (Visit σ)) (r : RunReport) (final : σ) : Prop where
  course : s.Course p p.activeSteps input start visits r.output final
  reports : r.steps = visits.map Visit.report
  /-- Visits are paid to the first of the active steps. -/
  active : visits.map Visit.step <+: p.activeSteps
  /-- Nothing is visited after a step that failed. -/
  passed : ∀ v ∈ visits.dropLast, ∃ progress, v.result = .ok progress
  /-- One request was sent for each visit that came to a call, in their order, and no other. -/
  sent : (queue final).sent = (queue start).sent ++ s.requests visits
  /-- Nothing but these requests has used up replies. -/
  replies : (queue final).replies =
    (queue start).replies.drop ((s.requests visits).countP fun r => !(queue start).isLate r)
  /-- A call comes to what its system makes of the next reply: each one before it used one. -/
  answered : ∀ earlier v later system request, visits = earlier ++ v :: later →
    s.call? v.step v.context v.world = some (system, request) →
    v.result =
      (system.conclude request ((queue start).outcome (s.requests earlier).length request)).map
        fun i => ⟨withResponse v.context i.response, callDetails system i⟩

end Services

/-- The request of a call, if it comes to one. -/
theorem ExternalSystem.toOption_request (system : ExternalSystem) (settings : CallSettings)
    (env : Environment) (c : CallConfig) (context : Value) :
    (system.request settings env c context).toOption =
      if system.isActive then
        match callUrl system.baseUrl c.path, system.callHeaders env c with
        | .ok url, .ok headers =>
          some ⟨Text.asciiUpper c.method, url, headers,
            system.format.encode (c.payload context) c.operation, system.callTimeout settings c⟩
        | _, _ => none
      else none := by
  rw [request, prepare]
  split
  · cases callUrl system.baseUrl c.path with
    | error e => rfl
    | ok url =>
        cases system.callHeaders env c with
        | error e => rfl
        | ok headers => rfl
  · rfl

namespace Services

variable {s : Services σ} {p : Pipeline} {queue : σ → Queue}

/-! ### One visit -/

theorem SendsThrough.leaves_runMappings (sends : s.SendsThrough queue) (source : Value → Value)
    (ms : List Mapping) : ∀ (context : Value) (told : List Value),
      Leaves queue (s.runMappings source ms context told) := by
  induction ms with
  | nil => intro context told; exact .pure _
  | cons m ms ih =>
      intro context told
      unfold runMappings
      split
      · exact ih _ _
      · refine (Leaves.run_mapping sends.lookup m _ _).bind fun answer => ?_
        rcases answer with path | r
        · exact .pure _
        · exact ih _ _

theorem SendsThrough.leaves_enrich (sends : s.SendsThrough queue) (ls : List EnrichLookup) :
    ∀ (context : Value) (notes : EnrichNotes), Leaves queue (s.enrich ls context notes) := by
  induction ls with
  | nil => intro context notes; exact .pure _
  | cons l ls ih =>
      intro context notes
      unfold enrich
      cases context.present? l.sourceField with
      | none => exact ih _ _
      | some v =>
          refine (sends.lookup l.table v.toText).bind fun answer => ?_
          rcases answer with fault | _ | found
          · exact .pure _
          · exact ih _ _
          · exact ih _ _

/-- A step that is no call sends nothing. -/
theorem SendsThrough.leaves_runStep (sends : s.SendsThrough queue) {a : Step}
    (other : ∀ c, a.kind ≠ .callSystem c) (context : Value) :
    Leaves queue (s.runStep p a context) := by
  have mapped : ∀ d source, Leaves queue (s.map p d source context) := by
    intro d source
    refine (sends.leaves_runMappings source _ _ _).bind fun answer => ?_
    rcases answer with e | ⟨context, told⟩ <;> exact .pure _
  unfold runStep
  cases kind : a.kind with
  | mapRequest => exact mapped _ _
  | mapResponse => exact mapped _ _
  | callSystem c => exact absurd kind (other c)
  | enrich lookups =>
      refine (sends.leaves_enrich lookups _ _).bind fun answer => ?_
      rcases answer with e | ⟨context, notes⟩ <;> exact .pure _
  | validate | applyRules | applyResponseRules | mockResponse | unsupported => exact .pure _

/-- A call comes to one if it makes a request of its system. -/
theorem call?_eq {a : Step} {c : CallConfig} (kind : a.kind = .callSystem c) (context : Value)
    (w : σ) :
    s.call? a context w =
      match ((s.system c.system).run w).1 with
      | .ok (some system) =>
        (system.request s.settings s.environment c context).toOption.map fun r => (system, r)
      | _ => none := by
  rw [call?, kind]
  dsimp only
  split
  · rw [ExternalSystem.toOption_request]
    split
    · split <;> simp [*]
    · rfl
  · rfl

theorem call?_of_other {a : Step} (other : ∀ c, a.kind ≠ .callSystem c) (context : Value) (w : σ) :
    s.call? a context w = none := by
  rw [call?]
  split
  · next c kind => exact absurd kind (other c)
  · rfl

/-- **One step** sends the request of its call, if it comes to one, and the next reply decides how
it ends. -/
theorem SendsThrough.step (sends : s.SendsThrough queue) {a : Step} {context : Value}
    {w after : σ} {result : Except Error Progress}
    (ran : (s.runStep p a context).run w = (result, after)) :
    queue after = (queue w).after ((s.call? a context w).map Prod.snd).toList ∧
      ∀ system request, s.call? a context w = some (system, request) →
        result = (system.conclude request ((queue w).outcome 0 request)).map
          fun i => ⟨withResponse context i.response, callDetails system i⟩ := by
  by_cases call : ∃ c, a.kind = .callSystem c
  · obtain ⟨c, kind⟩ := call
    have quiet := sends.system c.system w
    rw [runStep_callSystem kind, run_call] at ran
    rw [call?_eq kind]
    rcases looked : (s.system c.system).run w with ⟨e | _ | system, next⟩ <;>
      rw [looked] at ran quiet
    · cases ran
      simp [quiet]
    · cases ran
      simp [quiet]
    · dsimp only at ran quiet ⊢
      rw [ExternalSystem.run_invoke] at ran
      cases made : system.request s.settings s.environment c context with
      | error e =>
          rw [made] at ran
          cases ran
          simp [quiet, Except.toOption]
      | ok r =>
          rw [made] at ran
          have answered := sends.answer r next
          have recorded := sends.record r next
          rw [Queue.run_send, quiet] at answered recorded
          cases ran
          simp [Except.toOption, recorded, answered]
  · have other : ∀ c, a.kind ≠ .callSystem c := fun c kind => call ⟨c, kind⟩
    have quiet := sends.leaves_runStep (p := p) other context w
    rw [ran] at quiet
    rw [call?_of_other other]
    simpa using quiet

/-- A step that did what it should has waited for its reply. -/
theorem isLate_of_passed {system : ExternalSystem} {request : Request} {q : Queue} {number : Nat}
    {progress : Progress} {keep : Invocation → Progress}
    (passed : .ok progress = (system.conclude request (q.outcome number request)).map keep) :
    q.isLate request = false := by
  cases late : q.isLate request with
  | false => rfl
  | true =>
      rw [Queue.outcome, late, if_pos rfl, ExternalSystem.conclude] at passed
      cases passed

/-! ### Runs -/

theorem requests_cons (v : Visit σ) (visits : List (Visit σ)) :
    s.requests (v :: visits) =
      ((s.call? v.step v.context v.world).map Prod.snd).toList ++ s.requests visits := by
  rw [requests, List.filterMap_cons, requests]
  cases s.call? v.step v.context v.world with
  | none => rfl
  | some call => rfl

/-- The requests of a run are all that the queue sees of it. -/
theorem Course.queue_eq {steps : List Step} {context last : Value} {w after : σ}
    {visits : List (Visit σ)} (course : s.Course p steps context w visits last after)
    (sends : s.SendsThrough queue) : queue after = (queue w).after (s.requests visits) := by
  induction course with
  | done => exact (Queue.after_nil _).symm
  | failed ran =>
      rw [requests_cons, requests, List.filterMap_nil, List.append_nil]
      exact (sends.step ran).1
  | passed ran _ ih => rw [ih, (sends.step ran).1, requests_cons, Queue.after_append]

/-- A visit finds the queue as the requests before it left it, and all of these have waited for
their replies. -/
theorem Course.queue_eq_of_split {steps : List Step} {context last : Value} {w after : σ}
    {visits : List (Visit σ)} (course : s.Course p steps context w visits last after)
    (sends : s.SendsThrough queue) :
    ∀ {earlier : List (Visit σ)} {v : Visit σ} {later : List (Visit σ)},
      visits = earlier ++ v :: later →
      queue v.world = (queue w).after (s.requests earlier) ∧
        (∀ r ∈ s.requests earlier, (queue w).isLate r = false) ∧
        ∃ next, (s.runStep p v.step v.context).run v.world = (v.result, next) := by
  induction course with
  | done =>
      intro earlier v later split
      simp at split
  | @failed a steps context w next e ran =>
      intro earlier v later split
      cases earlier with
      | nil =>
          obtain ⟨rfl, -⟩ := List.cons.inj split
          exact ⟨(Queue.after_nil _).symm, by simp [requests], next, ran⟩
      | cons u earlier => simp at split
  | @passed a steps context last w next after progress visits ran _ ih =>
      intro earlier v later split
      cases earlier with
      | nil =>
          obtain ⟨rfl, -⟩ := List.cons.inj split
          exact ⟨(Queue.after_nil _).symm, by simp [requests], next, ran⟩
      | cons u earlier =>
          obtain ⟨rfl, rest⟩ := List.cons.inj split
          obtain ⟨found, waited, runs⟩ := ih rest
          obtain ⟨sent, decided⟩ := sends.step ran
          refine ⟨?_, fun r member => ?_, runs⟩
          · rw [found, sent, requests_cons, Queue.after_append]
          · rw [requests_cons, List.mem_append, Option.mem_toList, Option.map_eq_some_iff] at member
            rcases member with ⟨⟨system, _⟩, called, rfl⟩ | later
            · exact isLate_of_passed (decided system _ called)
            · have same := waited r later
              rw [sent] at same
              exact same

/-- **A run sends the requests of its calls, once and in turn**, whatever replies are in the queue
and whatever the replies make of the run. -/
theorem runPipeline_callsInTurn (sends : s.SendsThrough queue) (p : Pipeline) (input : Value)
    (start : σ) :
    ∃ visits, s.CallsInTurn queue p input start visits ((s.runPipeline p input).run start).1
      ((s.runPipeline p input).run start).2 := by
  obtain ⟨visits, course, reports⟩ := exists_course s p input p.activeSteps input [] start
  have ends := course.queue_eq sends
  refine ⟨visits, ?_⟩
  refine
    { course := course
      reports := reports
      active := course.steps_prefix
      passed := course.passed_of_mem_dropLast
      sent := congrArg Queue.sent ends
      replies := congrArg Queue.replies ends
      answered := ?_ }
  intro earlier v later system request split called
  obtain ⟨found, waited, next, ran⟩ := course.queue_eq_of_split sends split
  have used : (s.requests earlier).countP (fun r => !(queue start).isLate r) =
      (s.requests earlier).length := by
    rw [List.countP_eq_length]
    intro r member
    rw [waited r member]
    rfl
  rw [(sends.step ran).2 system request called, found, Queue.outcome_after, used, Nat.add_zero]

end Services

/-- A pipeline that calls a system twice. -/
def twoCalls : Pipeline :=
  let call : CallConfig := ⟨"rater", none, "POST", "Request", none, [], none⟩
  { Pipeline.named "quote" with
    steps := [.ofKind 1 (.callSystem call) none true, .ofKind 2 (.callSystem call) none true] }

namespace Services

/-- Behind caches, both calls are sent, and the second reply is the reply to the second call. -/
theorem twoCalls_inTurn :
    let rater := ExternalSystem.ofUrl "rater" "https://rater.example.com/api" .json
    let bundle : Bundle := ⟨[twoCalls], [("rater", rater)], [], []⟩
    let services := (bundle.services Queue.send .standard fun _ => none).cached (pure 0)
    let replies : List Reply := ["950", "1000"].map (Reply.ofBody 200 "application/json")
    let start := Cached.ofSettings .standard (⟨replies.map .ok, [], none⟩ : Queue)
    let run := (services.runPipeline twoCalls (.obj [("state", .str "CA")])).run start
    services.SendsThrough (fun c => c.inner) ∧
      (∃ visits, services.CallsInTurn (fun c => c.inner) twoCalls (.obj [("state", .str "CA")])
        start visits run.1 run.2) ∧
      run.2.inner.sent.length = 2 ∧
      run.1.output = .obj [("response", .ofInt 1000), ("state", .str "CA")] := by
  intro rater bundle services replies start run
  have sends : services.SendsThrough fun c => c.inner :=
    (bundle.sendsThrough .standard fun _ => none).cached fun _ => rfl
  refine ⟨sends, runPipeline_callsInTurn sends twoCalls _ start, ?_⟩
  have listed : twoCalls.activeSteps = twoCalls.steps := by
    show twoCalls.steps.mergeSort _ = _
    exact List.mergeSort_of_pairwise (by decide)
  have ran : run = (services.runSteps twoCalls (.obj [("state", .str "CA")]) twoCalls.steps
      (.obj [("state", .str "CA")]) []).run start := by
    rw [← listed]
    rfl
  rw [ran]
  decide +kernel

end Services

end Interchange
