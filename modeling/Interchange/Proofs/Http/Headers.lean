import Interchange.Http.Invoke
import Interchange.Proofs.Outcome
import Interchange.Proofs.Table
/-!
# Headers of a call

The headers of a call are laid over one another: those of the step over those of the system, and
these over those that the format asks for.  What is laid over what is found by the spelling of the
names, while whoever receives the headers compares names without regard to case.  So a header
replaces another one of its name only if it is spelled like that one; else both are sent.

* `ExternalSystem.overlaid?` — what a call means by its three layers of headers.
* `ExternalSystem.get?_addHeaders` — what one layer does to the headers below it.
* `ExternalSystem.callHeaders_oneValueEach_iff` — each name has the one value that is meant for it
  exactly if no name is spelled in two ways.
-/

namespace Interchange

variable {headers below pairs t : List (String × String)} {name key : String}

/-! ### Names without regard to case -/

/-- The values that headers give to a name, in whatever case it is spelled. -/
def valuesFor (name : String) (headers : List (String × String)) : List String :=
  (headers.filter fun p => Text.sameIgnoringCase p.1 name).map Prod.snd

/-- **Each name is spelled in one way.** -/
def SpelledAlike (names : List String) : Prop :=
  ∀ m ∈ names, ∀ n ∈ names, Text.sameIgnoringCase m n = true → m = n

instance (names : List String) : Decidable (SpelledAlike names) :=
  inferInstanceAs (Decidable (∀ m ∈ names, ∀ n ∈ names, _ → m = n))

/-- Whether one key stands for a name, in whatever case, among the names of some headers. -/
def StandsFor (key name : String) (headers : List (String × String)) : Prop :=
  ∀ p ∈ headers, Text.sameIgnoringCase p.1 name = true ↔ p.1 = key

theorem Text.sameIgnoringCase_iff {s t : String} :
    sameIgnoringCase s t = true ↔ asciiLower s = asciiLower t := beq_iff_eq

theorem StandsFor.tail {p : String × String} (stands : StandsFor key name (p :: headers)) :
    StandsFor key name headers :=
  fun q member => stands q (List.mem_cons_of_mem _ member)

theorem StandsFor.valuesFor_cons {p : String × String}
    (stands : StandsFor key name (p :: headers)) :
    valuesFor name (p :: headers) =
      if p.1 = key then p.2 :: valuesFor name headers else valuesFor name headers := by
  unfold valuesFor
  rw [List.filter_cons]
  by_cases here : p.1 = key
  · rw [if_pos here, if_pos ((stands p List.mem_cons_self).mpr here), List.map_cons]
  · rw [if_neg here, if_neg (mt (stands p List.mem_cons_self).mp here)]

/-- The first value for a name is the one that is read under its key. -/
theorem StandsFor.head?_valuesFor (stands : StandsFor key name headers) :
    (valuesFor name headers).head? = Table.get? key headers := by
  induction headers with
  | nil => rfl
  | cons p headers ih =>
      rw [stands.valuesFor_cons, Table.get?]
      split
      · rfl
      · exact ih stands.tail

/-- In a table there is no other. -/
theorem StandsFor.valuesFor_eq (stands : StandsFor key name headers)
    (sorted : Table.Sorted headers) :
    valuesFor name headers = (Table.get? key headers).toList := by
  induction headers with
  | nil => rfl
  | cons p headers ih =>
      rw [stands.valuesFor_cons, Table.get?, ih stands.tail sorted.tail]
      split
      · next here =>
          rw [← here, sorted.get?_tail]
          rfl
      · rfl

/-- Among names that are spelled alike, one key stands for each name. -/
theorem SpelledAlike.exists_standsFor {names : List String} (alike : SpelledAlike names)
    (name : String) :
    ∃ key, ∀ m ∈ names, Text.sameIgnoringCase m name = true ↔ m = key := by
  by_cases known : ∃ k ∈ names, Text.sameIgnoringCase k name = true
  · obtain ⟨k, member, same⟩ := known
    refine ⟨k, fun m inside => ⟨fun also => alike m inside k member ?_, ?_⟩⟩
    · rw [Text.sameIgnoringCase_iff] at same also ⊢
      exact also.trans same.symm
    · rintro rfl
      exact same
  · -- A name that nobody has stands for itself.
    refine ⟨name, fun m inside => ⟨fun same => absurd ⟨m, inside, same⟩ known, ?_⟩⟩
    rintro rfl
    exact Text.sameIgnoringCase_iff.mpr rfl

namespace ExternalSystem

variable {s : ExternalSystem} {env : Environment} {call : CallConfig}

/-! ### One layer -/

/-- Headers can be added exactly if all that their values refer to is set. -/
theorem exists_addHeaders_iff : (∃ headers, addHeaders env below pairs = .ok headers) ↔
    ∀ p ∈ pairs, ∃ v, env.expand p.2 = .ok v := by
  induction pairs generalizing below with
  | nil => exact iff_of_true ⟨below, rfl⟩ nofun
  | cons p pairs ih =>
      rw [List.forall_mem_cons, addHeaders]
      constructor
      · rintro ⟨headers, built⟩
        obtain ⟨v, expanded, rest⟩ := bind_eq_ok.mp built
        exact ⟨⟨v, expanded⟩, ih.mp ⟨headers, rest⟩⟩
      · rintro ⟨⟨v, expanded⟩, others⟩
        obtain ⟨headers, rest⟩ := ih.mpr others
        exact ⟨headers, bind_eq_ok.mpr ⟨v, expanded, rest⟩⟩

theorem addHeaders_append (more : List (String × String)) :
    addHeaders env below (pairs ++ more) =
      addHeaders env below pairs >>= fun headers => addHeaders env headers more := by
  induction pairs generalizing below with
  | nil => rfl
  | cons p pairs ih =>
      rw [List.cons_append, addHeaders, addHeaders]
      cases env.expand p.2 with
      | error fault => rfl
      | ok v => exact ih

theorem sorted_addHeaders (built : addHeaders env below pairs = .ok headers)
    (sorted : Table.Sorted below) : Table.Sorted headers := by
  induction pairs generalizing below with
  | nil =>
      cases built
      exact sorted
  | cons p pairs ih =>
      obtain ⟨v, -, rest⟩ := bind_eq_ok.mp built
      exact ih rest (sorted.put p.1 v)

/-- **A layer** gives its values to the names that it spells, and leaves all other names alone. -/
theorem get?_addHeaders (built : addHeaders env below pairs = .ok headers)
    (once : (pairs.map Prod.fst).Nodup) (name : String) :
    (Table.get? name headers).map Except.ok =
      ((Table.get? name pairs).map env.expand).or ((Table.get? name below).map .ok) := by
  induction pairs generalizing below with
  | nil =>
      cases built
      rfl
  | cons p pairs ih =>
      obtain ⟨v, expanded, rest⟩ := bind_eq_ok.mp built
      obtain ⟨first, once⟩ := List.nodup_cons.mp once
      rw [ih rest once, Table.get?]
      split
      · next here =>
          -- No later header of the layer has the name.
          have absent : Table.get? name pairs = none := by
            rw [← here]
            simpa [Table.mem_keys_iff] using first
          rw [absent, here, Table.get?_put_self, Option.map_some, Option.map_some, expanded]
          rfl
      · next other => rw [Table.get?_put_of_ne (Ne.symm other)]

/-! ### Three layers -/

/-- **What a call means** by its headers, one of which is read from each layer: that of the step,
else that of the system, else that of the format, in which nothing refers to the environment. -/
def overlaid? (s : ExternalSystem) (env : Environment) (call : CallConfig)
    (read : List (String × String) → Option String) : Option (Except SetupFault String) :=
  (((read call.headers).or (read s.headers)).map env.expand).or
    ((read (s.formatHeaders call)).map .ok)

/-- The names in the three layers. -/
def headerNames (s : ExternalSystem) (call : CallConfig) : List String :=
  (s.formatHeaders call ++ s.headers ++ call.headers).map Prod.fst

/-- **Each name has one value**, compared without regard to case: the one that is meant for it. -/
def OneValueEach (s : ExternalSystem) (env : Environment) (call : CallConfig)
    (headers : List (String × String)) : Prop :=
  ∀ name, (valuesFor name headers).map Except.ok =
    (s.overlaid? env call fun layer => (valuesFor name layer).head?).toList

theorem sorted_formatHeaders : Table.Sorted (s.formatHeaders call) := by
  rw [Table.sorted_iff_keys, formatHeaders]
  split
  · show List.Pairwise _ ["Accept", "Content-Type", "SOAPAction"]
    decide
  · show List.Pairwise _ ["Accept", "Content-Type"]
    decide

section Built

variable (built : s.callHeaders env call = .ok headers)
include built

theorem sorted_callHeaders : Table.Sorted headers := sorted_addHeaders built sorted_formatHeaders

/-- **By their spelling**, the headers of a call are laid over one another as they are meant. -/
theorem get?_callHeaders (ofSystem : (s.headers.map Prod.fst).Nodup)
    (ofStep : (call.headers.map Prod.fst).Nodup) (name : String) :
    (Table.get? name headers).map .ok = s.overlaid? env call (Table.get? name) := by
  rw [callHeaders, addHeaders_append] at built
  obtain ⟨between, system, step⟩ := bind_eq_ok.mp built
  rw [get?_addHeaders step ofStep, get?_addHeaders system ofSystem, overlaid?, Option.map_or,
    Option.or_assoc]

theorem mem_names_callHeaders (ofSystem : (s.headers.map Prod.fst).Nodup)
    (ofStep : (call.headers.map Prod.fst).Nodup) (name : String) :
    name ∈ headers.map Prod.fst ↔ name ∈ s.headerNames call := by
  have read := congrArg Option.isSome (get?_callHeaders built ofSystem ofStep name)
  simp only [overlaid?, Option.isSome_map, Option.isSome_or] at read
  rw [headerNames, List.map_append, List.map_append, List.mem_append, List.mem_append]
  simp only [Table.mem_keys_iff, read, Bool.or_eq_true]
  rw [or_comm, or_assoc, or_comm (a := (Table.get? name call.headers).isSome = true)]

/-- If no name is spelled in two ways, each name has the value that is meant for it. -/
theorem oneValueEach_of_spelledAlike (ofSystem : (s.headers.map Prod.fst).Nodup)
    (ofStep : (call.headers.map Prod.fst).Nodup) (alike : SpelledAlike (s.headerNames call)) :
    s.OneValueEach env call headers := by
  intro name
  obtain ⟨key, stands⟩ := alike.exists_standsFor name
  have inAll : StandsFor key name headers := fun p member =>
    stands p.1 ((mem_names_callHeaders built ofSystem ofStep p.1).mp (List.mem_map_of_mem member))
  have inLayer : ∀ layer, layer ⊆ s.formatHeaders call ++ s.headers ++ call.headers →
      (valuesFor name layer).head? = Table.get? key layer := fun layer within =>
    StandsFor.head?_valuesFor fun p member => stands p.1 (List.mem_map_of_mem (within member))
  rw [inAll.valuesFor_eq (sorted_callHeaders built), overlaid?, inLayer call.headers (by simp),
    inLayer s.headers (by simp), inLayer (s.formatHeaders call) (by simp), ← overlaid?,
    ← get?_callHeaders built ofSystem ofStep key]
  cases Table.get? key headers <;> rfl

/-- If each name has one value, it is spelled in one way. -/
theorem spelledAlike_of_oneValueEach (ofSystem : (s.headers.map Prod.fst).Nodup)
    (ofStep : (call.headers.map Prod.fst).Nodup) (each : s.OneValueEach env call headers) :
    SpelledAlike (s.headerNames call) := by
  intro m inNames n alsoInNames same
  rw [← mem_names_callHeaders built ofSystem ofStep, List.mem_map] at inNames alsoInNames
  obtain ⟨p, member, rfl⟩ := inNames
  obtain ⟨q, also, rfl⟩ := alsoInNames
  -- Both headers have a value for the one name.
  let named := headers.filter fun r => Text.sameIgnoringCase r.1 q.1
  have inside : p ∈ named := List.mem_filter.mpr ⟨member, same⟩
  have alsoInside : q ∈ named := List.mem_filter.mpr ⟨also, Text.sameIgnoringCase_iff.mpr rfl⟩
  have values : named.length =
      (s.overlaid? env call fun layer => (valuesFor q.1 layer).head?).toList.length := by
    rw [← each q.1, List.length_map, valuesFor, List.length_map]
  cases meant : s.overlaid? env call fun layer => (valuesFor q.1 layer).head? with
  | none =>
      rw [meant] at values
      rw [List.eq_nil_of_length_eq_zero values] at inside
      cases inside
  | some v =>
      rw [meant] at values
      obtain ⟨r, only⟩ := List.length_eq_one_iff.mp values
      rw [only, List.mem_singleton] at inside alsoInside
      rw [inside, alsoInside]

end Built

/-- **What becomes of the headers of a call.** -/
structure HeadersOverlaid (s : ExternalSystem) (env : Environment) (call : CallConfig) : Prop where
  /-- There are headers exactly if all that their values refer to is set. -/
  built_iff : (∃ headers, s.callHeaders env call = .ok headers) ↔
    ∀ p ∈ s.headers ++ call.headers, ∃ v, env.expand p.2 = .ok v
  /-- Each spelling of a name stands once. -/
  sorted : ∀ headers, s.callHeaders env call = .ok headers → Table.Sorted headers
  /-- Its value is that of the step, else that of the system, else that of the format. -/
  bySpelling : ∀ headers, s.callHeaders env call = .ok headers → ∀ name,
    (Table.get? name headers).map .ok = s.overlaid? env call (Table.get? name)
  /-- The same holds of names without regard to case exactly if no name is spelled in two ways. -/
  oneValueEach_iff : ∀ headers, s.callHeaders env call = .ok headers →
    (s.OneValueEach env call headers ↔ SpelledAlike (s.headerNames call))

/-- **Each header has the one value that is meant for it exactly if no name is spelled in two
ways**, for every system and every call whose headers are each given once. -/
theorem callHeaders_oneValueEach_iff (s : ExternalSystem) (env : Environment) (call : CallConfig)
    (ofSystem : (s.headers.map Prod.fst).Nodup) (ofStep : (call.headers.map Prod.fst).Nodup) :
    s.HeadersOverlaid env call where
  built_iff := exists_addHeaders_iff
  sorted _ built := sorted_callHeaders built
  bySpelling _ built := get?_callHeaders built ofSystem ofStep
  oneValueEach_iff _ built :=
    ⟨spelledAlike_of_oneValueEach built ofSystem ofStep,
      oneValueEach_of_spelledAlike built ofSystem ofStep⟩

/-- A step replaces the key of the system, which spells its name in the same way, and the system
replaces the content type of the format. -/
theorem key_replaced :
    let env : Environment := fun _ => none
    let s := { ofUrl "rater" "https://rater.example.com/api" .json with
      headers := [("Content-Type", "application/vnd.quote+json"), ("X-Api-Key", "old")] }
    let call : CallConfig :=
      ⟨"rater", none, "POST", "Request", none, [("X-Api-Key", "new")], none⟩
    (s.headers.map Prod.fst).Nodup ∧ (call.headers.map Prod.fst).Nodup ∧
      s.callHeaders env call = .ok [("Accept", "application/json"),
        ("Content-Type", "application/vnd.quote+json"), ("X-Api-Key", "new")] ∧
      s.OneValueEach env call [("Accept", "application/json"),
        ("Content-Type", "application/vnd.quote+json"), ("X-Api-Key", "new")] := by
  intro env s call
  have ofSystem : (s.headers.map Prod.fst).Nodup := by decide
  have ofStep : (call.headers.map Prod.fst).Nodup := by decide
  have built : s.callHeaders env call = .ok [("Accept", "application/json"),
      ("Content-Type", "application/vnd.quote+json"), ("X-Api-Key", "new")] := by rfl
  have overlaid := callHeaders_oneValueEach_iff s env call ofSystem ofStep
  exact ⟨ofSystem, ofStep, built, (overlaid.oneValueEach_iff _ built).mpr (by decide)⟩

/-- But where the step writes the name in small letters, the old key is sent as well. -/
theorem old_key_sent :
    let env : Environment := fun _ => none
    let s := { ofUrl "rater" "https://rater.example.com/api" .json with
      headers := [("X-Api-Key", "old")] }
    let call : CallConfig :=
      ⟨"rater", none, "POST", "Request", none, [("x-api-key", "new")], none⟩
    SpelledAlike (s.headers.map Prod.fst) ∧ SpelledAlike (call.headers.map Prod.fst) ∧
      s.callHeaders env call = .ok [("Accept", "application/json"),
        ("Content-Type", "application/json"), ("X-Api-Key", "old"), ("x-api-key", "new")] ∧
      ¬ s.OneValueEach env call [("Accept", "application/json"),
        ("Content-Type", "application/json"), ("X-Api-Key", "old"), ("x-api-key", "new")] := by
  intro env s call
  have built : s.callHeaders env call = .ok [("Accept", "application/json"),
      ("Content-Type", "application/json"), ("X-Api-Key", "old"), ("x-api-key", "new")] := by rfl
  refine ⟨by decide, by decide, built, fun each => ?_⟩
  have alike := spelledAlike_of_oneValueEach built (by decide) (by decide) each
  exact absurd alike (by decide)

end ExternalSystem

end Interchange
