import Interchange.Proofs.Rule.Order
import Mathlib.Data.List.Nodup
/-!
# Rules that come to nothing

Every rule that takes part in a run gets one turn, on the document that the rules before it left.
A turn comes to nothing if a condition does not hold or an action fails, and then it must not matter
that the rule was there: the run of the list without such rules ends alike.

* `Rule.Course` — a run as a sequence of turns.
* `Rule.History` — the turns that the report on a run tells of.
* `Rule.runAll_withoutIdle` — every run has a history, and the rules whose turns came to nothing may
  be removed from the list.

Rules are told apart by their places, for a list may hold one rule several times, and of its turns
some may come to nothing and others not.
-/

namespace Interchange.Rule

/-- How the turn of a rule ends. -/
inductive Ending
  /-- A condition did not hold. -/
  | unmatched
  /-- All actions were taken. -/
  | applied
  /-- An action failed, maybe after others were taken. -/
  | failed (error : RuleError)
deriving DecidableEq

/-- The turn of a rule in a run.  The place is that of the rule in the list. -/
structure Turn where
  rule : Rule
  place : Nat
  ending : Ending
deriving DecidableEq

namespace Turn

/-- The rule with its place. -/
def entry (t : Turn) : Rule × Nat := (t.rule, t.place)

/-- Whether the actions of the rule were taken. -/
def isApplied (t : Turn) : Bool := t.ending = .applied

/-- What a report tells of the rule if it was applied, with the number of its known actions. -/
def applied? (t : Turn) : Option AppliedRule :=
  match t.ending with
  | .applied => some ⟨t.rule.id, t.rule.name, t.rule.actions.countP fun a => !a.kind.isUnknown⟩
  | .unmatched | .failed _ => none

/-- What a report tells of the rule if it failed. -/
def failure? (t : Turn) : Option RuleFailure :=
  match t.ending with
  | .failed e => some ⟨t.rule.id, t.rule.name, e⟩
  | .unmatched | .applied => none

end Turn

/-- **The course of a run** from one document to another.  A rule is tried on what the rules before
it left, and only a rule all of whose actions were taken leaves something else. -/
inductive Course : Value → List Turn → Value → Prop
  | done {doc : Value} : Course doc [] doc
  | unmatched {r : Rule} {place : Nat} {doc last : Value} {turns : List Turn}
      (differs : r.holds doc = false) (rest : Course doc turns last) :
      Course doc (⟨r, place, .unmatched⟩ :: turns) last
  | applied {r : Rule} {place : Nat} {doc next last : Value} {turns : List Turn}
      (matched : r.holds doc = true) (taken : takeAll r.actions doc = .ok next)
      (rest : Course next turns last) :
      Course doc (⟨r, place, .applied⟩ :: turns) last
  | failed {r : Rule} {place : Nat} {doc last : Value} {turns : List Turn} {e : RuleError}
      (matched : r.holds doc = true) (fault : takeAll r.actions doc = .error e)
      (rest : Course doc turns last) :
      Course doc (⟨r, place, .failed e⟩ :: turns) last

/-- **What a report tells of a run** of a list of rules on a document in a phase. -/
structure History (rules : List Rule) (doc : Value) (phase : Scope) (turns : List Turn)
    (report : RuleReport) : Prop where
  /-- Turns are in the order of execution. -/
  ordered : (turns.map Turn.entry).Pairwise Precedes
  /-- No rule has two turns. -/
  once : (turns.map Turn.place).Nodup
  /-- The rules that have a turn are the active rules whose scope covers the phase. -/
  members : ∀ (r : Rule) (place : Nat), (∃ t ∈ turns, t.rule = r ∧ t.place = place) ↔
    rules[place]? = some r ∧ r.isActive = true ∧ r.scope.covers phase = true
  course : Course doc turns report.data
  evaluated : report.evaluated = turns.length
  applied : report.applied = turns.filterMap Turn.applied?
  failures : report.failures = turns.filterMap Turn.failure?

/-- The list without the rules whose turns came to nothing. -/
def withoutIdle (turns : List Turn) (rules : List Rule) : List Rule :=
  (rules.zipIdx.filter fun e => turns.all fun t => t.place ≠ e.2 || t.isApplied).map Prod.fst

/-! ### Runs and their courses -/

section Steps

variable {r : Rule} {doc next : Value} {applied : List AppliedRule} {evaluated : Nat}
  {failures : List RuleFailure}

theorem runOne_unmatched (differs : r.holds doc = false) :
    runOne ⟨doc, applied, evaluated, failures⟩ r = ⟨doc, applied, evaluated + 1, failures⟩ := by
  simp [runOne, differs]

theorem runOne_applied (matched : r.holds doc = true) (taken : takeAll r.actions doc = .ok next) :
    runOne ⟨doc, applied, evaluated, failures⟩ r =
      ⟨next, applied ++ [⟨r.id, r.name, r.actions.countP fun a => !a.kind.isUnknown⟩],
        evaluated + 1, failures⟩ := by
  simp [runOne, record, matched, Rule.apply, taken, Except.map, knownActions,
    List.countP_eq_length_filter]

theorem runOne_failed {e : RuleError} (matched : r.holds doc = true)
    (fault : takeAll r.actions doc = .error e) :
    runOne ⟨doc, applied, evaluated, failures⟩ r =
      ⟨doc, applied, evaluated + 1, failures ++ [⟨r.id, r.name, e⟩]⟩ := by
  simp [runOne, record, matched, Rule.apply, fault, Except.map]

end Steps

/-- A run that takes a course ends where the course does, and its report tells of every turn. -/
theorem foldl_runOne_of_course {doc last : Value} {turns : List Turn}
    (course : Course doc turns last) :
    ∀ (applied : List AppliedRule) (evaluated : Nat) (failures : List RuleFailure),
      (turns.map Turn.rule).foldl runOne ⟨doc, applied, evaluated, failures⟩ =
        ⟨last, applied ++ turns.filterMap Turn.applied?, evaluated + turns.length,
          failures ++ turns.filterMap Turn.failure?⟩ := by
  induction course with
  | done =>
      intro applied evaluated failures
      simp
  | unmatched differs _ ih =>
      intro applied evaluated failures
      rw [List.map_cons, List.foldl_cons, runOne_unmatched differs, ih]
      simp [List.filterMap_cons, Turn.applied?, Turn.failure?, Nat.add_assoc, Nat.add_comm 1]
  | applied matched taken _ ih =>
      intro applied evaluated failures
      rw [List.map_cons, List.foldl_cons, runOne_applied matched taken, ih]
      simp [List.filterMap_cons, Turn.applied?, Turn.failure?, Nat.add_assoc, Nat.add_comm 1]
  | failed matched fault _ ih =>
      intro applied evaluated failures
      rw [List.map_cons, List.foldl_cons, runOne_failed matched fault, ih]
      simp [List.filterMap_cons, Turn.applied?, Turn.failure?, Nat.add_assoc, Nat.add_comm 1]

/-- Rules with places can be run one after the other, whatever the document. -/
theorem exists_course (es : List (Rule × Nat)) : ∀ doc : Value,
    ∃ turns last, Course doc turns last ∧ turns.map Turn.entry = es := by
  induction es with
  | nil =>
      intro doc
      exact ⟨[], doc, .done, rfl⟩
  | cons e es ih =>
      intro doc
      obtain ⟨r, place⟩ := e
      cases matched : r.holds doc with
      | false =>
          obtain ⟨turns, last, course, entries⟩ := ih doc
          exact ⟨⟨r, place, .unmatched⟩ :: turns, last, .unmatched matched course,
            by simp [entries, Turn.entry]⟩
      | true =>
          cases taken : takeAll r.actions doc with
          | error e =>
              obtain ⟨turns, last, course, entries⟩ := ih doc
              exact ⟨⟨r, place, .failed e⟩ :: turns, last, .failed matched taken course,
                by simp [entries, Turn.entry]⟩
          | ok next =>
              obtain ⟨turns, last, course, entries⟩ := ih next
              exact ⟨⟨r, place, .applied⟩ :: turns, last, .applied matched taken course,
                by simp [entries, Turn.entry]⟩

/-- The turns that came to something are a course of their own, between the same documents. -/
theorem Course.filter_isApplied {doc last : Value} {turns : List Turn}
    (course : Course doc turns last) : Course doc (turns.filter Turn.isApplied) last := by
  induction course with
  | done => exact .done
  | unmatched _ _ ih => simpa [Turn.isApplied] using ih
  | applied matched taken _ ih => simpa [Turn.isApplied] using .applied matched taken ih
  | failed _ _ _ ih => simpa [Turn.isApplied] using ih

/-! ### Lists and their histories -/

variable {rules : List Rule} {phase : Scope} {turns : List Turn} {doc last : Value}

/-- Whether turns are those of the rules of a list that take part, in order. -/
structure Schedules (labelled : List (Rule × Nat)) (phase : Scope) (turns : List Turn) : Prop where
  ordered : (turns.map Turn.entry).Pairwise Precedes
  members : ∀ e, e ∈ turns.map Turn.entry ↔ e ∈ labelled ∧ e.1.takesPart phase = true

/-- A run takes the course that its schedule has. -/
theorem Schedules.runAll_eq {labelled : List (Rule × Nat)}
    (schedules : Schedules labelled phase turns)
    (ascending : labelled.Pairwise fun a b => a.2 < b.2) (course : Course doc turns last) :
    runAll (labelled.map Prod.fst) doc phase =
      ⟨last, turns.filterMap Turn.applied?, turns.length, turns.filterMap Turn.failure?⟩ := by
  rw [runAll, inOrder_of_precedes ascending schedules.ordered schedules.members, List.map_map]
  have run := foldl_runOne_of_course course [] 0 []
  rwa [List.nil_append, List.nil_append, Nat.zero_add] at run

theorem takesPart_iff {r : Rule} :
    r.takesPart phase = true ↔ r.isActive = true ∧ r.scope.covers phase = true := by
  rw [takesPart, Bool.and_eq_true]

/-- Whether a place is one whose turn came to something, or that has no turn. -/
theorem mem_kept {e : Rule × Nat} :
    e ∈ rules.zipIdx.filter (fun e => turns.all fun t => t.place ≠ e.2 || t.isApplied) ↔
      e ∈ rules.zipIdx ∧ ∀ t ∈ turns, t.place = e.2 → t.isApplied = true := by
  simp [List.mem_filter, or_iff_not_imp_left]

/-- What remains of a list without idle rules is scheduled by the turns that came to something. -/
theorem Schedules.withoutIdle (schedules : Schedules rules.zipIdx phase turns)
    (once : (turns.map Turn.place).Nodup) :
    Schedules (rules.zipIdx.filter fun e => turns.all fun t => t.place ≠ e.2 || t.isApplied) phase
      (turns.filter Turn.isApplied) := by
  refine ⟨schedules.ordered.sublist (List.filter_sublist.map _), fun e => ?_⟩
  rw [mem_kept, List.mem_map]
  constructor
  · rintro ⟨t, member, rfl⟩
    obtain ⟨inside, works⟩ := List.mem_filter.mp member
    obtain ⟨listed, part⟩ := (schedules.members _).mp (List.mem_map_of_mem inside)
    refine ⟨⟨listed, fun u other same => ?_⟩, part⟩
    -- A place has but one turn.
    rw [List.inj_on_of_nodup_map once other inside same]
    exact works
  · rintro ⟨⟨listed, works⟩, part⟩
    obtain ⟨t, inside, rfl⟩ := List.mem_map.mp ((schedules.members e).mpr ⟨listed, part⟩)
    exact ⟨t, List.mem_filter.mpr ⟨inside, works t inside rfl⟩, rfl⟩

/-- The places of a schedule are all different. -/
theorem Schedules.once (schedules : Schedules rules.zipIdx phase turns) :
    (turns.map Turn.place).Nodup := by
  have entries : (turns.map Turn.entry).Nodup := nodup_of_precedes schedules.ordered
  rw [show turns.map Turn.place = (turns.map Turn.entry).map Prod.snd by simp [Turn.entry]]
  refine entries.map_on fun a ha b hb same => ?_
  have atA := List.mem_zipIdx_iff_getElem?.mp ((schedules.members a).mp ha).1
  have atB := List.mem_zipIdx_iff_getElem?.mp ((schedules.members b).mp hb).1
  rw [same, atB] at atA
  exact Prod.ext (Option.some.inj atA).symm same

theorem filterMap_applied?_filter (turns : List Turn) :
    (turns.filter Turn.isApplied).filterMap Turn.applied? = turns.filterMap Turn.applied? := by
  rw [List.filterMap_filter]
  refine List.filterMap_congr fun t _ => ?_
  cases ending : t.ending <;> simp [Turn.isApplied, Turn.applied?, ending]

theorem filterMap_failure?_filter (turns : List Turn) :
    (turns.filter Turn.isApplied).filterMap Turn.failure? = [] := by
  rw [List.filterMap_eq_nil_iff]
  intro t member
  have works := (List.mem_filter.mp member).2
  simp [Turn.failure?, of_decide_eq_true works]

theorem length_filterMap_applied? (turns : List Turn) :
    (turns.filterMap Turn.applied?).length = (turns.filter Turn.isApplied).length := by
  induction turns with
  | nil => rfl
  | cons t turns ih =>
      cases ending : t.ending <;> simp [Turn.isApplied, Turn.applied?, ending] <;> exact ih

/-- **Rules that come to nothing leave no trace**: a run has a history, and without the rules whose
conditions did not hold or whose actions failed the run ends with the same document and the same
applied rules, and no rule fails. -/
theorem runAll_withoutIdle (rules : List Rule) (doc : Value) (phase : Scope) :
    ∃ turns, History rules doc phase turns (runAll rules doc phase) ∧
      runAll (withoutIdle turns rules) doc phase =
        { data := (runAll rules doc phase).data
          applied := (runAll rules doc phase).applied
          evaluated := (runAll rules doc phase).applied.length
          failures := [] } := by
  obtain ⟨es, ordered, members⟩ := exists_precedes (places_ascending rules) phase
  obtain ⟨turns, last, course, rfl⟩ := exists_course es doc
  have schedules : Schedules rules.zipIdx phase turns := ⟨ordered, members⟩
  have run := schedules.runAll_eq (places_ascending rules) course
  rw [List.zipIdx_map_fst] at run
  refine ⟨turns, ?_, ?_⟩
  · rw [run]
    refine ⟨ordered, schedules.once, fun r place => ?_, course, rfl, rfl, rfl⟩
    rw [← takesPart_iff, ← List.mem_zipIdx_iff_getElem? (x := (r, place)), ← members (r, place),
      List.mem_map]
    simp [Turn.entry]
  · have rerun := (schedules.withoutIdle schedules.once).runAll_eq
      ((places_ascending rules).sublist List.filter_sublist) course.filter_isApplied
    rw [withoutIdle, rerun, run, filterMap_applied?_filter, filterMap_failure?_filter,
      length_filterMap_applied?]

end Interchange.Rule
