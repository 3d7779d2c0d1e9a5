import Interchange.Proofs.Rule.Order
/-!
# Lists of rules that run alike

The order of a run is written in the records of the rules that take part in it.  Where a rule stands
in the list counts only beside rules with the same order and the same priority, and rules that do
not take part may stand anywhere.

* `Rule.rank` — what of a rule its place in a run depends on.
* `Rule.runAll_of_rearranged` — lists that run alike on every document.
-/

namespace Interchange.Rule

/-- The order and the priority of a rule. -/
def rank (r : Rule) : Int32 × Int32 := (r.execOrder, r.priority)

/-- Rules of one rank are those that may stand before one another. -/
theorem rank_eq_iff {a b : Rule} :
    a.rank = b.rank ↔ a.notAfter b = true ∧ b.notAfter a = true := by
  rw [rank, rank, Prod.mk.injEq, ← Int32.toInt_inj, ← Int32.toInt_inj, notAfter_iff, notAfter_iff]
  omega

/-- A run takes its rules from those that take part, and sorts them. -/
theorem inOrder_eq (rules : List Rule) (phase : Scope) :
    inOrder rules phase = (rules.filter (takesPart phase)).mergeSort notAfter := rfl

/-- **The order of a run is decided by the records of the rules that take part.**  Rearranging them
changes nothing, as long as those of one order and priority stay in order, and it does not matter
either which other rules stand in the list, and where. -/
theorem runAll_of_rearranged (phase : Scope) (doc : Value) :
    (∀ {rules others : List Rule},
      Rearranged rank (rules.filter (takesPart phase)) (others.filter (takesPart phase)) →
        runAll rules doc phase = runAll others doc phase) ∧
    (∀ {rules others : List Rule},
      rules.filter (takesPart phase) = others.filter (takesPart phase) →
        runAll rules doc phase = runAll others doc phase) := by
  refine ⟨fun moved => ?_, fun same => ?_⟩
  · have order := mergeSort_eq_of_rearranged (fun a b c => notAfter_trans (a, 0) (b, 0) (c, 0))
      (fun a b => notAfter_total (a, 0) (b, 0)) (fun _ _ => rank_eq_iff) moved
    rw [runAll, runAll, inOrder_eq, inOrder_eq, order]
  · rw [runAll, runAll, inOrder_eq, inOrder_eq, same]

/-- A rule that writes a list, and two of one rank that add to it. -/
def opening : Rule :=
  { named "opening" with actions := [⟨.set, "log", .list []⟩], execOrder := -1, priority := 3 }

def noteOf (name : String) : Rule :=
  { named name with actions := [⟨.append, "log", .str name⟩], priority := -2 }

/-- The opening may be listed before the notes or among them, beside drafts and rules for another
phase. -/
theorem opening_moved_before_notes :
    let rules := [noteOf "Ann", opening, noteOf "Bo"]
    let others := [{ noteOf "Cy" with status := .draft }, opening, noteOf "Ann",
      { opening with scope := .response }, noteOf "Bo"]
    let doc := Value.obj [("log", .str "old")]
    Rearranged rank (rules.filter (takesPart .request)) (others.filter (takesPart .request)) ∧
      rules.filter (takesPart .request) = (rules ++ [{ opening with status := .archived }]).filter
        (takesPart .request) ∧
      runAll rules doc .request = runAll others doc .request ∧
      runAll rules doc .request =
        runAll (rules ++ [{ opening with status := .archived }]) doc .request := by
  intro rules others doc
  have moved : Rearranged rank (rules.filter (takesPart .request))
      (others.filter (takesPart .request)) :=
    ⟨(Equiv.swap 0 1 : Fin 3 ≃ Fin 3), by decide, by decide⟩
  have same : rules.filter (takesPart .request) =
      (rules ++ [{ opening with status := .archived }]).filter (takesPart .request) := by decide
  exact ⟨moved, same, (runAll_of_rearranged .request doc).1 moved,
    (runAll_of_rearranged .request doc).2 same⟩

end Interchange.Rule
