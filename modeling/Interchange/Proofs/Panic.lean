import Interchange.Panic
import Interchange.Proofs.Path.Bounds
/-!
# Checked runs

Beside each function that may panic stands one that goes on regardless, with what is left in the
machine: a list that was emptied, or a sum that has wrapped around.  That one is simpler, and laws
are stated of it.  They are laws of the program as long as both come to the same, and that is what
is said here: a checked result *keeps to* another one if it is the same or a panic.

Two choices make this a relation that a program can be followed with.

* *What rules a panic out is part of the relation.*  It is one condition for a whole run, known
  before the run begins, so that it need not be followed through the states of the run.  Parts of a
  run have weaker conditions of their own, and `mono` brings them all to one.
* *Runs are compared from every state.*  The second of two runs begins where the first has ended,
  and nothing is known of the world there.  What is known of the answer of the first, as that the
  report on a field names its path, joins the condition of the second (`KeepsTo.bind_of_answers`).

* `Keeps` — checked results; `Keeps.bind`, `Keeps.foldlM`, `Keeps.mapM` for several steps.
* `Checked.KeepsTo` — checked runs, from every state.
* `Path.Bounded` — paths that can be written in every document; `Value.keeps_checkedWrite` says so.
-/

namespace Interchange

open Numeral (wordBound)

variable {σ α β : Type} {safe safe' : Prop}

/-! ### Results -/

/-- **A checked result keeps to another one**: it is the same, or it is a panic, and then `safe`
does not hold. -/
def Keeps (safe : Prop) (r : Except Panic α) (x : α) : Prop :=
  r = .ok x ∨ ¬ safe ∧ ∃ p, r = .error p

namespace Keeps

variable {r : Except Panic α} {x y : α}

/-- A result that is given. -/
theorem ok (x : α) : Keeps safe (.ok x) x := .inl rfl

/-- What is given is the result of the other side. -/
theorem eq_of_eq_ok (kept : Keeps safe r x) (given : r = .ok y) : y = x := by
  rcases kept with same | ⟨-, p, panicked⟩
  · exact Except.ok.inj (given.symm.trans same)
  · rw [given] at panicked
    cases panicked

/-- Where it is safe, the result is given. -/
theorem eq_ok (kept : Keeps safe r x) (holds : safe) : r = .ok x :=
  kept.resolve_right fun ⟨refuted, _⟩ => refuted holds

/-- What rules a panic out may be replaced by something stronger. -/
theorem mono (kept : Keeps safe r x) (stronger : safe' → safe) : Keeps safe' r x :=
  kept.imp_right fun ⟨refuted, panicked⟩ => ⟨fun holds => refuted (stronger holds), panicked⟩

/-- What is made of a result. -/
theorem map (kept : Keeps safe r x) (f : α → β) : Keeps safe (r.map f) (f x) := by
  rcases kept with rfl | ⟨refuted, p, rfl⟩
  · exact .inl rfl
  · exact .inr ⟨refuted, p, rfl⟩

/-- Results that are chained: a panic of the first is one of both. -/
theorem bind {f : α → Except Panic β} {z : β} (first : Keeps safe r x) (next : Keeps safe (f x) z) :
    Keeps safe (r >>= f) z := by
  rcases first with rfl | ⟨refuted, p, rfl⟩
  · exact next
  · exact .inr ⟨refuted, p, rfl⟩

/-- Results that are chained along a list. -/
theorem foldlM {f : β → α → Except Panic β} {g : β → α → β} {items : List α}
    (step : ∀ a ∈ items, ∀ b, Keeps safe (f b a) (g b a)) (b : β) :
    Keeps safe (items.foldlM f b) (items.foldl g b) := by
  induction items generalizing b with
  | nil => exact ok b
  | cons a items ih =>
      rw [List.foldlM_cons, List.foldl_cons]
      exact (step a List.mem_cons_self b).bind
        (ih (fun a member => step a (List.mem_cons_of_mem _ member)) (g b a))

/-- Results for every item of a list. -/
theorem mapM {f : α → Except Panic β} {g : α → β} {items : List α}
    (step : ∀ a ∈ items, Keeps safe (f a) (g a)) : Keeps safe (items.mapM f) (items.map g) := by
  induction items with
  | nil => exact ok []
  | cons a items ih =>
      rw [List.mapM_cons, List.map_cons]
      exact (step a List.mem_cons_self).bind
        ((ih fun a member => step a (List.mem_cons_of_mem _ member)).bind (ok _))

end Keeps

/-! ### Runs -/

namespace Checked

/-- **A checked run keeps to another one** from every state: it ends with the same answer and the
same state, or it panics, and then `safe` does not hold. -/
def KeepsTo (safe : Prop) (a : Checked σ α) (b : StateM σ α) : Prop :=
  ∀ s, Keeps safe (a.run s) (b.run s)

namespace KeepsTo

variable {a : Checked σ α} {b : StateM σ α}

/-- An answer that is given. -/
theorem pure (x : α) : KeepsTo safe (pure x : Checked σ α) (pure x) := fun s => .ok (x, s)

/-- An action of the world is the same in both. -/
theorem lift (b : StateM σ α) : KeepsTo safe (liftM b : Checked σ α) b := fun s => .ok (b.run s)

/-- Runs that follow one another.  The second begins where the first has ended, so it is asked for
from every state. -/
theorem bind {f : α → Checked σ β} {g : α → StateM σ β} (first : KeepsTo safe a b)
    (next : ∀ x, KeepsTo safe (f x) (g x)) : KeepsTo safe (a >>= f) (b >>= g) :=
  fun s => (first s).bind (next _ _)

/-- What is known of the answers of the first action may be used to rule out panics of the next. -/
theorem bind_of_answers {f : α → Checked σ β} {g : α → StateM σ β} {P : α → Prop}
    (first : KeepsTo safe a b) (known : safe → ∀ s, P (b.run s).1)
    (next : ∀ x, KeepsTo (safe ∧ P x) (f x) (g x)) : KeepsTo safe (a >>= f) (b >>= g) :=
  fun s => (first s).bind ((next _ _).mono fun holds => ⟨holds, known holds s⟩)

/-- A checked result may come first. -/
theorem check {r : Except Panic α} {x : α} {f : α → Checked σ β} {c : StateM σ β}
    (first : Keeps safe r x) (next : KeepsTo safe (f x) c) :
    KeepsTo safe ((liftM r : Checked σ α) >>= f) c := by
  intro s
  rcases first with rfl | ⟨refuted, p, rfl⟩
  · exact next s
  · exact .inr ⟨refuted, p, rfl⟩

/-- What rules a panic out may be replaced by something stronger. -/
theorem mono (kept : KeepsTo safe a b) (stronger : safe' → safe) : KeepsTo safe' a b :=
  fun s => (kept s).mono stronger

end KeepsTo

end Checked

/-! ### Writes -/

/-- **A path that can be written in every document**: no segment of it denotes the greatest word. -/
def Path.Bounded (path : String) : Prop :=
  ∀ s ∈ Path.segments path, Path.index? s ≠ some (wordBound - 1)

instance (path : String) : Decidable (Path.Bounded path) :=
  inferInstanceAs (Decidable (∀ s ∈ Path.segments path, Path.index? s ≠ some (wordBound - 1)))

/-- The panic of a write that cannot be made. -/
def Panic.ofWrite : Panic := .outOfBounds ⟨wordBound - 1, 0⟩

namespace Value

variable {d : Value} {path : String}

/-- A write that reaches for no item beyond the last length is made, -/
theorem checkedWrite_eq_ok (short : ∀ t ∈ d.sites (Path.segments path), ¬ t.Overruns) (x : Value) :
    d.checkedWrite path x = .ok (d.write path x) :=
  congrArg _ (trySet_of_forall short)

/-- and one that does panics, always in the same words. -/
theorem checkedWrite_eq_error (long : ∃ t ∈ d.sites (Path.segments path), t.Overruns)
    (x : Value) : d.checkedWrite path x = .error .ofWrite :=
  congrArg _ (trySet_of_exists long)

/-- **A write is made**, or the path has the greatest word as a segment. -/
theorem keeps_checkedWrite (d : Value) (path : String) (x : Value) :
    Keeps (Path.Bounded path) (d.checkedWrite path x) (d.write path x) := by
  by_cases long : ∃ t ∈ d.sites (Path.segments path), t.Overruns
  · refine .inr ⟨fun bounded => ?_, _, checkedWrite_eq_error long x⟩
    obtain ⟨t, reached, overruns⟩ := long
    obtain ⟨s, member, index⟩ := exists_segment_of_mem_sites reached
    exact bounded s member (overruns.index_eq ▸ index)
  · simp only [not_exists, not_and] at long
    exact .inl (checkedWrite_eq_ok long x)

end Value

end Interchange
