/-!
# What may come of an action

Properties of all that an action can answer, whatever the state of the world, and of all that a
result can fail with.

* `Answers` — of the answers of an action.
* `FailsWith` — of the errors of a result.
* `bind_eq_ok` — when two steps give something.
-/

namespace Interchange

variable {σ α β δ ε : Type}

/-- Whether all that an action can answer has a property. -/
def Answers (P : α → Prop) (a : StateM σ α) : Prop := ∀ s, P (a.run s).1

/-- Whether all that a result can fail with has a property. -/
def FailsWith (P : ε → Prop) (r : Except ε α) : Prop := ∀ e, r = .error e → P e

namespace Answers

/-- An answer that is given without asking. -/
theorem pure {P : α → Prop} {x : α} (known : P x) : Answers P (pure x : StateM σ α) :=
  fun _ => known

/-- What is known of an answer may be used for the actions that follow it. -/
theorem bind {P : α → Prop} {Q : β → Prop} {a : StateM σ α} {f : α → StateM σ β}
    (first : Answers P a) (next : ∀ x, P x → Answers Q (f x)) : Answers Q (a >>= f) :=
  fun s => next _ (first s) _

/-- Of an action about which nothing is known, anything may come. -/
theorem after {Q : β → Prop} {a : StateM σ α} {f : α → StateM σ β}
    (next : ∀ x, Answers Q (f x)) : Answers Q (a >>= f) :=
  fun _ => next _ _

end Answers

namespace FailsWith

variable {P : ε → Prop}

/-- What is no error has all its errors in any class. -/
theorem ok (x : α) : FailsWith P (.ok x) := by
  intro e same
  cases same

/-- An error by itself. -/
theorem error {e : ε} (known : P e) : FailsWith P (.error e : Except ε α) := by
  intro _ same
  cases same
  exact known

/-- The next step needs to be looked at for what the first one gives only. -/
theorem bind_of_ok {r : Except ε α} {f : α → Except ε β} (first : FailsWith P r)
    (next : ∀ x, r = .ok x → FailsWith P (f x)) : FailsWith P (r >>= f) := by
  cases r with
  | error e => exact error (first e rfl)
  | ok x => exact next x rfl

/-- Results that are chained fail as one of them does. -/
theorem bind {r : Except ε α} {f : α → Except ε β} (first : FailsWith P r)
    (next : ∀ x, FailsWith P (f x)) : FailsWith P (r >>= f) :=
  first.bind_of_ok fun x _ => next x

/-- What is made of a result fails as that does. -/
theorem map {r : Except ε α} (fails : FailsWith P r) (f : α → β) : FailsWith P (r.map f) := by
  cases r with
  | error e => exact error (fails e rfl)
  | ok x => exact ok (f x)

/-- Errors that are turned into others, one by one. -/
theorem mapError {Q : δ → Prop} {r : Except ε α} {f : ε → δ} (fails : FailsWith P r)
    (turned : ∀ e, P e → Q (f e)) : FailsWith Q (r.mapError f) := by
  cases r with
  | error e => exact error (turned e (fails e rfl))
  | ok x => exact ok x

end FailsWith

/-! ### Results of several steps -/

/-- Two steps give something if the first one does and the second one then does. -/
theorem bind_eq_ok {r : Except ε α} {f : α → Except ε β} {y : β} :
    r >>= f = .ok y ↔ ∃ x, r = .ok x ∧ f x = .ok y := by
  cases r with
  | error e => exact ⟨nofun, nofun⟩
  | ok x => exact ⟨fun second => ⟨x, rfl, second⟩, by rintro ⟨_, ⟨⟩, second⟩; exact second⟩

/-- What is made of a result is there if the result is. -/
theorem map_eq_ok {r : Except ε α} {f : α → β} {y : β} :
    r.map f = .ok y ↔ ∃ x, r = .ok x ∧ f x = y := by
  cases r with
  | error e => exact ⟨nofun, nofun⟩
  | ok x => exact ⟨fun same => ⟨x, rfl, Except.ok.inj same⟩, by rintro ⟨_, ⟨⟩, rfl⟩; rfl⟩

/-- What a result gives does not depend on how its errors are told. -/
theorem eq_ok_of_mapError {r : Except ε α} {f : ε → δ} {x : α} (mapped : r.mapError f = .ok x) :
    r = .ok x := by
  cases r with
  | error e => cases mapped
  | ok y =>
      cases mapped
      rfl

/-- A result without a value of its own is known once it is no error. -/
theorem eq_ok_of_isOk {r : Except ε Unit} (isOk : r.isOk = true) : r = .ok () := by
  cases r with
  | ok => rfl
  | error e => cases isOk

end Interchange
