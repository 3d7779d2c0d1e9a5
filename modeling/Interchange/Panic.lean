import Interchange.Path.Access
/-!
# Panics

A configured path or priority may ask for what cannot be computed: an item outside of its list, or a
sum outside of its word.  That is no error of a run, which would be told in a report.  The program
panics, and nothing is left of what it was doing, not even the state of the world that it had come
to.

Each function on the way to such an access or sum has a twin whose name begins with `try`.  The twin
does the same and panics where the program does; it is the one that the program runs.

* `Panic` — why a program panics.
* `Checked` — runs that may panic.
* `Value.checkedWrite`, `Panic.add` — where panics come from.
-/

namespace Interchange

/-- Why a program panics. -/
inductive Panic
  /-- An item was accessed that lies outside of its list. -/
  | outOfBounds (e : Value.OutOfBounds)
  /-- A sum does not fit in its word. -/
  | overflow
deriving DecidableEq

/-- The wording of a panic. -/
def Panic.message : Panic → String
  | outOfBounds e => e.message
  | overflow => "attempt to add with overflow"

/-- Runs that may panic.  They carry a state as long as they do not. -/
abbrev Checked (σ : Type) := StateT σ (Except Panic)

/-- An action of the world does not panic. -/
instance {σ : Type} : MonadLift (StateM σ) (Checked σ) := ⟨fun a s => .ok (a.run s)⟩

/-- The sum of two words, if it is one. -/
def Panic.add (a b : Int32) : Except Panic Int32 :=
  if (a + b).toInt = a.toInt + b.toInt then .ok (a + b) else .error .overflow

/-- Writes a value at a path, if every item on the way can be accessed. -/
def Value.checkedWrite (v : Value) (path : String) (x : Value) : Except Panic Value :=
  (v.tryWrite path x).mapError .outOfBounds

end Interchange
