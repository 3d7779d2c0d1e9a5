import Interchange.Value.Basic
/-!
# Lookup tables

A lookup table gives a value to each of finitely many keys.  Mappings and pipeline steps reach
tables through a resolver, which may carry a state of its own, such as a cache; the tables that a
bundle holds are a resolver without state.

* `Tables.find` — the entry of a table under a key; an unknown table is a fault, an unknown key is
  not.
* `Resolver` — what mappings see of lookup tables.
-/

namespace Interchange

/-- Why a lookup has no answer. -/
inductive LookupFault
  | unknownTable (table : String)
  /-- The store behind the tables failed. -/
  | unavailable (message : String)
deriving DecidableEq

/-- The wording of a fault. -/
def LookupFault.message : LookupFault → String
  | .unknownTable table => s!"Lookup table not found: {table}"
  | .unavailable message => s!"Internal error: {message}"

/-- Finds the value of a table under a key. -/
abbrev Resolver (σ : Type) := String → String → StateM σ (Except LookupFault (Option Value))

/-- Named tables. -/
abbrev Tables := List (String × List (String × Value))

namespace Tables

/-- The entry of a table under a key. -/
def find (t : Tables) (table key : String) : Except LookupFault (Option Value) :=
  match Table.get? table t with
  | some entries => .ok (Table.get? key entries)
  | none => .error (.unknownTable table)

/-- Whether there is a table of this name. -/
def has (t : Tables) (table : String) : Bool := (Table.get? table t).isSome

/-- Stores an entry, in a new table if need be. -/
def insert (t : Tables) (table key : String) (value : Value) : Tables :=
  Table.put table (Table.put key value ((Table.get? table t).getD [])) t

/-- The tables as a resolver. -/
def resolver {σ : Type} (t : Tables) : Resolver σ := fun table key => pure (t.find table key)

end Tables

end Interchange
