import Interchange.Expr.Scalar
import Interchange.Proofs.Path.Leaves
import Mathlib.Data.List.Basic
/-!
# What the names of an expression stand for

The names are bound one after the other: those of the leaves of the source document in its order,
and `value` for the value at hand at last.  A later binding of a name replaces an earlier one, and a
container binds nothing.  So where the value at hand is a list or an object, it does not take away
what a leaf of the source has left under the name `value`.

* `lastNamed?` — the last leaf of a document whose keys and indices spell a name.
* `Bindings.meaning?` — what a name should stand for.
* `Bindings.get?_foldl_bind` — what a name stands for after several bindings.
* `Bindings.get?_ofSource` — what it stands for beside a value and its source.
* `Bindings.ofSource_reads` — that is what it should stand for exactly if the value is no container,
  or nothing in the source is called `value`.
-/

namespace Interchange.Expr

/-- **The last leaf** of a document, in its order, whose keys and indices spell a name. -/
def lastNamed? (name : String) (source : Value) : Option Value :=
  ((source.leaves.filter fun l => Path.nameOf? l.1 = some name).getLast?).map Prod.snd

theorem Scalar.isSome_ofValue?_iff {v : Value} :
    (ofValue? v).isSome = true ↔ v.isContainer = false := by
  cases v with
  | str s =>
      rw [ofValue?]
      split <;> simp [Value.isContainer]
  | _ => simp [ofValue?, Value.isContainer]

/-- A container is no scalar. -/
theorem Scalar.ofValue?_of_isContainer {v : Value} (container : v.isContainer = true) :
    ofValue? v = none := by
  rw [← Option.not_isSome_iff_eq_none, isSome_ofValue?_iff, container]
  exact Bool.noConfusion

/-- Of a list whose elements all give something, the last thing given is that of the last element.
-/
theorem getLast?_filterMap_of_isSome {α β : Type} {f : α → Option β} {xs : List α}
    (total : ∀ x ∈ xs, (f x).isSome = true) :
    (xs.filterMap f).getLast? = xs.getLast?.bind f := by
  rcases xs.eq_nil_or_concat with rfl | ⟨before, x, rfl⟩
  · rfl
  · obtain ⟨y, given⟩ := Option.isSome_iff_exists.mp (total x (by simp))
    simp [given]

namespace Bindings

variable {b : Bindings} {name : String}

/-- **What a name should stand for**: `value` for the value at hand, and every other name for the
last leaf of the source that is called so. -/
def meaning? (value source : Value) (name : String) : Option Scalar :=
  if name = "value" then Scalar.ofValue? value
  else (lastNamed? name source).bind Scalar.ofValue?

theorem get?_bind (bound : String) (v : Value) : (b.bind bound v).get? name =
    if bound = name then (Scalar.ofValue? v).or (b.get? name) else b.get? name := by
  cases scalar : Scalar.ofValue? v with
  | none => simp only [Bindings.bind, scalar, Option.none_or, ite_self]
  | some s =>
      by_cases here : bound = name
      · rw [if_pos here, Bindings.bind, scalar, here]
        exact Table.get?_put_self name s b
      · rw [if_neg here, Bindings.bind, scalar]
        exact Table.get?_put_of_ne (Ne.symm here) s b

/-- **Of several bindings of a name the last one stands**, containers left out. -/
theorem get?_foldl_bind (pairs : List (String × Value)) :
    (pairs.foldl (fun b p => b.bind p.1 p.2) b).get? name =
      ((pairs.filterMap fun p => if p.1 = name then Scalar.ofValue? p.2 else none).getLast?).or
        (b.get? name) := by
  induction pairs generalizing b with
  | nil => rfl
  | cons p pairs ih =>
      rw [List.foldl_cons, ih, get?_bind, List.filterMap_cons]
      split
      · cases Scalar.ofValue? p.2 with
        | none => rfl
        | some s => rw [List.getLast?_cons]; cases List.getLast? _ <;> rfl
      · rfl

/-- A name of a flattened document stands for the last leaf that is called so. -/
theorem get?_ofList_flatten (source : Value) :
    (ofList source.flatten).get? name = (lastNamed? name source).bind Scalar.ofValue? := by
  have leaves : source.flatten.filterMap
        (fun p => if p.1 = name then Scalar.ofValue? p.2 else none) =
      (source.leaves.filter fun l => Path.nameOf? l.1 = some name).filterMap
        fun l => Scalar.ofValue? l.2 := by
    rw [Value.flatten_eq_leaves, List.filterMap_filterMap, List.filterMap_filter]
    refine List.filterMap_congr fun l _ => ?_
    cases named : Path.nameOf? l.1 <;> simp [Value.named?, named]
  have scalars : ∀ l ∈ source.leaves.filter fun l => Path.nameOf? l.1 = some name,
      (Scalar.ofValue? l.2).isSome = true := fun l member =>
    Scalar.isSome_ofValue?_iff.mpr
      (Value.isContainer_of_mem_leaves l (List.mem_filter.mp member).1)
  rw [ofList, get?_foldl_bind, leaves, getLast?_filterMap_of_isSome scalars, lastNamed?,
    Option.bind_map]
  exact Option.or_none

/-- **What a name stands for.**  The last binding is that of the value at hand, if it is one. -/
theorem get?_ofSource (value source : Value) (name : String) :
    (ofSource value source).get? name =
      if name = "value" then
        (Scalar.ofValue? value).or ((lastNamed? "value" source).bind Scalar.ofValue?)
      else (lastNamed? name source).bind Scalar.ofValue? := by
  rw [ofSource, get?_bind, get?_ofList_flatten]
  by_cases here : name = "value"
  · rw [if_pos here, if_pos here.symm, here]
  · rw [if_neg here, if_neg (Ne.symm here)]

/-- The last leaf with a name is a scalar. -/
theorem isSome_ofValue?_of_lastNamed? {source leaf : Value}
    (last : lastNamed? name source = some leaf) : (Scalar.ofValue? leaf).isSome = true := by
  obtain ⟨l, found, rfl⟩ := Option.map_eq_some_iff.mp last
  have member := List.mem_of_getLast? found
  exact Scalar.isSome_ofValue?_iff.mpr
    (Value.isContainer_of_mem_leaves l (List.mem_filter.mp member).1)

/-- The names beside a value and its source document stand for what they should. -/
def AsMeant (value source : Value) : Prop :=
  ∀ name, (ofSource value source).get? name = meaning? value source name

/-- A leaf called `value` is what the name stands for beside a container, and should not be. -/
theorem asMeant_iff (value source : Value) : AsMeant value source ↔
    (value.isContainer = true → lastNamed? "value" source = none) := by
  constructor
  · intro meant container
    have none_there := meant "value"
    rw [get?_ofSource, meaning?, if_pos rfl, if_pos rfl, Scalar.ofValue?_of_isContainer container,
      Option.none_or] at none_there
    cases last : lastNamed? "value" source with
    | none => rfl
    | some leaf =>
        have scalar := isSome_ofValue?_of_lastNamed? last
        rw [last, Option.bind_some] at none_there
        rw [none_there] at scalar
        cases scalar
  · intro nothing name
    rw [get?_ofSource, meaning?]
    by_cases here : name = "value"
    · rw [if_pos here, if_pos here]
      cases container : value.isContainer with
      | true => rw [nothing container, Option.bind_none, Option.or_none]
      | false => exact Option.or_of_isSome (Scalar.isSome_ofValue?_iff.mpr container)
    · rw [if_neg here, if_neg here]

/-! ### The names of an expression -/

/-- What the names beside a value and its source document stand for. -/
structure Reading (value source : Value) : Prop where
  /-- A name other than `value` stands for the scalar of the last leaf that is called so, -/
  bound : ∀ name leaf, name ≠ "value" → lastNamed? name source = some leaf →
    ∃ s, Scalar.ofValue? leaf = some s ∧ (ofSource value source).get? name = some s
  /-- and for nothing if no leaf is. -/
  unbound : ∀ name, name ≠ "value" → lastNamed? name source = none →
    (ofSource value source).get? name = none
  /-- Beside a scalar, `value` stands for it. -/
  own : value.isContainer = false →
    ∃ s, Scalar.ofValue? value = some s ∧ (ofSource value source).get? "value" = some s
  /-- Beside a container, `value` is a name as any other. -/
  stale : value.isContainer = true →
    (ofSource value source).get? "value" = (lastNamed? "value" source).bind Scalar.ofValue?
  /-- So all names stand for what they should exactly if the value is no container, or no leaf is
  called `value`. -/
  asMeant_iff : AsMeant value source ↔
    (value.isContainer = true → lastNamed? "value" source = none)

/-- **The names of an expression** stand for the last leaves that are called so, and `value` for the
value at hand, unless that is a container and a leaf of the source is called `value`. -/
theorem ofSource_reads (value source : Value) : Reading value source where
  bound name leaf other last := by
    obtain ⟨s, scalar⟩ := Option.isSome_iff_exists.mp (isSome_ofValue?_of_lastNamed? last)
    refine ⟨s, scalar, ?_⟩
    rw [get?_ofSource, if_neg other, last, Option.bind_some, scalar]
  unbound name other nothing := by
    rw [get?_ofSource, if_neg other, nothing, Option.bind_none]
  own scalar := by
    obtain ⟨s, found⟩ := Option.isSome_iff_exists.mp (Scalar.isSome_ofValue?_iff.mpr scalar)
    refine ⟨s, found, ?_⟩
    rw [get?_ofSource, if_pos rfl, found, Option.some_or]
  stale container := by
    rw [get?_ofSource, if_pos rfl, Scalar.ofValue?_of_isContainer container, Option.none_or]
  asMeant_iff := asMeant_iff value source

/-- Beside the drivers of a quote, which are a list, `value` stands for the field of the quote that
is called so. -/
theorem value_of_quote :
    let drivers := Value.list [.str "Ann"]
    let quote := Value.obj [("drivers", drivers), ("value", .ofInt 5)]
    drivers.isContainer = true ∧ meaning? drivers quote "value" = none ∧
      (ofSource drivers quote).get? "value" = some (.number (Float.ofInt 5)) ∧
      ¬ AsMeant drivers quote := by
  intro drivers quote
  have last : lastNamed? "value" quote = some (.ofInt 5) := by rfl
  refine ⟨rfl, rfl, ?_, fun meant => ?_⟩
  · rw [get?_ofSource, if_pos rfl, last]
    rfl
  · have nothing := (asMeant_iff drivers quote).mp meant rfl
    rw [last] at nothing
    cases nothing

end Bindings

end Interchange.Expr
