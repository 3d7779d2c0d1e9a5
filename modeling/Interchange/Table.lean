/-!
# Tables

A table gives a value to each of finitely many keys.  It is a list of pairs in the order of keys,
as headers, lookup entries and the members of an object are shown.

* `get?`, `put`, `erase` — the three operations.  They are defined on every list of pairs and keep
  `Sorted`; `get?_put_self` and `get?_put_of_ne` say what a write does to reads.
-/

namespace Interchange.Table

variable {α : Type}

/-- The value under a key. -/
def get? (key : String) : List (String × α) → Option α
  | [] => none
  | (k, v) :: t => if k = key then some v else get? key t

/-- Replaces the value under a key that is present. -/
def overwrite (key : String) (value : α) : List (String × α) → List (String × α)
  | [] => []
  | (k, v) :: t => if k = key then (key, value) :: t else (k, v) :: overwrite key value t

/-- Inserts a pair before the first greater key. -/
def place (key : String) (value : α) : List (String × α) → List (String × α)
  | [] => [(key, value)]
  | (k, v) :: t => if key < k then (key, value) :: (k, v) :: t else (k, v) :: place key value t

/-- Stores a value under a key: in the place of the value there, else in the order of keys. -/
def put (key : String) (value : α) (t : List (String × α)) : List (String × α) :=
  if (get? key t).isSome then overwrite key value t else place key value t

/-- Removes the pair with a key. -/
def erase (key : String) : List (String × α) → List (String × α)
  | [] => []
  | (k, v) :: t => if k = key then t else (k, v) :: erase key t

/-- The pairs with the last value of each key, in the order of keys. -/
def ofList (pairs : List (String × α)) : List (String × α) :=
  pairs.foldl (fun t p => put p.1 p.2 t) []

/-- The keys in ascending order, each once. -/
def Sorted (t : List (String × α)) : Prop := t.Pairwise fun a b => a.1 < b.1

theorem get?_overwrite_self {key : String} {value : α} : ∀ {t : List (String × α)},
    (get? key t).isSome → get? key (overwrite key value t) = some value
  | [], h => by simp [get?] at h
  | (k, v) :: t, h => by
    by_cases hk : k = key
    · simp [overwrite, get?, hk]
    · simp only [get?, hk, if_false] at h
      simp [overwrite, get?, hk, get?_overwrite_self h]

theorem get?_place_self {key : String} {value : α} : ∀ {t : List (String × α)},
    get? key t = none → get? key (place key value t) = some value
  | [], _ => by simp [place, get?]
  | (k, v) :: t, h => by
    by_cases hk : k = key
    · simp [get?, hk] at h
    · simp only [get?, hk, if_false] at h
      by_cases hlt : key < k
      · simp [place, get?, hlt]
      · simp [place, get?, hlt, hk, get?_place_self h]

/-- A read after a write of the same key gives what was written. -/
theorem get?_put_self (key : String) (value : α) (t : List (String × α)) :
    get? key (put key value t) = some value := by
  unfold put
  split
  · next h => exact get?_overwrite_self h
  · next h => exact get?_place_self (by simpa using h)

theorem get?_overwrite_of_ne {key other : String} {value : α} (hne : other ≠ key) :
    ∀ {t : List (String × α)}, get? other (overwrite key value t) = get? other t
  | [] => rfl
  | (k, v) :: t => by
    by_cases hk : k = key
    · subst hk; simp [overwrite, get?, hne.symm]
    · by_cases ho : k = other
      · subst ho; simp [overwrite, get?, hk]
      · simp [overwrite, get?, hk, ho, get?_overwrite_of_ne hne]

theorem get?_place_of_ne {key other : String} {value : α} (hne : other ≠ key) :
    ∀ {t : List (String × α)}, get? other (place key value t) = get? other t
  | [] => by simp [place, get?, hne.symm]
  | (k, v) :: t => by
    by_cases hlt : key < k
    · simp [place, get?, hlt, hne.symm]
    · by_cases ho : k = other
      · subst ho; simp [place, get?, hlt]
      · simp [place, get?, hlt, ho, get?_place_of_ne hne]

/-- A write does not touch the values of other keys. -/
theorem get?_put_of_ne {key other : String} (hne : other ≠ key) (value : α)
    (t : List (String × α)) : get? other (put key value t) = get? other t := by
  unfold put
  split
  · exact get?_overwrite_of_ne hne
  · exact get?_place_of_ne hne

end Interchange.Table
