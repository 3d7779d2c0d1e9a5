import Interchange.Path.Access
import Interchange.Proofs.Table
/-!
# What writing and merging leave alone

A document that is built by writing at some places has nothing but objects on the way to any other
place, and ends before it.  `StopsShortOf` is this property; it is kept by writes elsewhere.
Merging such a document into another one either leaves the value in that place alone or, where the
other document has a list that the built one has an object for, drops the list with all that it
holds.

* `Path.Overlap` — two places of which one lies in the other.
* `Value.StopsShortOf.set` — writing elsewhere keeps the property.
* `Value.get?_merge_of_passes`, `Value.get?_merge_of_enters` — what merging does to a place that the
  patch does not reach.
-/

namespace Interchange

/-- **Overlapping places**: one is the other or lies inside of it. -/
def Path.Overlap (p q : List String) : Prop := p <+: q ∨ q <+: p

namespace Path

instance (p q : List String) : Decidable (Overlap p q) :=
  inferInstanceAs (Decidable (p <+: q ∨ q <+: p))

theorem Overlap.symm {p q : List String} (overlap : Overlap p q) : Overlap q p := Or.symm overlap

theorem overlap_nil_left {q : List String} : Overlap [] q := .inl List.nil_prefix

theorem overlap_nil_right {p : List String} : Overlap p [] := .inr List.nil_prefix

theorem overlap_cons_iff {k : String} {p q : List String} :
    Overlap (k :: p) (k :: q) ↔ Overlap p q := by
  simp [Overlap, List.cons_prefix_cons]

end Path

namespace Value

/-! ### Reads after one merge -/

/-- Only objects are merged; anything else is replaced. -/
theorem merge_of_not_object {target : Value} (scalar : target.isObject = false) (patch : Value) :
    target.merge patch = patch := by
  cases target with
  | obj ms => simp [isObject] at scalar
  | _ => simp [merge]

/-- A member after a merge: that of the target where the patch has none, that of the patch where
the target has none, and else one merged into the other. -/
theorem get?_mergeMembers {k : String} {patch : List (String × Value)} :
    ∀ {target : List (String × Value)}, Table.Sorted patch →
      Table.get? k (mergeMembers target patch) =
        match Table.get? k patch with
        | none => Table.get? k target
        | some p => some (((Table.get? k target).map fun t => t.merge p).getD p) := by
  induction patch with
  | nil => intro target _; rw [mergeMembers]; rfl
  | cons entry patch ih =>
      obtain ⟨key, p⟩ := entry
      intro target sorted
      rw [mergeMembers, ih sorted.tail]
      by_cases here : key = k
      · subst here
        rw [sorted.get?_tail, Table.get?, if_pos rfl]
        dsimp only
        rw [Table.get?_put_self]
        cases Table.get? key target with
        | none => rfl
        | some t =>
            cases object : t.isObject with
            | true => simp [object]
            | false => simp [object, merge_of_not_object object]
      · rw [Table.get?, if_neg here, Table.get?_put_of_ne (Ne.symm here)]

/-- Reading past the first key after a merge. -/
theorem get?_cons_merge {k : String} {rest : List String} {ms patch : List (String × Value)}
    (sorted : Table.Sorted patch) :
    ((obj ms).merge (obj patch)).get? (k :: rest) =
      match Table.get? k patch with
      | none => (obj ms).get? (k :: rest)
      | some p => (((Table.get? k ms).map fun t => t.merge p).getD p).get? rest := by
  rw [merge, get?, child?, get?_mergeMembers sorted]
  cases Table.get? k patch with
  | none => rfl
  | some p => rfl

/-! ### Documents that end before a place -/

/-- **The document ends before a place**: the way there leads through objects only, and some key on
it is missing. -/
def StopsShortOf : Value → List String → Prop
  | _, [] => False
  | obj ms, key :: rest =>
    Table.Sorted ms ∧ ∀ v, Table.get? key ms = some v → v.StopsShortOf rest
  | _, _ :: _ => False

/-- The empty object ends before every place but its own. -/
theorem stopsShortOf_empty {q : List String} (deep : q ≠ []) : empty.StopsShortOf q := by
  cases q with
  | nil => exact absurd rfl deep
  | cons k q => exact ⟨List.Pairwise.nil, fun v found => by simp [Table.get?] at found⟩

/-- A document that ends before a place is an object, at the least, -/
theorem StopsShortOf.exists_obj {v : Value} {q : List String} (short : v.StopsShortOf q) :
    ∃ ms, v = obj ms := by
  cases q with
  | nil => cases v <;> simp [StopsShortOf] at short
  | cons k q => cases v <;> simp [StopsShortOf] at short ⊢

/-- and nothing is found in the place. -/
theorem StopsShortOf.get?_eq_none {q : List String} :
    ∀ {v : Value}, v.StopsShortOf q → v.get? q = none := by
  induction q with
  | nil => intro v short; cases v <;> simp [StopsShortOf] at short
  | cons k q ih =>
      intro v short
      obtain ⟨ms, rfl⟩ := short.exists_obj
      rw [get?, child?]
      cases found : Table.get? k ms with
      | none => rfl
      | some c => exact ih (short.2 c found)

/-- A write goes on in the container that it enters, and puts that back. -/
theorem set_cons (v : Value) (s : String) (rest : List String) (x : Value) :
    v.set (s :: rest) x = v.put s ((v.enter s).set rest x) := by
  cases rest <;> rfl

/-- Writing enters the object that is there, or a new one. -/
theorem StopsShortOf.enter {ms : List (String × Value)} {k : String} {q : List String}
    (short : (obj ms).StopsShortOf (k :: q)) (deep : q ≠ []) :
    ((obj ms).enter k).StopsShortOf q ∧
      ∀ a : List String, a ≠ [] → ((obj ms).enter k).get? a = (obj ms).get? (k :: a) := by
  rw [Value.enter, child?]
  cases found : Table.get? k ms with
  | none =>
      refine ⟨stopsShortOf_empty deep, fun a inside => ?_⟩
      cases a with
      | nil => exact absurd rfl inside
      | cons l a => simp [get?, child?, found, empty, Table.get?]
  | some c =>
      have below := short.2 c found
      obtain ⟨ns, rfl⟩ := below.exists_obj
      exact ⟨below, fun a _ => by simp [get?, child?, found, isContainer]⟩

/-- **Writing elsewhere** keeps the document short of a place, and reaches what is on the way to
where it writes. -/
theorem StopsShortOf.set {q : List String} (x : Value) :
    ∀ {v : Value} {t : List String}, v.StopsShortOf q → ¬ Path.Overlap t q →
      (v.set t x).StopsShortOf q ∧
        ∀ a, a <+: q → (((v.set t x).get? a).isSome ↔ (v.get? a).isSome ∨ a <+: t) := by
  induction q with
  | nil => intro v t short _; cases v <;> simp [StopsShortOf] at short
  | cons k q ih =>
      intro v t short apart
      obtain ⟨ms, rfl⟩ := short.exists_obj
      cases t with
      | nil => exact absurd Path.overlap_nil_left apart
      | cons s t =>
          rw [set_cons, put]
          by_cases here : s = k
          · subst here
            rw [Path.overlap_cons_iff] at apart
            have deep : q ≠ [] := by
              rintro rfl
              exact apart Path.overlap_nil_right
            obtain ⟨entered, reads⟩ := short.enter deep
            obtain ⟨written, reached⟩ := ih entered apart
            refine ⟨⟨short.1.put _ _, fun v found => ?_⟩, fun a lead => ?_⟩
            · rw [Table.get?_put_self, Option.some.injEq] at found
              exact found ▸ written
            · cases a with
              | nil => simp [get?]
              | cons l a =>
                  obtain ⟨rfl, onWay⟩ := List.cons_prefix_cons.mp lead
                  rw [get?, child?, Table.get?_put_self, Option.bind_some, reached a onWay,
                    List.cons_prefix_cons]
                  cases a with
                  | nil => simp [get?]
                  | cons l' a => simp [reads (l' :: a) (by simp)]
          · refine ⟨⟨short.1.put _ _, fun v found => ?_⟩, fun a lead => ?_⟩
            · rw [Table.get?_put_of_ne (Ne.symm here)] at found
              exact short.2 v found
            · cases a with
              | nil => simp [get?]
              | cons l a =>
                  obtain ⟨rfl, -⟩ := List.cons_prefix_cons.mp lead
                  rw [get?, child?, Table.get?_put_of_ne (Ne.symm here), get?, child?,
                    List.cons_prefix_cons]
                  simp [Ne.symm here]

/-! ### Merging past a place -/

/-- Whether a list stands in a place. -/
def HasListAt (v : Value) (a : List String) : Prop := ∃ items, v.get? a = some (list items)

/-- Whether a patch reaches a list of the document on the way to a place. -/
def EntersList (v patch : Value) (q : List String) : Prop :=
  ∃ a, a <+: q ∧ (patch.get? a).isSome ∧ v.HasListAt a

theorem HasListAt.not_obj {ms : List (String × Value)} : ¬ (obj ms).HasListAt [] := by
  rintro ⟨items, found⟩
  simp [get?] at found

/-- A list on the way stands in the member that the way enters. -/
theorem hasListAt_cons {ms : List (String × Value)} {k : String} {a : List String} :
    (obj ms).HasListAt (k :: a) ↔ ∃ c, Table.get? k ms = some c ∧ c.HasListAt a := by
  simp only [HasListAt, get?, child?, Option.bind_eq_some_iff]
  constructor
  · rintro ⟨items, c, found, below⟩
    exact ⟨c, found, items, below⟩
  · rintro ⟨c, found, items, below⟩
    exact ⟨items, c, found, below⟩

/-- A document that has a value in a place is an object on the way there, or a list. -/
theorem exists_obj_of_get? {v w : Value} {k : String} {q : List String}
    (held : v.get? (k :: q) = some w) (noList : ¬ v.HasListAt []) : ∃ ms, v = obj ms := by
  cases v with
  | obj ms => exact ⟨ms, rfl⟩
  | list items => exact absurd ⟨items, rfl⟩ noList
  | _ => simp [get?, child?] at held

/-- An object stays one when something is merged into it that ends before a place. -/
theorem isObject_merge {v patch : Value} {q : List String} (object : v.isObject = true)
    (short : patch.StopsShortOf q) : (v.merge patch).isObject = true := by
  obtain ⟨ps, rfl⟩ := short.exists_obj
  cases v with
  | obj ms => rw [merge]; rfl
  | _ => simp [isObject] at object

/-- **Merging passes a place by** that the patch ends before, and keeps its value, if the patch
reaches no list on the way there; on the way, lists stay where they are. -/
theorem get?_merge_of_passes {q : List String} {w : Value} :
    ∀ {v patch : Value}, patch.StopsShortOf q → v.get? q = some w → ¬ v.EntersList patch q →
      (v.merge patch).get? q = some w ∧
        ∀ a, a <+: q → ((v.merge patch).HasListAt a ↔ v.HasListAt a) := by
  induction q with
  | nil => intro v patch short; cases patch <;> simp [StopsShortOf] at short
  | cons k q ih =>
      intro v patch short held passes
      obtain ⟨ps, rfl⟩ := short.exists_obj
      obtain ⟨ms, rfl⟩ := exists_obj_of_get? held fun listHere =>
        passes ⟨[], List.nil_prefix, rfl, listHere⟩
      obtain ⟨t, member, below⟩ := Option.bind_eq_some_iff.mp held
      rw [child?] at member
      have atRoot : ((obj ms).merge (obj ps)).HasListAt [] ↔ (obj ms).HasListAt [] := by
        rw [merge]
        exact iff_of_false HasListAt.not_obj HasListAt.not_obj
      cases found : Table.get? k ps with
      | none =>
          refine ⟨by rw [get?_cons_merge short.1, found]; exact held, fun a lead => ?_⟩
          cases a with
          | nil => exact atRoot
          | cons l a =>
              obtain ⟨rfl, -⟩ := List.cons_prefix_cons.mp lead
              rw [HasListAt, get?_cons_merge short.1, found, HasListAt]
      | some p =>
          have passes' : ¬ t.EntersList p q := by
            rintro ⟨a, lead, reached, listThere⟩
            refine passes ⟨k :: a, List.cons_prefix_cons.mpr ⟨rfl, lead⟩, ?_, ?_⟩
            · simpa [get?, child?, found] using reached
            · exact hasListAt_cons.mpr ⟨t, member, listThere⟩
          obtain ⟨kept, lists⟩ := ih (short.2 p found) below passes'
          refine ⟨?_, fun a lead => ?_⟩
          · rw [get?_cons_merge short.1, found, member]
            exact kept
          · cases a with
            | nil => exact atRoot
            | cons l a =>
                obtain ⟨rfl, onWay⟩ := List.cons_prefix_cons.mp lead
                rw [HasListAt, get?_cons_merge short.1, found, member]
                refine (lists a onWay).trans ?_
                rw [hasListAt_cons, member]
                simp

/-- **Merging loses a place** if the patch ends before it and reaches a list on the way there. -/
theorem get?_merge_of_enters {q : List String} :
    ∀ {v patch : Value}, patch.StopsShortOf q → v.EntersList patch q →
      (v.merge patch).get? q = none := by
  induction q with
  | nil => intro v patch short; cases patch <;> simp [StopsShortOf] at short
  | cons k q ih =>
      rintro v patch short ⟨a, lead, reached, listThere⟩
      cases v with
      | obj ms =>
          obtain ⟨ps, rfl⟩ := short.exists_obj
          cases a with
          | nil => exact absurd listThere HasListAt.not_obj
          | cons l a =>
              obtain ⟨rfl, onWay⟩ := List.cons_prefix_cons.mp lead
              obtain ⟨t, member, below⟩ := hasListAt_cons.mp listThere
              rw [get?_cons_merge short.1]
              cases found : Table.get? l ps with
              | none => simp [get?, child?, found] at reached
              | some p =>
                  rw [member]
                  refine ih (short.2 p found) ⟨a, onWay, ?_, below⟩
                  simpa [get?, child?, found] using reached
      | _ =>
          rw [merge_of_not_object rfl]
          exact short.get?_eq_none

/-- What neither document has, their merge has not either. -/
theorem get?_merge_of_none {q : List String} :
    ∀ {v patch : Value}, patch.StopsShortOf q → v.get? q = none →
      (v.merge patch).get? q = none := by
  induction q with
  | nil => intro v patch short; cases patch <;> simp [StopsShortOf] at short
  | cons k q ih =>
      intro v patch short absent
      cases v with
      | obj ms =>
          obtain ⟨ps, rfl⟩ := short.exists_obj
          rw [get?_cons_merge short.1]
          cases found : Table.get? k ps with
          | none => exact absent
          | some p =>
              cases member : Table.get? k ms with
              | none => exact (short.2 p found).get?_eq_none
              | some t =>
                  refine ih (short.2 p found) ?_
                  simpa [get?, child?, member] using absent
      | _ =>
          rw [merge_of_not_object rfl]
          exact short.get?_eq_none

end Value

end Interchange
