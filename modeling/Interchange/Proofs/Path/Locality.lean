import Interchange.Proofs.Path.Bounds
/-!
# A write is local

Writing at one place leaves alone what is found at another that parts from it.  On their common lead
a write enters the containers that are there, and otherwise makes new ones, in which nothing of the
other place is found either.  Where the places part, an object keeps its other members.  A list
keeps its other items, if it is entered by an index at all, and two segments can be the same index
in different spellings; what a list is filled up with are nulls, which a read for what is present
does not tell from nothing.  All this is said of a write that gives a document.  One that reaches
for the greatest word as an index that the list does not have gives none, and then nothing is read.

* `Path.PartsAt` — where two places part.
* `Value.Separates` — that the container where they part tells the two segments apart.
* `Value.present?_tryWrite_of_apart` — what is present beside a write stays.
-/

namespace Interchange

namespace Path

/-- **Two places part** behind a common lead, at segments that differ. -/
structure PartsAt (a : List String) (x y : String) (p q : List String) : Prop where
  left : a ++ [x] <+: p
  right : a ++ [y] <+: q
  ne : x ≠ y

theorem partsAt_nil {x y : String} {p q : List String} (ne : x ≠ y) :
    PartsAt [] x y (x :: p) (y :: q) :=
  ⟨⟨p, rfl⟩, ⟨q, rfl⟩, ne⟩

theorem PartsAt.cons {a p q : List String} {x y : String} (parts : PartsAt a x y p q)
    (s : String) : PartsAt (s :: a) x y (s :: p) (s :: q) :=
  ⟨List.cons_prefix_cons.mpr ⟨rfl, parts.left⟩, List.cons_prefix_cons.mpr ⟨rfl, parts.right⟩,
    parts.ne⟩

/-- Two places part at their first segments, or behind a segment that they share. -/
theorem PartsAt.cases_cons {a p q : List String} {s x y : String}
    (parts : PartsAt a x y (s :: p) q) :
    (a = [] ∧ x = s ∧ ∃ q', q = y :: q') ∨
      ∃ a' q', a = s :: a' ∧ q = s :: q' ∧ PartsAt a' x y p q' := by
  obtain ⟨left, ⟨q, rfl⟩, ne⟩ := parts
  cases a with
  | nil => exact .inl ⟨rfl, (List.cons_prefix_cons.mp left).1, q, rfl⟩
  | cons k a =>
      rw [List.cons_append, List.cons_prefix_cons] at left
      obtain ⟨rfl, left⟩ := left
      exact .inr ⟨a, a ++ [y] ++ q, rfl, rfl, left, ⟨q, rfl⟩, ne⟩

/-- Two places part in one place only. -/
theorem PartsAt.unique {a b p q : List String} {x y s t : String} (parts : PartsAt a x y p q)
    (also : PartsAt b s t p q) : a = b ∧ x = s ∧ y = t := by
  obtain ⟨⟨p, rfl⟩, ⟨q, rfl⟩, ne⟩ := parts
  obtain ⟨left, right, also⟩ := also
  -- Where one lead has ended and the other has not, the segments could not differ.
  induction a generalizing b with
  | nil =>
      cases b with
      | nil => simp_all
      | cons k b =>
          simp only [List.nil_append, List.cons_append, List.cons_prefix_cons] at left right
          exact absurd (left.1.symm.trans right.1) ne
  | cons k a ih =>
      cases b with
      | nil =>
          simp only [List.nil_append, List.cons_append, List.cons_prefix_cons] at left right
          exact absurd (left.1.trans right.1.symm) also
      | cons l b =>
          simp only [List.cons_append, List.cons_prefix_cons] at left right
          obtain ⟨rfl, rfl, rfl⟩ := ih left.2 right.2
          exact ⟨by rw [left.1], rfl, rfl⟩

/-- Places that do not overlap part somewhere. -/
theorem exists_partsAt {p q : List String} (apart : ¬Overlap p q) :
    ∃ a x y, PartsAt a x y p q := by
  induction p generalizing q with
  | nil => exact absurd overlap_nil_left apart
  | cons s p ih =>
      cases q with
      | nil => exact absurd overlap_nil_right apart
      | cons t q =>
          by_cases same : s = t
          · subst same
            obtain ⟨a, x, y, parts⟩ := ih fun overlap => apart (overlap_cons_iff.mpr overlap)
            exact ⟨s :: a, x, y, parts.cons s⟩
          · exact ⟨[], s, t, partsAt_nil same⟩

end Path

namespace Value

/-! ### What is present -/

/-- The value that the segments lead to, if it is there and not null. -/
def seen? (v : Value) (segments : List String) : Option Value :=
  (v.get? segments).filter fun x => !x.isNull

variable {v w x : Value} {s t : String} {segments p q a : List String}

theorem seen?_cons : v.seen? (s :: segments) = (v.child? s).bind fun c => c.seen? segments := by
  rw [seen?, get?]
  cases v.child? s <;> rfl

theorem seen?_null : null.seen? segments = none := by
  cases segments <;> rfl

/-- Nothing is found further down in what is entered but was no container. -/
theorem seen?_enter (deep : segments ≠ []) :
    (v.enter s).seen? segments = v.seen? (s :: segments) := by
  cases segments with
  | nil => exact absurd rfl deep
  | cons t rest =>
      rw [@seen?_cons v, enter]
      cases v.child? s with
      | none => rfl
      | some c => cases c <;> rfl

/-- A list that stands further down in what is entered stands there before. -/
theorem get?_of_get?_enter {items : List Value} (held : (v.enter s).get? a = some (list items)) :
    v.get? (s :: a) = some (list items) := by
  rw [get?]
  rw [enter] at held
  cases present : v.child? s with
  | none =>
      rw [present] at held
      cases a <;> cases held
  | some c =>
      rw [present] at held
      dsimp only at held
      split at held
      · exact held
      · cases a <;> cases held

/-! ### One step -/

/-- **A container tells two segments apart**, unless it is a list that the first one does not enter
by an index, or that both enter by the same one. -/
def Separates : Value → String → String → Prop
  | list _, x, y => ∃ i, Path.index? x = some i ∧ Path.index? y ≠ some i
  | _, _, _ => True

/-- A write one step down leaves what stands beside it, or adds a null. -/
theorem child?_put_of_ne (fits : v.Fits s) (ne : s ≠ t) (separates : v.Separates s t)
    (x : Value) :
    (v.put s x).child? t = v.child? t ∨
      v.child? t = none ∧ (v.put s x).child? t = some null := by
  cases v with
  | obj ms => exact .inl (Table.get?_put_of_ne ne.symm x ms)
  | list items =>
      obtain ⟨i, index, other⟩ := separates
      simp only [put, child?, index]
      have filled := pad_eq_append_of_lt_length (fits i index)
      cases found : Path.index? t with
      | none => exact .inl rfl
      | some j =>
          have ne : i ≠ j := fun same => other (same ▸ found)
          simp only [Option.bind_some, List.getElem?_set_ne ne, filled]
          rcases Nat.lt_or_ge j items.length with inside | outside
          · exact .inl (List.getElem?_append_left inside)
          · rw [List.getElem?_append_right outside, List.getElem?_replicate,
              List.getElem?_eq_none outside]
            split
            · exact .inr ⟨rfl, rfl⟩
            · exact .inl rfl
  | _ => simp [put, child?, Table.get?, ne]

/-- What is present beside a write one step down stays, and nothing becomes present. -/
theorem seen?_put_of_ne (fits : v.Fits s) (ne : s ≠ t) (separates : v.Separates s t)
    (x : Value) : (v.put s x).seen? (t :: segments) = v.seen? (t :: segments) := by
  rw [seen?_cons, seen?_cons]
  rcases child?_put_of_ne fits ne separates x with same | ⟨absent, filled⟩
  · rw [same]
  · rw [absent, filled]
    exact seen?_null

/-! ### A way -/

/-- **What is present in a place that parts from a write** stays as it was, if what stands where
they part tells them apart, and nothing overruns on the way of the write. -/
theorem seen?_set_of_partsAt (parts : Path.PartsAt a s t p q)
    (short : ∀ u ∈ v.sites p, ¬ u.Overruns)
    (separates : ∀ c, v.get? a = some c → c.Separates s t) (x : Value) :
    (v.set p x).seen? q = v.seen? q := by
  obtain ⟨⟨p, rfl⟩, ⟨q, rfl⟩, ne⟩ := parts
  rw [List.append_assoc, List.singleton_append] at short ⊢
  rw [List.append_assoc, List.singleton_append]
  induction a generalizing v with
  | nil =>
      have fits := fits_of_forall fun u reached => short u (mem_sites_cons.mpr (.inl reached))
      rw [List.nil_append, List.nil_append, set_cons]
      exact seen?_put_of_ne fits ne (separates v rfl) _
  | cons k a ih =>
      have fits := fits_of_forall fun u reached => short u (mem_sites_cons.mpr (.inl reached))
      have below := fun u member => short u (mem_sites_cons.mpr (.inr member))
      have deep : a ++ t :: q ≠ [] := by simp
      rw [List.cons_append, List.cons_append, set_cons, seen?_cons, child?_put_of_fits fits,
        Option.bind_some, ih ?_ below, seen?_enter deep]
      intro c held
      cases c with
      | list items => exact separates _ (get?_of_get?_enter held)
      | _ => trivial

/-- **A write is local.**  If neither of two places lies in the other, then writing at the one
leaves what is present at the other as it was, and makes nothing present there, as long as what
stands where the places part tells them apart: it is no list, or one that is entered by an index,
and not by the same index from both.  There is a document in which to read exactly if the write does
not reach for the greatest word as an index that a list does not have. -/
theorem present?_tryWrite_of_apart {d : Value} {path other : String}
    (apart : ¬Path.Overlap (Path.segments path) (Path.segments other))
    (separates : ∀ a s t, Path.PartsAt a s t (Path.segments path) (Path.segments other) →
      ∀ c, d.get? a = some c → c.Separates s t) (x : Value) :
    ((∃ d', d.tryWrite path x = .ok d') ↔ ∀ u ∈ d.sites (Path.segments path), ¬ u.Overruns) ∧
      ∀ d', d.tryWrite path x = .ok d' → d'.present? other = d.present? other := by
  constructor
  · simp only [tryWrite_eq_ok_iff, exists_and_right, exists_eq, true_and]
  · intro d' written
    obtain ⟨rfl, short⟩ := tryWrite_eq_ok_iff.mp written
    obtain ⟨a, s, t, parts⟩ := Path.exists_partsAt apart
    exact seen?_set_of_partsAt parts short (separates a s t parts) x

/-- A fourth driver is written, with nulls for the two that are missing before it; the first one
stays as it was. -/
theorem first_driver_stays :
    let d := Value.obj [("drivers", .list [.obj [("name", .str "Ann")]]), ("state", .str "CA")]
    let fourth := ["drivers", "+3", "name"]
    let first := ["drivers", "0", "name"]
    Path.segments "$.drivers[+3].name" = fourth ∧ Path.segments "drivers[0]['name']" = first ∧
      ¬Path.Overlap fourth first ∧
      (∀ a s t, Path.PartsAt a s t fourth first → ∀ c, d.get? a = some c → c.Separates s t) ∧
      ∃ d', d.tryWrite "$.drivers[+3].name" (.str "Bo") = .ok d' ∧
        d'.present? "drivers[0]['name']" = d.present? "drivers[0]['name']" ∧
        d.present? "drivers[0]['name']" = some (.str "Ann") := by
  intro d fourth first
  have segmentsFourth : Path.segments "$.drivers[+3].name" = fourth := by decide +kernel
  have segmentsFirst : Path.segments "drivers[0]['name']" = first := by decide +kernel
  have apart : ¬Path.Overlap fourth first := by simp [Path.Overlap, fourth, first]
  have separates : ∀ a s t, Path.PartsAt a s t fourth first →
      ∀ c, d.get? a = some c → c.Separates s t := by
    intro a s t parts c held
    have behind : Path.PartsAt ["drivers"] "+3" "0" fourth first :=
      (Path.partsAt_nil (by decide)).cons "drivers"
    obtain ⟨rfl, rfl, rfl⟩ := parts.unique behind
    cases held
    exact ⟨3, by decide, by decide⟩
  obtain ⟨given, kept⟩ := @present?_tryWrite_of_apart d "$.drivers[+3].name" "drivers[0]['name']"
    (by rwa [segmentsFourth, segmentsFirst]) (by rwa [segmentsFourth, segmentsFirst]) (.str "Bo")
  obtain ⟨d', written⟩ := given.mpr (by decide +kernel)
  exact ⟨segmentsFourth, segmentsFirst, apart, separates, d', written, kept d' written,
    by decide +kernel⟩

/-- Beside the greatest word as an index that a list of rates does not have, its first rate is not
kept: there is no document in which it could be read. -/
theorem first_rate_not_kept :
    let d := Value.obj [("rates", .list [.bool true])]
    let greatest := ["rates", "18446744073709551615"]
    let first := ["rates", "0"]
    Path.segments "rates[18446744073709551615]" = greatest ∧ Path.segments "rates[0]" = first ∧
      ¬Path.Overlap greatest first ∧
      (∀ a s t, Path.PartsAt a s t greatest first → ∀ c, d.get? a = some c → c.Separates s t) ∧
      d.present? "rates[0]" = some (.bool true) ∧
      d.tryWrite "rates[18446744073709551615]" .null = .error ⟨18446744073709551615, 0⟩ := by
  intro d greatest first
  have separates : ∀ a s t, Path.PartsAt a s t greatest first →
      ∀ c, d.get? a = some c → c.Separates s t := by
    intro a s t parts c held
    have behind : Path.PartsAt ["rates"] "18446744073709551615" "0" greatest first :=
      (Path.partsAt_nil (by decide)).cons "rates"
    obtain ⟨rfl, rfl, rfl⟩ := parts.unique behind
    cases held
    exact ⟨18446744073709551615, by decide +kernel, by decide +kernel⟩
  have long : ∃ t ∈ d.sites (Path.segments "rates[18446744073709551615]"), t.Overruns := by
    decide +kernel
  exact ⟨by decide +kernel, by decide +kernel, by simp [Path.Overlap, greatest, first], separates,
    by decide +kernel, trySet_of_exists long⟩

end Value

end Interchange
