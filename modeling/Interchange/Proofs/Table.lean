import Interchange.Table
/-!
# Tables as finite maps

A sorted table is determined by what is read from it, and writing and erasing keep it sorted.  So a
statement about reads is a statement about tables.

* `Table.Sorted.put`, `Table.Sorted.erase` — sorted tables stay sorted.
* `Table.put_of_gt` — a pair whose key stands behind all others is put at the end.
* `Table.sorted_ofList`, `Table.Sorted.ofList` — tables that are made of pairs.
* `Table.Sorted.ext` — two sorted tables with the same reads are the same.
* `Table.Sorted.put_comm` — writes under different keys may be exchanged.
-/

namespace Interchange.Table

variable {α : Type} {key other : String} {value : α} {t : List (String × α)}

instance (t : List (String × α)) : Decidable (Sorted t) :=
  inferInstanceAs (Decidable (t.Pairwise fun a b => a.1 < b.1))

/-- A table is sorted if its keys are. -/
theorem sorted_iff_keys : Sorted t ↔ (t.map Prod.fst).Pairwise fun k l => k < l :=
  List.pairwise_map.symm

/-- What is found under a key stands there. -/
theorem mem_of_get? (found : get? key t = some value) : (key, value) ∈ t := by
  induction t with
  | nil => simp [get?] at found
  | cons p t ih =>
      obtain ⟨k, v⟩ := p
      by_cases here : k = key
      · subst here
        rw [get?, if_pos rfl, Option.some.injEq] at found
        simp [found]
      · rw [get?, if_neg here] at found
        exact List.mem_cons_of_mem _ (ih found)

/-- A table has a key exactly if something is read under it. -/
theorem mem_keys_iff : key ∈ t.map Prod.fst ↔ (get? key t).isSome = true := by
  induction t with
  | nil => simp [get?]
  | cons p t ih =>
      obtain ⟨k, v⟩ := p
      rw [List.map_cons, List.mem_cons, ih, get?]
      by_cases here : k = key
      · simp [here]
      · simp [here, Ne.symm here]

/-- What stands before all keys of a table is not in it. -/
theorem get?_eq_none_of_lt (below : ∀ p ∈ t, key < p.1) : get? key t = none := by
  cases found : get? key t with
  | none => rfl
  | some v => exact absurd (below _ (mem_of_get? found)) (String.lt_irrefl _)

/-! ### Sorted tables stay sorted -/

theorem Sorted.tail {p : String × α} (sorted : Sorted (p :: t)) : Sorted t :=
  (List.pairwise_cons.mp sorted).2

theorem Sorted.head_lt {p : String × α} (sorted : Sorted (p :: t)) : ∀ q ∈ t, p.1 < q.1 :=
  (List.pairwise_cons.mp sorted).1

theorem Sorted.get?_tail {p : String × α} (sorted : Sorted (p :: t)) : get? p.1 t = none :=
  get?_eq_none_of_lt sorted.head_lt

/-- What stands before the first key of a sorted table is not in it. -/
theorem Sorted.get?_of_lt_head {p : String × α} (sorted : Sorted (p :: t)) (lt : key < p.1) :
    get? key (p :: t) = none := by
  refine get?_eq_none_of_lt fun q member => ?_
  rcases List.mem_cons.mp member with rfl | inside
  · exact lt
  · exact String.lt_trans lt (sorted.head_lt q inside)

/-- Overwriting changes no keys, -/
theorem key_of_mem_overwrite {p : String × α} (member : p ∈ overwrite key value t) :
    ∃ q ∈ t, q.1 = p.1 := by
  induction t with
  | nil => simp [overwrite] at member
  | cons q t ih =>
      obtain ⟨k, v⟩ := q
      rw [overwrite] at member
      split at member
      · next same =>
          rcases List.mem_cons.mp member with rfl | inside
          · exact ⟨(k, v), by simp, same⟩
          · exact ⟨p, by simp [inside], rfl⟩
      · rcases List.mem_cons.mp member with rfl | inside
        · exact ⟨(k, v), by simp, rfl⟩
        · obtain ⟨q, present, same⟩ := ih inside
          exact ⟨q, by simp [present], same⟩

/-- and so keeps a table sorted. -/
theorem Sorted.overwrite (sorted : Sorted t) : Sorted (overwrite key value t) := by
  induction t with
  | nil => exact sorted
  | cons p t ih =>
      obtain ⟨k, v⟩ := p
      rw [Table.overwrite]
      split
      · next same => exact List.pairwise_cons.mpr ⟨same ▸ sorted.head_lt, sorted.tail⟩
      · refine List.pairwise_cons.mpr ⟨fun p member => ?_, ih sorted.tail⟩
        obtain ⟨q, present, same⟩ := key_of_mem_overwrite member
        exact same ▸ sorted.head_lt q present

/-- Placing adds one entry and keeps the others. -/
theorem mem_place {p : String × α} : p ∈ place key value t ↔ p = (key, value) ∨ p ∈ t := by
  induction t with
  | nil => simp [place]
  | cons q t ih =>
      rw [place]
      split
      · simp
      · rw [List.mem_cons, ih, List.mem_cons]
        exact or_left_comm

/-- A new key is placed where it belongs. -/
theorem Sorted.place (sorted : Sorted t) (absent : get? key t = none) :
    Sorted (place key value t) := by
  induction t with
  | nil => exact List.pairwise_singleton _ _
  | cons p t ih =>
      obtain ⟨k, v⟩ := p
      have other : k ≠ key := by
        intro same
        rw [get?, if_pos same] at absent
        cases absent
      rw [get?, if_neg other] at absent
      rw [Table.place]
      split
      · next before =>
          refine List.pairwise_cons.mpr ⟨fun q member => ?_, sorted⟩
          rcases List.mem_cons.mp member with rfl | inside
          · exact before
          · exact String.lt_trans before (sorted.head_lt q inside)
      · next notBefore =>
          refine List.pairwise_cons.mpr ⟨fun q member => ?_, ih sorted.tail absent⟩
          rcases mem_place.mp member with rfl | inside
          · have le : k ≤ key := String.not_lt.mp notBefore
            exact String.not_le.mp fun ge => other (String.le_antisymm le ge)
          · exact sorted.head_lt q inside

/-- **Writing keeps a table sorted.** -/
theorem Sorted.put (sorted : Sorted t) (key : String) (value : α) : Sorted (put key value t) := by
  unfold Table.put
  split
  · exact sorted.overwrite
  · next absent => exact sorted.place (by simpa using absent)

/-- What stands in a table that was overwritten is the new entry, or stood there before. -/
theorem mem_overwrite {p : String × α} (member : p ∈ overwrite key value t) :
    p = (key, value) ∨ p ∈ t := by
  induction t with
  | nil => exact .inr member
  | cons q t ih =>
      rw [overwrite] at member
      split at member
      · rcases List.mem_cons.mp member with rfl | inside
        · exact .inl rfl
        · exact .inr (List.mem_cons_of_mem _ inside)
      · rcases List.mem_cons.mp member with rfl | inside
        · exact .inr List.mem_cons_self
        · exact (ih inside).imp_right (List.mem_cons_of_mem _)

/-- A write adds no pair but its own. -/
theorem mem_put {p : String × α} (member : p ∈ put key value t) : p = (key, value) ∨ p ∈ t := by
  unfold put at member
  split at member
  · exact mem_overwrite member
  · exact mem_place.mp member

/-- A table that was written to is not empty. -/
theorem put_ne_nil : put key value t ≠ [] := by
  intro empty
  have written := get?_put_self key value t
  rw [empty] at written
  cases written

/-- Writing what is there changes nothing. -/
theorem put_of_get? (present : get? key t = some value) : put key value t = t := by
  rw [put, present, Option.isSome_some, if_pos rfl]
  induction t with
  | nil => rfl
  | cons p t ih =>
      obtain ⟨k, v⟩ := p
      by_cases here : k = key
      · subst here
        rw [get?, if_pos rfl, Option.some.injEq] at present
        rw [overwrite, if_pos rfl, present]
      · rw [get?, if_neg here] at present
        rw [overwrite, if_neg here, ih present]

/-- The second value replaces the first, -/
theorem overwrite_overwrite (new : α) :
    overwrite key new (overwrite key value t) = overwrite key new t := by
  induction t with
  | nil => rfl
  | cons p t ih =>
      obtain ⟨k, v⟩ := p
      by_cases here : k = key
      · rw [overwrite, if_pos here, overwrite, if_pos rfl, overwrite, if_pos here]
      · rw [overwrite, if_neg here, overwrite, if_neg here, overwrite, if_neg here, ih]

/-- also if that had been placed anew. -/
theorem overwrite_place (absent : get? key t = none) (new : α) :
    overwrite key new (place key value t) = place key new t := by
  induction t with
  | nil => rw [place, overwrite, if_pos rfl, place]
  | cons p t ih =>
      obtain ⟨k, v⟩ := p
      have other : k ≠ key := by
        rintro rfl
        rw [get?, if_pos rfl] at absent
        cases absent
      rw [get?, if_neg other] at absent
      by_cases before : key < k
      · rw [place, if_pos before, overwrite, if_pos rfl, place, if_pos before]
      · rw [place, if_neg before, overwrite, if_neg other, place, if_neg before, ih absent]

/-- The last of two writes under a key stands. -/
theorem put_put (new : α) : put key new (put key value t) = put key new t := by
  rw [put, get?_put_self, Option.isSome_some, if_pos rfl, put]
  cases found : get? key t with
  | some v => rw [put, found, Option.isSome_some, if_pos rfl, if_pos rfl, overwrite_overwrite]
  | none => rw [put, found, Option.isSome_none, if_neg Bool.false_ne_true,
      if_neg Bool.false_ne_true, overwrite_place found]

theorem erase_sublist : (erase key t).Sublist t := by
  induction t with
  | nil => exact List.Sublist.refl _
  | cons p t ih =>
      obtain ⟨k, v⟩ := p
      rw [erase]
      split
      · exact List.sublist_cons_self _ _
      · exact ih.cons_cons _

/-- **Erasing keeps a table sorted.** -/
theorem Sorted.erase (sorted : Sorted t) (key : String) : Sorted (erase key t) :=
  List.Pairwise.sublist erase_sublist sorted

/-! ### Reads -/

theorem Sorted.get?_erase_self (sorted : Sorted t) : get? key (Table.erase key t) = none := by
  induction t with
  | nil => rfl
  | cons p t ih =>
      obtain ⟨k, v⟩ := p
      by_cases here : k = key
      · subst here
        rw [Table.erase, if_pos rfl]
        exact sorted.get?_tail
      · rw [Table.erase, if_neg here, get?, if_neg here]
        exact ih sorted.tail

/-- Other keys are left by erasing. -/
theorem get?_erase_of_ne (ne : other ≠ key) : get? other (erase key t) = get? other t := by
  induction t with
  | nil => rfl
  | cons p t ih =>
      obtain ⟨k, v⟩ := p
      by_cases here : k = key
      · subst here
        rw [erase, if_pos rfl, get?, if_neg ne.symm]
      · rw [erase, if_neg here, get?, get?, ih]

/-- What a sorted table lists under a key is read under it. -/
theorem Sorted.get?_of_mem (sorted : Sorted t) (member : (key, value) ∈ t) :
    get? key t = some value := by
  induction t with
  | nil => cases member
  | cons p t ih =>
      rw [get?]
      rcases List.mem_cons.mp member with rfl | inside
      · rw [if_pos rfl]
      · rw [if_neg (String.ne_of_lt (sorted.head_lt _ inside)), ih sorted.tail inside]

/-! ### Keys behind all others -/

/-- What stands behind all keys of a table is not in it. -/
theorem get?_eq_none_of_gt (above : ∀ p ∈ t, p.1 < key) : get? key t = none := by
  cases found : get? key t with
  | none => rfl
  | some v => exact absurd (above _ (mem_of_get? found)) (String.lt_irrefl _)

theorem get?_append_of_gt (above : ∀ p ∈ t, p.1 < key) :
    get? key (t ++ [(key, value)]) = some value := by
  induction t with
  | nil => simp [get?]
  | cons p t ih =>
      have other : p.1 ≠ key := String.ne_of_lt (above p List.mem_cons_self)
      rw [List.cons_append, get?, if_neg other]
      exact ih fun q member => above q (List.mem_cons_of_mem _ member)

/-- A pair whose key stands behind all others is put at the end. -/
theorem put_of_gt (above : ∀ p ∈ t, p.1 < key) : put key value t = t ++ [(key, value)] := by
  rw [put, get?_eq_none_of_gt above, if_neg (by simp)]
  induction t with
  | nil => rfl
  | cons p t ih =>
      have before : ¬ key < p.1 := String.lt_asymm (above p List.mem_cons_self)
      rw [place, if_neg before, ih fun q member => above q (List.mem_cons_of_mem _ member)]
      rfl

/-- The last pair is replaced in its place. -/
theorem put_append_of_gt (above : ∀ p ∈ t, p.1 < key) (new : α) :
    put key new (t ++ [(key, value)]) = t ++ [(key, new)] := by
  rw [put, get?_append_of_gt above, Option.isSome_some, if_pos rfl]
  induction t with
  | nil => simp [overwrite]
  | cons p t ih =>
      have other : p.1 ≠ key := String.ne_of_lt (above p List.mem_cons_self)
      rw [List.cons_append, overwrite, if_neg other,
        ih fun q member => above q (List.mem_cons_of_mem _ member)]
      rfl

/-! ### Tables made of pairs -/

theorem foldl_put_append (done : List (String × α)) (sorted : Sorted (done ++ t)) :
    t.foldl (fun s p => Table.put p.1 p.2 s) done = done ++ t := by
  induction t generalizing done with
  | nil => rw [List.foldl_nil, List.append_nil]
  | cons p t ih =>
      have above : ∀ q ∈ done, q.1 < p.1 := fun q member =>
        (List.pairwise_append.mp sorted).2.2 q member p List.mem_cons_self
      rw [List.foldl_cons, put_of_gt above,
        ih _ (by rwa [List.append_assoc, List.singleton_append]), List.append_assoc,
        List.singleton_append]

/-- A sorted table is made of its own pairs. -/
theorem Sorted.ofList (sorted : Sorted t) : Table.ofList t = t :=
  foldl_put_append [] sorted

/-- What was written stands in the table, or stood there before. -/
theorem mem_foldl_put {p : String × α} {pairs : List (String × α)}
    (member : p ∈ pairs.foldl (fun s p => put p.1 p.2 s) t) : p ∈ t ∨ p ∈ pairs := by
  induction pairs generalizing t with
  | nil => exact .inl member
  | cons q pairs ih =>
      rcases ih member with inside | later
      · rcases mem_put inside with rfl | before
        · exact .inr List.mem_cons_self
        · exact .inl before
      · exact .inr (List.mem_cons_of_mem _ later)

/-- A table that is made of pairs holds none but these. -/
theorem mem_of_mem_ofList {p : String × α} {pairs : List (String × α)}
    (member : p ∈ ofList pairs) : p ∈ pairs :=
  (mem_foldl_put member).resolve_left List.not_mem_nil

theorem Sorted.foldl_put_pairs (sorted : Sorted t) (pairs : List (String × α)) :
    Sorted (pairs.foldl (fun s p => Table.put p.1 p.2 s) t) := by
  induction pairs generalizing t with
  | nil => exact sorted
  | cons p pairs ih => exact ih (sorted.put p.1 p.2)

/-- A table that is made of pairs is sorted. -/
theorem sorted_ofList (pairs : List (String × α)) : Sorted (ofList pairs) :=
  Sorted.foldl_put_pairs List.Pairwise.nil pairs

/-! ### Extensionality -/

/-- **A sorted table is what is read from it.** -/
theorem Sorted.ext : ∀ {s t : List (String × α)}, Sorted s → Sorted t →
    (∀ key, get? key s = get? key t) → s = t := by
  intro s
  induction s with
  | nil =>
      intro t _ _ same
      cases t with
      | nil => rfl
      | cons q t => simpa [get?] using same q.1
  | cons p s ih =>
      obtain ⟨k, v⟩ := p
      intro t sortedS sortedT same
      cases t with
      | nil => simpa [get?] using same k
      | cons q t =>
          obtain ⟨l, w⟩ := q
          have keys : k = l := by
            -- The lesser of two different first keys would be read from one table only.
            refine String.le_antisymm (String.not_lt.mp fun lt => ?_)
              (String.not_lt.mp fun lt => ?_)
            · have absent := sortedS.get?_of_lt_head lt
              rw [same l, get?, if_pos rfl] at absent
              cases absent
            · have absent := sortedT.get?_of_lt_head lt
              rw [← same k, get?, if_pos rfl] at absent
              cases absent
          subst keys
          have values : v = w := by
            simpa [get?] using same k
          subst values
          rw [ih sortedS.tail sortedT.tail fun key => ?_]
          by_cases here : k = key
          · subst here
            rw [sortedS.get?_tail, sortedT.get?_tail]
          · simpa [get?, here] using same key

/-- Writes under different keys may be exchanged. -/
theorem Sorted.put_comm (sorted : Sorted t) (ne : key ≠ other) (value new : α) :
    Table.put other new (Table.put key value t) = Table.put key value (Table.put other new t) := by
  refine ((sorted.put key value).put other new).ext ((sorted.put other new).put key value)
    fun k => ?_
  by_cases first : k = key
  · subst first
    rw [get?_put_of_ne ne, get?_put_self, get?_put_self]
  · rw [get?_put_of_ne first]
    by_cases second : k = other
    · subst second
      rw [get?_put_self, get?_put_self]
    · rw [get?_put_of_ne second, get?_put_of_ne second, get?_put_of_ne first]

/-- A pair that was taken out is put back by writing it. -/
theorem Sorted.put_erase (sorted : Sorted t) (present : get? key t = some value) :
    Table.put key value (Table.erase key t) = t := by
  refine ((sorted.erase key).put key value).ext sorted fun k => ?_
  by_cases here : k = key
  · rw [here, get?_put_self, present]
  · rw [get?_put_of_ne here, get?_erase_of_ne here]

end Interchange.Table
