import Interchange.Proofs.Path.Lens
/-!
# Writes stay inside of their lists

A write at an index fills the list up, so that there is an item to be written.  The length it is
filled up to is one more than the index, as a 64-bit word: exact for every index but the greatest
word.  For that one the length wraps around to zero, nothing is left of the list, and the access
lies outside of it.  So a write gives a document unless it comes, at any depth, to a list by the
greatest word as an index that the list does not have.  What memory the list would take is not told
here.

* `Value.Site.Overruns` — an item that a write cannot reach.
* `Value.Site.lengthExact_iff`, `Value.Site.inside_iff` — one list.
* `Value.trySet_of_forall`, `Value.trySet_of_exists` — a way; `Value.HasRoomAlong.trySet_eq` for the
  ways of the laws on reading and writing.
* `Value.exists_overruns` — a document in which a way overruns.
* `Value.WritesInBounds`, `Value.writesInBounds_iff` — what is promised of a path, and when it is
  kept.
-/

namespace Interchange

open Numeral (wordBound)

/-- An index that is read from a text is a word. -/
theorem Path.lt_wordBound_of_index? {segment : String} {i : Nat}
    (index : Path.index? segment = some i) : i < wordBound := by
  simp only [Path.index?, Numeral.natural?, Option.ite_none_right_eq_some, Option.some.injEq]
    at index
  obtain ⟨-, word, rfl⟩ := index
  exact word

namespace Value

/-! ### The item that is reached for -/

namespace Site

variable {t : Site}

/-- Whether the index is the greatest word, and the list has no such item. -/
def Overruns (t : Site) : Prop := t.items.length ≤ t.index ∧ t.index + 1 = wordBound

/-- Whether the length that a list without the item is filled up to ends with the index. -/
def LengthExact (t : Site) : Prop := t.items.length ≤ t.index → lengthFor t.index = t.index + 1

/-- Whether the item is one of the list, as that was filled up. -/
def Inside (t : Site) : Prop := t.index < (pad t.items t.index).length

instance (t : Site) : Decidable t.Overruns := inferInstanceAs (Decidable (_ ∧ _))

instance (t : Site) : Decidable t.LengthExact := inferInstanceAs (Decidable (_ → _))

instance (t : Site) : Decidable t.Inside := inferInstanceAs (Decidable (_ < _))

/-- An item that cannot be reached has the greatest word for its index. -/
theorem Overruns.index_eq (overruns : t.Overruns) : t.index = wordBound - 1 :=
  Nat.eq_sub_of_add_eq overruns.2

/-- The length that would cover the greatest word wraps around. -/
theorem Overruns.lengthFor_eq (overruns : t.Overruns) : lengthFor t.index = 0 := by
  rw [overruns.index_eq]
  rfl

/-- Nothing is left of a list that is filled up for the greatest word. -/
theorem Overruns.pad_eq (overruns : t.Overruns) : pad t.items t.index = [] := by
  rw [pad, if_neg (Nat.not_lt.mpr overruns.1), resize, overruns.lengthFor_eq, List.take_zero,
    Nat.zero_sub, List.replicate_zero, List.append_nil]

/-- Of a word that does not overrun, the list has the item, or a length covers it. -/
theorem inside_or_covered (word : t.index < wordBound) (short : ¬ t.Overruns) :
    t.index < t.items.length ∨ t.index + 1 < wordBound := by
  rw [Overruns, not_and'] at short
  by_cases greatest : t.index + 1 = wordBound
  · exact .inl (Nat.lt_of_not_le (short greatest))
  · exact .inr (Nat.lt_of_le_of_ne word greatest)

theorem lengthExact_iff (word : t.index < wordBound) : t.LengthExact ↔ ¬ t.Overruns := by
  constructor
  · intro exactly overruns
    have wrapped := exactly overruns.1
    rw [overruns.lengthFor_eq] at wrapped
    exact Nat.succ_ne_zero _ wrapped.symm
  · intro short missing
    obtain inside | covered := inside_or_covered word short
    · exact absurd inside (Nat.not_lt.mpr missing)
    · exact lengthFor_of_lt covered

theorem inside_iff (word : t.index < wordBound) : t.Inside ↔ ¬ t.Overruns := by
  constructor
  · intro inside overruns
    rw [Inside, overruns.pad_eq] at inside
    exact Nat.not_lt_zero _ inside
  · intro short
    obtain inside | covered := inside_or_covered word short
    · rwa [Inside, pad_of_lt inside]
    · exact lt_length_pad covered t.items

/-- An item inside of the list can be accessed. -/
theorem access_eq_ok (inside : t.Inside) : t.access = .ok () := if_pos inside

/-- One that a write cannot reach is asked for in a list of which nothing is left. -/
theorem Overruns.access_eq (overruns : t.Overruns) : t.access = .error ⟨wordBound - 1, 0⟩ := by
  have outside : ¬ t.index < (pad t.items t.index).length := by
    rw [overruns.pad_eq]
    exact Nat.not_lt_zero _
  rw [access, if_neg outside, overruns.pad_eq, overruns.index_eq, List.length_nil]

end Site

variable {v x : Value} {s : String} {segments : List String} {t : Site}

/-- Items are reached for in lists, and by an index. -/
theorem site?_eq_some_iff :
    v.site? s = some t ↔ v = list t.items ∧ Path.index? s = some t.index := by
  cases v with
  | list items =>
      rw [site?, Option.map_eq_some_iff]
      constructor
      · rintro ⟨i, index, rfl⟩
        exact ⟨rfl, index⟩
      · rintro ⟨same, index⟩
        cases same
        exact ⟨t.index, index, rfl⟩
  | _ => simp [site?]

/-- Segments are read as indices only below the bound of words. -/
theorem lt_wordBound_of_site? (reached : v.site? s = some t) : t.index < wordBound :=
  Path.lt_wordBound_of_index? (site?_eq_some_iff.mp reached).2

/-- Nothing that there is room for overruns. -/
theorem HasRoom.not_overruns (room : v.HasRoom s) (reached : v.site? s = some t) :
    ¬ t.Overruns := by
  obtain ⟨rfl, index⟩ := site?_eq_some_iff.mp reached
  exact fun overruns => Nat.ne_of_lt (room t.index index) overruns.2

/-- A list is long enough for a segment by which nothing overruns. -/
theorem fits_of_forall (short : ∀ t, v.site? s = some t → ¬ t.Overruns) : v.Fits s := by
  cases v with
  | list items =>
      intro i index
      have inside := (Site.inside_iff (t := ⟨items, i⟩) (Path.lt_wordBound_of_index? index)).mpr
      exact inside (short _ (site?_eq_some_iff.mpr ⟨rfl, index⟩))
  | _ => trivial

/-- A list that is not overrun lets the write pass, -/
theorem reach_of_forall (short : ∀ t, v.site? s = some t → ¬ t.Overruns) :
    v.reach s = .ok () := by
  rw [reach]
  split
  · next t reached =>
      have word := lt_wordBound_of_site? reached
      exact Site.access_eq_ok ((Site.inside_iff word).mpr (short t reached))
  · rfl

/-- and one that is stops it. -/
theorem reach_of_overruns (reached : v.site? s = some t) (overruns : t.Overruns) :
    v.reach s = .error ⟨wordBound - 1, 0⟩ := by
  rw [reach, reached]
  exact overruns.access_eq

/-! ### A way -/

/-- The items that a write reaches for on its way, from the outermost list inwards. -/
def sites (v : Value) : List String → List Site
  | [] => []
  | s :: rest => (v.site? s).toList ++ (v.enter s).sites rest

/-- The items that a way reaches for: the first one, if the way begins at a list, and those of the
rest. -/
theorem mem_sites_cons {rest : List String} :
    t ∈ v.sites (s :: rest) ↔ v.site? s = some t ∨ t ∈ (v.enter s).sites rest := by
  rw [sites, List.mem_append, Option.mem_toList]

/-- So all items on a way have indices below the bound of words. -/
theorem lt_wordBound_of_mem_sites (member : t ∈ v.sites segments) : t.index < wordBound := by
  induction segments generalizing v with
  | nil => cases member
  | cons s rest ih =>
      obtain here | below := mem_sites_cons.mp member
      · exact lt_wordBound_of_site? here
      · exact ih below

/-- A checked write that passes the first segment goes on in the container that it enters, -/
theorem trySet_cons_of_reach {rest : List String} (reached : v.reach s = .ok ()) :
    v.trySet (s :: rest) x = ((v.enter s).trySet rest x).map (v.put s) := by
  rw [trySet, reached]
  rfl

/-- and comes to the unchecked one if the rest does. -/
theorem trySet_cons_eq_ok {rest : List String} (reached : v.reach s = .ok ())
    (below : (v.enter s).trySet rest x = .ok ((v.enter s).set rest x)) :
    v.trySet (s :: rest) x = .ok (v.set (s :: rest) x) := by
  rw [trySet_cons_of_reach reached, below, set_cons]
  rfl

/-- **A write of which nothing overruns** gives its document. -/
theorem trySet_of_forall (short : ∀ t ∈ v.sites segments, ¬ t.Overruns) :
    v.trySet segments x = .ok (v.set segments x) := by
  induction segments generalizing v with
  | nil => rfl
  | cons s rest ih =>
      have here := reach_of_forall fun t reached => short t (mem_sites_cons.mpr (.inl reached))
      have below := ih fun t member => short t (mem_sites_cons.mpr (.inr member))
      exact trySet_cons_eq_ok here below

/-- **A write of which anything overruns** fails at the outermost such list. -/
theorem trySet_of_exists (long : ∃ t ∈ v.sites segments, t.Overruns) :
    v.trySet segments x = .error ⟨wordBound - 1, 0⟩ := by
  induction segments generalizing v with
  | nil =>
      obtain ⟨t, member, -⟩ := long
      cases member
  | cons s rest ih =>
      -- An access that fails here is the one told of, whatever overruns further down.
      by_cases here : ∃ t, v.site? s = some t ∧ t.Overruns
      · obtain ⟨t, reached, overruns⟩ := here
        rw [trySet, reach_of_overruns reached overruns]
        rfl
      · have short : ∀ t, v.site? s = some t → ¬ t.Overruns := fun t reached overruns =>
          here ⟨t, reached, overruns⟩
        have below : ∃ t ∈ (v.enter s).sites rest, t.Overruns := by
          obtain ⟨t, member, overruns⟩ := long
          obtain reached | member := mem_sites_cons.mp member
          · exact absurd overruns (short t reached)
          · exact ⟨t, member, overruns⟩
        rw [trySet_cons_of_reach (reach_of_forall short), ih below]
        rfl

/-- On every way with room the write gives its document. -/
theorem HasRoomAlong.trySet_eq (room : v.HasRoomAlong segments) (x : Value) :
    v.trySet segments x = .ok (v.set segments x) := by
  induction room with
  | nil v => rfl
  | cons room _ ih => exact trySet_cons_eq_ok (reach_of_forall fun t => room.not_overruns) ih

/-! ### Ways that overrun in some document -/

/-- What is reached for has a segment of the way as its index. -/
theorem exists_segment_of_mem_sites (member : t ∈ v.sites segments) :
    ∃ s ∈ segments, Path.index? s = some t.index := by
  induction segments generalizing v with
  | nil => cases member
  | cons s rest ih =>
      obtain here | below := mem_sites_cons.mp member
      · exact ⟨s, List.mem_cons_self, (site?_eq_some_iff.mp here).2⟩
      · obtain ⟨s', further, index⟩ := ih below
        exact ⟨s', List.mem_cons_of_mem s further, index⟩

/-- A list that a way leads to is reached into by the index that comes next. -/
theorem mem_sites_of_get? {items : List Value} {i : Nat} {lead rest : List String}
    (held : v.get? lead = some (list items)) (index : Path.index? s = some i) :
    ⟨items, i⟩ ∈ v.sites (lead ++ s :: rest) := by
  induction lead generalizing v with
  | nil =>
      cases held
      exact mem_sites_cons.mpr (.inl (site?_eq_some_iff.mpr ⟨rfl, index⟩))
  | cons k lead ih =>
      obtain ⟨c, present, below⟩ := Option.bind_eq_some_iff.mp held
      have entered := enter_of_child? present (isContainer_of_get?_container below rfl)
      exact mem_sites_cons.mpr (.inr (entered ▸ ih below))

/-- An empty object has room along every way, since no list is met. -/
theorem hasRoomAlong_empty (segments : List String) : empty.HasRoomAlong segments := by
  induction segments with
  | nil => exact .nil _
  | cons s rest ih => exact .cons trivial ih

/-- A document that ends before a place has no list on the way there. -/
theorem StopsShortOf.sites_eq_nil (short : v.StopsShortOf segments) : v.sites segments = [] := by
  induction segments generalizing v with
  | nil => rfl
  | cons s rest ih =>
      obtain ⟨ms, rfl⟩ := short.exists_obj
      rw [sites]
      cases rest with
      | nil => rfl
      | cons t rest => exact ih (short.enter (by simp)).1

/-- A way with the greatest word on it overruns in the document that has an empty list there. -/
theorem exists_overruns (member : s ∈ segments) (greatest : Path.index? s = some (wordBound - 1)) :
    ∃ d : Value, ∃ t ∈ d.sites segments, t.Overruns := by
  obtain ⟨lead, rest, rfl⟩ := List.append_of_mem member
  -- The segments before it lead to the empty list through objects only, where there is always room.
  have held := get?_set_self (hasRoomAlong_empty lead) (list [])
  exact ⟨_, _, mem_sites_of_get? held greatest, Nat.zero_le _, rfl⟩

/-! ### A path -/

/-- A write that stays inside of all lists that it comes to. -/
structure WritesInBounds (d : Value) (path : String) (x : Value) : Prop where
  /-- Every list that is filled up is given the length that ends with its index. -/
  lengths : ∀ t ∈ d.sites (Path.segments path), t.LengthExact
  /-- Every item that is accessed is one of its list, as that was filled up. -/
  accesses : ∀ t ∈ d.sites (Path.segments path), t.Inside
  /-- The write gives a document, and that is the one with the value written. -/
  document : d.tryWrite path x = .ok (d.write path x)

variable {d : Value} {path : String}

/-- A write that reaches no item beyond the last length keeps to all that is promised, -/
theorem writesInBounds_of_forall (short : ∀ t ∈ d.sites (Path.segments path), ¬ t.Overruns)
    (x : Value) : d.WritesInBounds path x where
  lengths t member := (Site.lengthExact_iff (lt_wordBound_of_mem_sites member)).mpr (short t member)
  accesses t member := (Site.inside_iff (lt_wordBound_of_mem_sites member)).mpr (short t member)
  document := trySet_of_forall short

/-- and one that keeps to it has reached none. -/
theorem WritesInBounds.not_overruns (inBounds : d.WritesInBounds path x) :
    ∀ t ∈ d.sites (Path.segments path), ¬ t.Overruns := fun t member =>
  (Site.inside_iff (lt_wordBound_of_mem_sites member)).mp (inBounds.accesses t member)

/-- The access fails, in the same words each time, exactly if such an item is reached. -/
theorem tryWrite_eq_error_iff : d.tryWrite path x = .error ⟨wordBound - 1, 0⟩ ↔
    ∃ t ∈ d.sites (Path.segments path), t.Overruns := by
  refine ⟨fun failed => ?_, trySet_of_exists⟩
  by_cases long : ∃ t ∈ d.sites (Path.segments path), t.Overruns
  · exact long
  · simp only [not_exists, not_and] at long
    rw [tryWrite, trySet_of_forall long] at failed
    cases failed

/-- A write gives no other document than the one with the value written, and that one if nothing
overruns. -/
theorem tryWrite_eq_ok_iff {d' : Value} : d.tryWrite path x = .ok d' ↔
    d' = d.write path x ∧ ∀ t ∈ d.sites (Path.segments path), ¬ t.Overruns := by
  by_cases long : ∃ t ∈ d.sites (Path.segments path), t.Overruns
  · rw [tryWrite_eq_error_iff.mpr long]
    obtain ⟨t, member, overruns⟩ := long
    exact ⟨nofun, fun ⟨_, short⟩ => absurd overruns (short t member)⟩
  · simp only [not_exists, not_and] at long
    rw [tryWrite, trySet_of_forall long, Except.ok.injEq]
    exact ⟨fun same => ⟨same.symm, long⟩, fun ⟨same, _⟩ => same.symm⟩

/-- **Writes stay inside of their lists** in every document and with every value exactly as long as
they come to no list by the greatest word as an index that it does not have.  If they do, nothing is
left of the outermost such list, and the access to its item fails.  So a path is safe in all
documents exactly if no segment of it denotes the greatest word. -/
theorem writesInBounds_iff (path : String) :
    (∀ d x : Value,
      (d.WritesInBounds path x ↔ ∀ t ∈ d.sites (Path.segments path), ¬ t.Overruns) ∧
        (d.tryWrite path x = .error ⟨wordBound - 1, 0⟩ ↔
          ∃ t ∈ d.sites (Path.segments path), t.Overruns)) ∧
      ((∀ d x : Value, d.WritesInBounds path x) ↔
        ∀ s ∈ Path.segments path, Path.index? s ≠ some (wordBound - 1)) := by
  refine ⟨fun d x => ⟨⟨WritesInBounds.not_overruns, fun short => writesInBounds_of_forall short x⟩,
    tryWrite_eq_error_iff⟩, fun always s member greatest => ?_, fun smaller d x => ?_⟩
  · obtain ⟨d, t, reached, overruns⟩ := exists_overruns member greatest
    exact (always d .null).not_overruns t reached overruns
  · refine writesInBounds_of_forall (fun t reached overruns => ?_) x
    obtain ⟨s, member, index⟩ := exists_segment_of_mem_sites reached
    rw [overruns.index_eq] at index
    exact smaller s member index

/-- The greatest word is no index of a list of one rate: the length wraps around, the access lies
outside, and there is no document, whether the item itself is written or a member below it. -/
theorem greatest_rate_overruns :
    let d := Value.obj [("rates", .list [.bool true])]
    ∀ path ∈ ["rates[18446744073709551615]", "rates[18446744073709551615].base"],
      ¬ d.WritesInBounds path .null ∧
        (¬ ∀ t ∈ d.sites (Path.segments path), t.LengthExact) ∧
        (¬ ∀ t ∈ d.sites (Path.segments path), t.Inside) ∧
        d.tryWrite path .null = .error ⟨18446744073709551615, 0⟩ := by
  intro d path member
  have refuted : ∀ path ∈ ["rates[18446744073709551615]", "rates[18446744073709551615].base"],
      (¬ ∀ t ∈ d.sites (Path.segments path), t.LengthExact) ∧
        (¬ ∀ t ∈ d.sites (Path.segments path), t.Inside) ∧
        ∃ t ∈ d.sites (Path.segments path), t.Overruns := by
    decide +kernel
  obtain ⟨lengths, accesses, long⟩ := refuted path member
  exact ⟨fun inBounds => lengths inBounds.lengths, lengths, accesses, trySet_of_exists long⟩

end Value

end Interchange
