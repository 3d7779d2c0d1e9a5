import Interchange.Proofs.Number.ReadBack
import Interchange.Proofs.Path.Removal
import Interchange.Rule.Run
/-!
# Appending to a document

To append, a rule takes the value out of its place and writes the longer list there.  A member that
was taken out of an object is put back under its key.  But the items behind one that is taken out of
a list move up, and the list that is written then stands over the next of them.  The whole document
cannot be taken out, and what is written in its place starts from nothing.

* `AppendsOnly` — the value in its place has grown by an item, and all beside it is as it was.
* `Loses` — the targets at which something is lost.
* `append_only_iff` — at all others, and only there, an action appends and does nothing else.
-/

namespace Interchange

namespace Value

/-- A read before and after a change elsewhere: it is the same, or gives a null where nothing
was. -/
def Kept (before after : Option Value) : Prop :=
  after = before ∨ before = none ∧ after = some null

/-- What is kept is kept with all that is below it. -/
theorem Kept.bind {before after : Option Value} (kept : Kept before after)
    (segments : List String) :
    Kept (before.bind fun c => c.get? segments) (after.bind fun c => c.get? segments) := by
  rcases kept with rfl | ⟨rfl, rfl⟩
  · exact .inl rfl
  · cases segments with
    | nil => exact .inr ⟨rfl, rfl⟩
    | cons s rest => exact .inl rfl

end Value

namespace Action

/-- **What is to stand where a value is appended**: a list of it alone where nothing or null was, a
list with it at the end, and a pair of any other value and it. -/
inductive IsAppended (x : Value) : Option Value → Value → Prop
  | missing : IsAppended x none (.list [x])
  | null : IsAppended x (some .null) (.list [x])
  | list (items : List Value) : IsAppended x (some (.list items)) (.list (items ++ [x]))
  | other {v : Value} (present : v ≠ .null) (single : ∀ items, v ≠ .list items) :
      IsAppended x (some v) (.list [v, x])

/-- **A value is appended at a place, and nothing else is done**: what is read at any other place
that the document tells apart from it is kept. -/
structure AppendsOnly (doc result : Value) (p : List String) (x : Value) : Prop where
  appended : ∃ new, IsAppended x (doc.get? p) new ∧ result.get? p = some new
  beside : ∀ q a s t, Path.PartsAt a s t p q → (∀ c, doc.get? a = some c → c.Separates s t) →
    Value.Kept (doc.get? q) (result.get? q)

/-- **Appending loses something** at the whole document, unless that is null or an empty list, and
at an item of a list that has others behind it. -/
def Loses (doc : Value) (p : List String) : Prop :=
  p = [] ∧ doc ≠ .null ∧ doc ≠ .list [] ∨
    ∃ lead s items i, p = lead ++ [s] ∧ doc.get? lead = some (.list items) ∧
      Path.index? s = some i ∧ i + 1 < items.length

/-- The document after a value was appended at a place. -/
def appendAt (doc : Value) (p : List String) (x : Value) : Value :=
  (doc.remove p).2.set p (appended x (doc.remove p).1)

variable {doc result v x new : Value} {old : Option Value} {s t : String} {p rest : List String}

theorem take_append {a : Action} (appends : a.kind = .append) (doc : Value) :
    a.take doc = .ok (appendAt doc (Path.segments a.target) a.value) := by
  rw [take, effect, appends]
  rfl

theorem isAppended_iff : IsAppended x old new ↔ new = appended x old := by
  constructor
  · intro grown
    cases grown with
    | missing => rfl
    | null => rfl
    | list items => rfl
    | @other v present single =>
        cases v with
        | null => exact absurd rfl present
        | list items => exact absurd rfl (single items)
        | _ => rfl
  · rintro rfl
    rcases old with _ | v
    · exact .missing
    · cases v with
      | null => exact .null
      | list items => exact .list items
      | _ => exact .other (by simp) (by simp)

/-! ### One step down -/

/-- **Appending further down** is appending in the container that writing enters. -/
theorem appendAt_cons (room : doc.HasRoom s) (deep : rest ≠ []) :
    appendAt doc (s :: rest) x = doc.put s (appendAt (doc.enter s) rest x) := by
  have entered := Value.get?_enter (v := doc) (s := s) deep
  cases held : doc.get? (s :: rest) with
  | none =>
      rw [appendAt, appendAt, Value.remove_of_get?_eq_none held,
        Value.remove_of_get?_eq_none (entered.trans held), Value.set_cons]
  | some old =>
      obtain ⟨c, present, below⟩ := Option.bind_eq_some_iff.mp held
      have container := Value.isContainer_of_get? deep below
      rw [appendAt, appendAt, Value.enter_of_child? present container,
        Value.remove_of_child? deep present, Value.fst_remove deep, below, Option.isSome_some,
        if_pos rfl, Value.set_cons, Value.put_put room,
        Value.enter_of_child? (Value.child?_put_self room _)
          (Value.isContainer_snd_remove container)]

/-- An action only appends further down if it only appends in the container below. -/
theorem appendsOnly_cons_iff (room : doc.HasRoom s) (deep : rest ≠ []) :
    AppendsOnly doc (doc.put s result) (s :: rest) x ↔ AppendsOnly (doc.enter s) result rest x := by
  have written (q : List String) : (doc.put s result).get? (s :: q) = result.get? q := by
    rw [Value.get?, Value.child?_put_self room, Option.bind_some]
  have told {a : List String} {y z : String} :
      (∀ c, doc.get? (s :: a) = some c → c.Separates y z) ↔
        ∀ c, (doc.enter s).get? a = some c → c.Separates y z := by
    constructor
    · intro separates c held
      cases c with
      | list items => exact separates _ (Value.get?_enter_eq_list_iff.mp held)
      | _ => trivial
    · intro separates c held
      cases c with
      | list items => exact separates _ (Value.get?_enter_eq_list_iff.mpr held)
      | _ => trivial
  constructor
  · rintro ⟨appended, beside⟩
    rw [written, ← Value.get?_enter deep] at appended
    refine ⟨appended, fun q a y z parts separates => ?_⟩
    have kept := beside (s :: q) (s :: a) y z (parts.cons s) (told.mpr separates)
    have inside : q ≠ [] := parts.right.ne_nil (by simp)
    rwa [written, ← Value.get?_enter inside] at kept
  · rintro ⟨appended, beside⟩
    rw [Value.get?_enter deep] at appended
    refine ⟨by rwa [written], fun q a y z parts separates => ?_⟩
    rcases parts.cases_cons with ⟨rfl, rfl, q, rfl⟩ | ⟨a, q, rfl, rfl, below⟩
    · exact Value.Kept.bind (Value.child?_put_of_ne room.fits parts.ne (separates doc rfl) result) q
    · have inside : q ≠ [] := below.right.ne_nil (by simp)
      rw [written, ← Value.get?_enter inside]
      exact beside q a y z below (told.mp separates)

theorem loses_singleton_iff :
    Loses doc [s] ↔
      ∃ items i, doc = .list items ∧ Path.index? s = some i ∧ i + 1 < items.length := by
  constructor
  · rintro (⟨none, -⟩ | ⟨lead, t, items, i, split, held, index, more⟩)
    · cases none
    · cases lead with
      | nil =>
          cases split
          cases held
          exact ⟨items, i, rfl, index, more⟩
      | cons k lead => simp at split
  · rintro ⟨items, i, rfl, index, more⟩
    exact .inr ⟨[], s, items, i, rfl, rfl, index, more⟩

theorem loses_cons_iff (deep : rest ≠ []) :
    Loses doc (s :: rest) ↔ Loses (doc.enter s) rest := by
  constructor
  · rintro (⟨none, -⟩ | ⟨lead, t, items, i, split, held, index, more⟩)
    · cases none
    · cases lead with
      | nil => exact absurd (List.cons.inj split).2 deep
      | cons k lead =>
          obtain ⟨rfl, rfl⟩ := List.cons.inj split
          exact .inr ⟨lead, t, items, i, rfl, Value.get?_enter_eq_list_iff.mpr held, index, more⟩
  · rintro (⟨none, -⟩ | ⟨lead, t, items, i, rfl, held, index, more⟩)
    · exact absurd none deep
    · exact .inr ⟨s :: lead, t, items, i, rfl, Value.get?_enter_eq_list_iff.mp held, index, more⟩

/-! ### One step -/

theorem appendAt_of_child? {c : Value} (present : doc.child? s = some c) :
    appendAt doc [s] x = (doc.drop s).put s (appended x (some c)) := by
  rw [appendAt, Value.remove_singleton present, Value.set]

theorem appendAt_of_child?_eq_none (absent : doc.child? s = none) :
    appendAt doc [s] x = doc.put s (appended x none) := by
  rw [appendAt, Value.remove_of_child?_eq_none absent, Value.set]

theorem hasRoom_drop (room : doc.HasRoom s) : (doc.drop s).HasRoom s := by
  cases doc with
  | list items =>
      rw [Value.drop]
      split <;> exact room
  | _ => exact trivial

/-- What stands one step down has grown. -/
theorem child?_appendAt_self (room : doc.HasRoom s) (x : Value) :
    (appendAt doc [s] x).child? s = some (appended x (doc.child? s)) := by
  cases present : doc.child? s with
  | none => rw [appendAt_of_child?_eq_none present, Value.child?_put_self room]
  | some c => rw [appendAt_of_child? present, Value.child?_put_self (hasRoom_drop room)]

/-- The last item of a list can be taken out before it is written. -/
theorem put_drop_of_last {items : List Value} {i : Nat} (index : Path.index? s = some i)
    (covered : i + 1 < Numeral.wordBound) (last : i + 1 = items.length) (x : Value) :
    ((Value.list items).drop s).put s x = (Value.list items).put s x := by
  have inside : i < items.length := by omega
  have short : (items.take i).length = i := List.length_take_of_le (by omega)
  have written : items.set i x = items.take i ++ [x] := by
    rw [List.set_eq_take_append_cons_drop, if_pos inside, List.drop_of_length_le (by omega)]
  have taken : items.eraseIdx i = items.take i := by
    rw [List.eraseIdx_eq_take_drop_succ, List.drop_of_length_le (by omega), List.append_nil]
  simp only [Value.drop, Value.put, index, Value.pad_of_lt inside, Value.pad_eq_append covered]
  rw [written, taken, short, Nat.add_sub_cancel_left, List.set_append_right _ _ (by omega), short,
    Nat.sub_self]
  rfl

/-- What stands beside it is kept, unless it stands in a list behind it. -/
theorem child?_appendAt_of_ne (room : doc.HasRoom s) (ne : s ≠ t) (separates : doc.Separates s t)
    (harmless : ¬ Loses doc [s]) (x : Value) :
    Value.Kept (doc.child? t) ((appendAt doc [s] x).child? t) := by
  cases present : doc.child? s with
  | none =>
      rw [appendAt_of_child?_eq_none present]
      exact Value.child?_put_of_ne room.fits ne separates _
  | some c =>
      rw [appendAt_of_child? present]
      cases doc with
      | obj ms =>
          exact .inl ((Table.get?_put_of_ne ne.symm _ _).trans (Table.get?_erase_of_ne ne.symm))
      | list items =>
          obtain ⟨i, index, found⟩ := Option.bind_eq_some_iff.mp present
          have inside := (List.getElem?_eq_some_iff.mp found).1
          have last : i + 1 = items.length := by
            refine Nat.le_antisymm inside (Nat.le_of_not_lt fun more => harmless ?_)
            exact loses_singleton_iff.mpr ⟨items, i, rfl, index, more⟩
          rw [put_drop_of_last index (room i index) last]
          exact Value.child?_put_of_ne room.fits ne separates _
      | _ => cases present

/-- A run of digits is an index. -/
theorem index?_toDigits {n : Nat} (word : n < Numeral.wordBound) :
    Path.index? (String.ofList (Nat.toDigits 10 n)) = some n := by
  have value : Numeral.ofDigits (Nat.toDigits 10 n) = n := Nat.ofDigitChars_ten_toDigits
  have digits := Json.all_isDigit_toDigits n
  obtain ⟨d, ds, spelled⟩ := Json.exists_toDigits_eq_cons n
  rw [spelled] at value digits ⊢
  have noSign : d ≠ '+' := fun plus => absurd (digits d List.mem_cons_self) (by simp [plus])
  have all : (!(d :: ds).isEmpty && (d :: ds).all Char.isDigit) = true := by
    simpa using digits
  rw [Path.index?, Numeral.natural?, String.toList_ofList]
  dsimp only
  split
  · next cs plus => exact absurd (List.cons.inj plus).1 noSign
  · rw [if_pos all, value, if_pos word]

/-- The last item of a list is not read any more after one before it was appended to. -/
theorem exists_lost (loses : Loses doc [s])
    (words : ∀ items, doc = .list items → items.length ≤ Numeral.wordBound) (x : Value) :
    ∃ t, s ≠ t ∧ doc.Separates s t ∧ doc.child? t ≠ none ∧
      (appendAt doc [s] x).child? t = none := by
  obtain ⟨items, i, rfl, index, more⟩ := loses_singleton_iff.mp loses
  have long := words items rfl
  have last := index?_toDigits (n := items.length - 1) (by omega)
  refine ⟨String.ofList (Nat.toDigits 10 (items.length - 1)), ?_, ⟨i, index, ?_⟩, ?_, ?_⟩
  · rintro rfl
    rw [last, Option.some.injEq] at index
    omega
  · rw [last]
    exact fun same => absurd (Option.some.inj same) (by omega)
  · simp only [Value.child?, last, Option.bind_some, ne_eq, List.getElem?_eq_none_iff]
    omega
  · have present : (Value.list items).child? s = some items[i] := by
      simp [Value.child?, index]
    have inside : i < (items.eraseIdx i).length := by
      rw [List.length_eraseIdx_of_lt (by omega)]
      omega
    rw [appendAt_of_child? present]
    simp only [Value.drop, Value.put, Value.child?, index, last, Option.bind_some,
      Value.pad_of_lt inside, List.getElem?_eq_none_iff, List.length_set,
      List.length_eraseIdx_of_lt (Nat.lt_of_succ_lt more), Nat.le_refl]

theorem appendsOnly_singleton_iff (room : doc.HasRoom s)
    (words : ∀ items, doc = .list items → items.length ≤ Numeral.wordBound) (x : Value) :
    AppendsOnly doc (appendAt doc [s] x) [s] x ↔ ¬ Loses doc [s] := by
  have oneStep (v : Value) (t : String) : v.get? [t] = v.child? t := Option.bind_fun_some _
  constructor
  · rintro ⟨-, beside⟩ loses
    obtain ⟨t, ne, separates, present, lost⟩ := exists_lost loses words x
    have kept := beside [t] [] s t (Path.partsAt_nil ne) fun c held => by
      cases held
      exact separates
    rw [oneStep, oneStep, lost] at kept
    rcases kept with same | ⟨absent, -⟩
    · exact present same.symm
    · exact present absent
  · intro harmless
    refine ⟨⟨_, isAppended_iff.mpr rfl, ?_⟩, fun q a y z parts separates => ?_⟩
    · rw [oneStep, oneStep, child?_appendAt_self room]
    · rcases parts.cases_cons with ⟨rfl, rfl, q, rfl⟩ | ⟨a, q, rfl, rfl, below⟩
      · exact (child?_appendAt_of_ne room parts.ne (separates doc rfl) harmless x).bind q
      · exact absurd (List.prefix_nil.mp below.left) (by simp)

theorem appendsOnly_nil_iff (doc x : Value) :
    AppendsOnly doc (appendAt doc [] x) [] x ↔ ¬ Loses doc [] := by
  have loses : Loses doc [] ↔ doc ≠ .null ∧ doc ≠ .list [] := by
    constructor
    · rintro (⟨-, loses⟩ | ⟨lead, s, -, -, split, -⟩)
      · exact loses
      · simp at split
    · exact fun loses => .inl ⟨rfl, loses⟩
  rw [loses]
  constructor
  · rintro ⟨⟨new, grown, written⟩, -⟩ ⟨present, filled⟩
    cases written
    have alone := isAppended_iff.mp grown
    cases doc with
    | null => exact present rfl
    | list items =>
        have none_before := List.append_left_eq_self.mp (Value.list.inj alone).symm
        exact filled (congrArg Value.list none_before)
    | _ => cases alone
  · intro harmless
    have grown : IsAppended x (some doc) (.list [x]) := by
      by_cases null : doc = .null
      · exact null ▸ .null
      · have empty : doc = .list [] :=
          Classical.byContradiction fun filled => harmless ⟨null, filled⟩
        exact empty ▸ .list []
    exact ⟨⟨_, grown, rfl⟩, fun q a y z parts => absurd (List.prefix_nil.mp parts.left) (by simp)⟩

/-! ### Any target -/

/-- **Appending at a place does nothing else** exactly if it loses nothing there. -/
theorem appendsOnly_iff (room : doc.HasRoomAlong p)
    (words : ∀ items, doc.get? p.dropLast = some (.list items) → items.length ≤ Numeral.wordBound)
    (x : Value) : AppendsOnly doc (appendAt doc p x) p x ↔ ¬ Loses doc p := by
  induction p generalizing doc with
  | nil => exact appendsOnly_nil_iff doc x
  | cons s rest ih =>
      obtain ⟨here, below⟩ := Value.hasRoomAlong_cons.mp room
      by_cases deep : rest = []
      · subst deep
        refine appendsOnly_singleton_iff here (fun items same => words items ?_) x
        rw [same]
        rfl
      · rw [appendAt_cons here deep, appendsOnly_cons_iff here deep, loses_cons_iff deep]
        refine ih below fun items held => words items ?_
        rw [List.dropLast_cons_of_ne_nil deep]
        exact Value.get?_of_get?_enter held

/-- **An action that appends** always succeeds.  It appends to the value at its target and does
nothing else, unless the target is an item of a list with others behind it, or the whole
document. -/
theorem append_only_iff {a : Action} (appends : a.kind = .append) {doc : Value}
    (room : doc.HasRoomAlong (Path.segments a.target))
    (words : ∀ items, doc.get? (Path.segments a.target).dropLast = some (.list items) →
      items.length ≤ Numeral.wordBound) :
    ∃ result, a.take doc = .ok result ∧
      (AppendsOnly doc result (Path.segments a.target) a.value ↔
        ¬ Loses doc (Path.segments a.target)) :=
  ⟨_, take_append appends doc, appendsOnly_iff room words a.value⟩

/-- What is appended to the first of two groups is written over the second one, and what is appended
to the whole document replaces it. -/
theorem second_group_lost :
    let doc := Value.obj [("groups", .list [.list [.str "a"], .list [.str "b"]])]
    (∃ result, (Action.mk .append "groups[0]" (.str "x")).take doc = .ok result ∧
      doc.get? ["groups", "1"] = some (.list [.str "b"]) ∧ result.get? ["groups", "1"] = none ∧
      ¬ AppendsOnly doc result (Path.segments "groups[0]") (.str "x")) ∧
    ∃ result, (Action.mk .append "" (.str "x")).take doc = .ok result ∧
      result = .list [.str "x"] ∧ ¬ AppendsOnly doc result (Path.segments "") (.str "x") := by
  intro doc
  have first : Path.segments "groups[0]" = ["groups", "0"] := by decide +kernel
  have whole : Path.segments "" = [] := by decide +kernel
  have before : doc.get? ["groups", "1"] = some (.list [.str "b"]) := by decide +kernel
  have after : (appendAt doc (Path.segments "groups[0]") (.str "x")).get? ["groups", "1"] =
      none := by decide +kernel
  have replaced : appendAt doc (Path.segments "") (.str "x") = .list [.str "x"] := by decide +kernel
  refine ⟨⟨_, take_append rfl doc, before, after, fun only => ?_⟩,
    ⟨_, take_append rfl doc, replaced, fun only => ?_⟩⟩
  · rw [first] at only after
    have kept := only.beside ["groups", "1"] ["groups"] "0" "1"
      ((Path.partsAt_nil (by decide)).cons "groups") fun c held => by
        cases held
        exact ⟨0, by decide, by decide⟩
    rw [before, after] at kept
    rcases kept with same | ⟨absent, -⟩
    · cases same
    · cases absent
  · obtain ⟨new, grown, written⟩ := only.appended
    dsimp only at written
    rw [replaced, whole] at written
    rw [whole] at grown
    cases written
    exact absurd (isAppended_iff.mp grown) (by decide +kernel)

/-- What is appended to the last of two groups leaves the first one alone. -/
theorem last_group_grows :
    let doc := Value.obj [("groups", .list [.list [.str "a"], .list [.str "b"]])]
    let a : Action := ⟨.append, "groups[1]", .str "x"⟩
    doc.HasRoomAlong (Path.segments a.target) ∧
      ∃ result, a.take doc = .ok result ∧
        AppendsOnly doc result (Path.segments a.target) a.value := by
  intro doc a
  have places : Path.segments a.target = ["groups", "1"] := by decide +kernel
  have room : doc.HasRoomAlong (Path.segments a.target) := by decide +kernel
  have words : ∀ items, doc.get? (Path.segments a.target).dropLast = some (.list items) →
      items.length ≤ Numeral.wordBound := by
    rw [places]
    intro items held
    cases held
    decide
  have harmless : ¬ Loses doc (Path.segments a.target) := by
    rw [places]
    rintro (⟨none, -⟩ | ⟨lead, s, items, i, split, held, index, more⟩)
    · cases none
    · obtain ⟨rfl, last⟩ := List.append_inj' (show ["groups"] ++ ["1"] = lead ++ [s] from split) rfl
      cases last
      cases held
      have one : Path.index? "1" = some 1 := by decide +kernel
      rw [one] at index
      cases index
      exact absurd more (by decide)
  obtain ⟨result, taken, only⟩ := append_only_iff (a := a) rfl room words
  exact ⟨room, result, taken, only.mpr harmless⟩

end Action

end Interchange
