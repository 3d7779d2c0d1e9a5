import Interchange.Proofs.Text.Pieces
import Interchange.Xml.Soap
/-!
# What is read off a text that is no document

A text that does not begin like a document counts as its words without tags, or as those of what
it holds in place of a body.  Nothing is said here about which text that is, only what it cannot
lose and what it cannot gain: a beginning without markup stays, and no letter comes in.

* `Xml.read?_eq_none` — a text that begins otherwise is no document.
* `Xml.stripTags_keeps` — the beginning stays when tags are taken out.
* `Xml.countP_stripTags_le`, `Soap.countP_bodyText?_lt` — the number of letters of one kind
  does not grow, and in a body there are fewer.
-/

namespace Interchange

namespace Xml

/-- A text that begins with neither a tag nor a blank is no document. -/
theorem read?_eq_none {s : String} {c : Char} {cs : List Char} (form : s.toList = c :: cs)
    (noTag : c ≠ '<') (noSpace : isSpace c = false) : read? s = none := by
  have undeclared : declaration (c :: cs) = none := by
    simp [declaration, literal, Text.stripLead, noTag.symm]
  have noAside : aside (c :: cs) = none := by
    unfold aside
    split
    · next same => exact absurd (List.cons.inj same).1 noTag
    · next same => exact absurd (List.cons.inj same).1 noTag
    · simp [space, noSpace]
  have nothing : skipFirst (c :: cs) = none := by rw [skipFirst, undeclared, noAside]; rfl
  unfold read?
  simp only [form, nothing]
  split
  · next same => exact absurd (List.cons.inj same).1 noTag
  · rfl

/-! ### Beginnings -/

/-- Characters that are neither blank nor begin a tag or an entity. -/
def isInert (c : Char) : Bool := !Text.isBlank c && c ≠ '<' && c ≠ '&'

theorem blankTags_append {a : List Char} (noTag : ∀ c ∈ a, c ≠ '<') (fuel : Nat) (b : List Char) :
    blankTags (a.length + fuel) (a ++ b) = a ++ blankTags fuel b := by
  induction a with
  | nil => rw [List.length_nil, Nat.zero_add, List.nil_append, List.nil_append]
  | cons c a ih =>
      rw [List.forall_mem_cons] at noTag
      rw [List.length_cons, Nat.add_right_comm, List.cons_append, blankTags, if_neg noTag.1,
        ih noTag.2, List.cons_append]

/-- All entities begin with an ampersand. -/
theorem head?_entities : ∀ e ∈ entities, e.1.toList.head? = some '&' := by decide

/-- What holds of a text and outlasts the resolution of every entity holds of the text in which all
are resolved. -/
theorem unescape_induction {motive : String → Prop} {s : String} (start : motive s)
    (step : ∀ t, motive t → ∀ e ∈ entities, motive (Text.replace e.1 e.2 t)) :
    motive (unescape s) :=
  List.foldlRecOn entities _ start step

/-- What holds no ampersand stays in front when entities are resolved. -/
theorem unescape_keeps {a : List Char} (noEntity : ∀ c ∈ a, c ≠ '&') {s : String}
    (begun : a <+: s.toList) : a <+: (unescape s).toList := by
  refine unescape_induction (motive := fun t => a <+: t.toList) begun ?_
  rintro t ⟨b, form⟩ e member
  have free : ∀ c ∈ a, e.1.toList.head? ≠ some c := by
    intro c inside same
    rw [head?_entities e member, Option.some.injEq] at same
    exact noEntity c inside same.symm
  rw [Text.replace, String.toList_ofList, ← form, Text.replaceList_append free]
  exact List.prefix_append _ _

/-- **A beginning without markup and blanks stays** when tags are taken out. -/
theorem stripTags_keeps {a : List Char} (filled : a ≠ []) (inert : ∀ c ∈ a, isInert c = true)
    {s : String} (begun : a <+: s.toList) : a <+: (stripTags s).toList := by
  simp only [isInert, Bool.and_eq_true, Bool.not_eq_true', decide_eq_true_eq] at inert
  obtain ⟨b, form⟩ := begun
  have long : s.length = a.length + b.length := by
    rw [← String.length_toList, ← form, List.length_append]
  have begun : a.reverse ++ [] ≠ [] := by simp [filled]
  obtain ⟨more, words, cut⟩ :=
    Text.exists_wordsWhere_eq_cons (p := Text.isBlank) begun (blankTags b.length b)
  have first : Text.wordsWhere Text.isBlank [] (blankTags s.length s.toList) =
      (a ++ more) :: words := by
    rw [long, ← form, blankTags_append fun c member => (inert c member).1.2,
      Text.wordsWhere_append fun c member => (inert c member).1.1, cut]
    simp
  refine unescape_keeps (fun c member => (inert c member).2) ?_
  rw [first, Text.join, String.toList_intercalate, List.map_cons, List.map_cons,
    String.toList_ofList]
  cases words with
  | nil => simp
  | cons word words => simp [List.intercalate_cons_cons]

/-! ### Letters -/

section Letters

variable {q : Char → Bool}

theorem countP_blankTags_le (noBlank : q ' ' = false) (fuel : Nat) (cs : List Char) :
    (blankTags fuel cs).countP q ≤ cs.countP q := by
  induction fuel generalizing cs with
  | zero => rw [blankTags]
  | succ fuel ih =>
      cases cs with
      | nil => simp [blankTags]
      | cons c cs =>
          have kept : (c :: blankTags fuel cs).countP q ≤ (c :: cs).countP q := by
            rw [List.countP_cons, List.countP_cons]
            exact Nat.add_le_add_right (ih cs) _
          rw [blankTags]
          split
          · split
            · next c' rest dropped =>
                have part : (c' :: rest).Sublist cs := dropped ▸ List.dropWhile_sublist _
                have fewer : rest.countP q ≤ cs.countP q :=
                  ((List.sublist_cons_self c' rest).trans part).countP_le
                rw [List.countP_cons_of_neg (by simp [noBlank]), List.countP_cons]
                exact Nat.le_add_right_of_le ((ih rest).trans fewer)
            · exact kept
          · exact kept

/-- The entities stand for none of the counted characters. -/
theorem countP_unescape_le (other : ∀ e ∈ entities, e.2.toList.countP q = 0) (s : String) :
    (unescape s).toList.countP q ≤ s.toList.countP q := by
  refine unescape_induction (motive := fun t => t.toList.countP q ≤ s.toList.countP q)
    (Nat.le_refl _) ?_
  intro t fewer e member
  rw [Text.replace, String.toList_ofList]
  exact (Text.countP_replaceList_le (other e member) _ _ _).trans fewer

/-- **No letters come in when tags are taken out.** -/
theorem countP_stripTags_le (noBlank : q ' ' = false)
    (other : ∀ e ∈ entities, e.2.toList.countP q = 0) (s : String) :
    (stripTags s).toList.countP q ≤ s.toList.countP q := by
  calc (stripTags s).toList.countP q
      ≤ (Text.wordsWhere Text.isBlank [] (blankTags s.length s.toList)).flatten.countP q := by
        have parted : " ".toList.countP q = 0 := by simp [noBlank]
        rw [← Text.countP_join parted]
        exact countP_unescape_le other _
    _ ≤ (blankTags s.length s.toList).countP q := by
        simpa using Text.countP_wordsWhere_le q [] (blankTags s.length s.toList)
    _ ≤ s.toList.countP q := countP_blankTags_le noBlank _ _

end Letters

end Xml

/-! ### Bodies -/

namespace Soap

/-- A letter of the name of a body that neither entities nor the escapes of JSON bring in. -/
def isO (c : Char) : Bool := c.toLower = 'o'

theorem countP_drop_four_lt {cs : List Char}
    (spelled : (cs.take 4).map Char.toLower = ['b', 'o', 'd', 'y']) :
    (cs.drop 4).countP isO < cs.countP isO := by
  have lowered : isO = (fun c => decide (c = 'o')) ∘ Char.toLower := rfl
  have counted : (cs.take 4).countP isO = 1 := by
    rw [lowered, ← List.countP_map, spelled]
    decide
  have whole : (cs.take 4).countP isO + (cs.drop 4).countP isO = cs.countP isO := by
    rw [← List.countP_append, List.take_append_drop]
  omega

/-- The name of a body holds the letter. -/
theorem countP_afterBodyName_lt {cs rest : List Char} (named : afterBodyName cs = some rest) :
    rest.countP isO < cs.countP isO := by
  have plain {ds : List Char} (spelled : (if (ds.take 4).map Char.toLower = ['b', 'o', 'd', 'y']
      then some (ds.drop 4) else none) = some rest) : rest.countP isO < ds.countP isO := by
    obtain ⟨spelled, same⟩ := Option.ite_none_right_eq_some.mp spelled
    rw [← Option.some.inj same]
    exact countP_drop_four_lt spelled
  unfold afterBodyName at named
  dsimp only at named
  split at named
  · next inner prefixed =>
      split at named
      · exact plain named
      · rcases Option.or_eq_some_iff.mp named with found | ⟨-, found⟩
        · have part : (':' :: inner).Sublist cs := prefixed ▸ List.drop_sublist _ _
          exact (plain found).trans_le ((List.sublist_cons_self _ _).trans part).countP_le
        · exact plain found
  · exact plain named

theorem countP_afterOpening_lt {cs rest : List Char} (opened : afterOpening cs = some rest) :
    rest.countP isO < cs.countP isO := by
  unfold afterOpening at opened
  split at opened
  · next tag =>
      split at opened
      · next c rest' named =>
          obtain ⟨after, named, dropped⟩ := Option.map_eq_some_iff.mp named
          obtain rfl : rest' = rest := Option.some.inj opened
          have part : (c :: rest').Sublist after := dropped ▸ List.dropWhile_sublist _
          have fewer := ((List.sublist_cons_self _ _).trans part).countP_le (p := isO)
          have less := countP_afterBodyName_lt named
          rw [List.countP_cons]
          omega
      · cases opened
  · cases opened

/-- What stands before the last closing tag stands in front. -/
theorem prefix_of_beforeLastClosing {cs inner : List Char}
    (closed : beforeLastClosing cs = some inner) : inner <+: cs := by
  induction cs generalizing inner with
  | nil => cases closed
  | cons c cs ih =>
      rw [beforeLastClosing] at closed
      split at closed
      · next found =>
          obtain rfl := Option.some.inj closed
          exact List.cons_prefix_cons.mpr ⟨rfl, ih found⟩
      · obtain ⟨-, same⟩ := Option.ite_none_right_eq_some.mp closed
        exact Option.some.inj same ▸ List.nil_prefix

/-- **There are fewer of the letters in a body** than in the text that it is found in. -/
theorem countP_bodyText?_lt {cs inner : List Char} (found : bodyText? cs = some inner) :
    inner.countP isO < cs.countP isO := by
  induction cs with
  | nil => cases found
  | cons c cs ih =>
      rw [bodyText?] at found
      rcases Option.or_eq_some_iff.mp found with here | ⟨-, later⟩
      · obtain ⟨rest, opened, closed⟩ := Option.bind_eq_some_iff.mp here
        exact (prefix_of_beforeLastClosing closed).sublist.countP_le.trans_lt
          (countP_afterOpening_lt opened)
      · exact (ih later).trans_le (List.sublist_cons_self c cs).countP_le

end Soap

end Interchange
