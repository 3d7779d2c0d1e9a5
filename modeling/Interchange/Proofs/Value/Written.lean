import Interchange.Value.Text
import Interchange.Yaml.Writer
/-!
# What a value holds is written

A text of small letters needs no escapes and no quotes of its own, so that it stands in every
written form of a value as it stands in the value, however deep.

* `Value.Holds` — a text that a value is, or that is held by one of its items or members.
* `Value.Holds.render`, `Value.Holds.pretty`, `Value.Holds.yaml` — it is a part of what is written.
-/

namespace Interchange

/-- A text is a part of another one. -/
def Text.IsPartOf (part s : String) : Prop := part.toList <:+: s.toList

namespace Text.IsPartOf

variable {part s : String}

/-- A text is a part of itself, -/
theorem refl (s : String) : IsPartOf s s := List.infix_refl _

/-- of any text that begins with it, -/
theorem before (inside : IsPartOf part s) (t : String) : IsPartOf part (s ++ t) := by
  rw [IsPartOf, String.toList_append]
  exact inside.trans (List.prefix_append _ _).isInfix

/-- of any text that ends with it, -/
theorem behind (inside : IsPartOf part s) (t : String) : IsPartOf part (t ++ s) := by
  rw [IsPartOf, String.toList_append]
  exact inside.trans (List.suffix_append _ _).isInfix

/-- and of a text that is joined from several, if it is a part of one of them. -/
theorem intercalate {pieces : List String} (piece : s ∈ pieces) (inside : IsPartOf part s)
    (sep : String) : IsPartOf part (String.intercalate sep pieces) := by
  induction pieces with
  | nil => cases piece
  | cons first pieces ih =>
      cases pieces with
      | nil =>
          rw [String.intercalate_singleton, ← List.mem_singleton.mp piece]
          exact inside
      | cons second pieces =>
          rw [String.intercalate_cons_cons]
          rcases List.mem_cons.mp piece with rfl | later
          · exact (inside.before _).before _
          · exact (ih later).behind _

/-- A part of a text is no longer than it. -/
theorem length_le (inside : IsPartOf part s) : part.length ≤ s.length := by
  rw [← String.length_toList, ← String.length_toList]
  exact List.IsInfix.length_le inside

end Text.IsPartOf

/-- A text of small letters. -/
def Text.IsWord (s : String) : Prop := ∀ c ∈ s.toList, c.isLower = true

namespace Value

/-- **A value holds a text**: it is that text, or one of its items or members holds it. -/
inductive Holds (text : String) : Value → Prop
  | here : Holds text (.str text)
  | item {v : Value} {items : List Value} (inside : v ∈ items) (held : Holds text v) :
      Holds text (.list items)
  | member {key : String} {v : Value} {members : List (String × Value)}
      (inside : (key, v) ∈ members) (held : Holds text v) : Holds text (.obj members)

variable {text : String} {v : Value}

/-! ### JSON -/

theorem flatMap_eq_self {f : Char → List Char} {cs : List Char} (plain : ∀ c ∈ cs, f c = [c]) :
    cs.flatMap f = cs := by
  induction cs with
  | nil => rfl
  | cons c cs ih =>
      obtain ⟨first, rest⟩ := List.forall_mem_cons.mp plain
      rw [List.flatMap_cons, first, ih rest, List.singleton_append]

theorem toNat_of_isLower {c : Char} (small : c.isLower = true) : 97 ≤ c.toNat ∧ c.toNat ≤ 122 := by
  have range : (decide (97 ≤ c.val) && decide (c.val ≤ 122)) = true := small
  rw [Bool.and_eq_true, decide_eq_true_eq, decide_eq_true_eq, UInt32.le_iff_toNat_le,
    UInt32.le_iff_toNat_le] at range
  exact range

theorem ne_of_isLower {c d : Char} (small : c.isLower = true) (other : d.isLower = false) :
    c ≠ d := by
  rintro rfl
  exact Bool.noConfusion (small.symm.trans other)

/-- A word is not changed by quoting. -/
theorem isPartOf_quote (word : Text.IsWord text) : Text.IsPartOf text (Json.quote text) := by
  have plain : text.toList.flatMap Json.escapeChar = text.toList := by
    refine flatMap_eq_self fun c inside => ?_
    have range := toNat_of_isLower (word c inside)
    have quote : c ≠ '"' := ne_of_isLower (word c inside) (by decide)
    have slash : c ≠ '\\' := ne_of_isLower (word c inside) (by decide)
    simp only [Json.escapeChar, quote, slash, if_false]
    repeat rw [if_neg (by omega)]
  rw [Text.IsPartOf, Json.quote, String.toList_ofList, plain]
  exact ⟨['"'], ['"'], by simp⟩

theorem renderItems_eq_map (items : List Value) : renderItems items = items.map render := by
  induction items with
  | nil => rfl
  | cons v vs ih => rw [renderItems, ih, List.map_cons]

theorem renderMembers_eq_map (ms : List (String × Value)) :
    renderMembers ms = ms.map fun m => Json.quote m.1 ++ ":" ++ render m.2 := by
  induction ms with
  | nil => rfl
  | cons m ms ih => rw [renderMembers, ih, List.map_cons]

/-- What a value holds is a part of its compact form. -/
theorem Holds.render (held : Holds text v) (word : Text.IsWord text) :
    Text.IsPartOf text v.render := by
  induction held with
  | here => exact isPartOf_quote word
  | @item v items inside _ ih =>
      rw [Value.render, renderItems_eq_map]
      exact ((Text.IsPartOf.intercalate (List.mem_map_of_mem inside) ih _).behind _).before _
  | @member key v members inside _ ih =>
      rw [Value.render, renderMembers_eq_map]
      exact ((Text.IsPartOf.intercalate (List.mem_map_of_mem inside)
        (ih.behind _) _).behind _).before _

theorem prettyItems_eq_map (depth : Nat) (items : List Value) :
    prettyItems depth items = items.map fun v => newline depth ++ prettyAt depth v := by
  induction items with
  | nil => rfl
  | cons v vs ih => rw [prettyItems, ih, List.map_cons]

theorem prettyMembers_eq_map (depth : Nat) (ms : List (String × Value)) :
    prettyMembers depth ms =
      ms.map fun m => newline depth ++ Json.quote m.1 ++ ": " ++ prettyAt depth m.2 := by
  induction ms with
  | nil => rfl
  | cons m ms ih => rw [prettyMembers, ih, List.map_cons]

/-- What a value holds is a part of its indented form. -/
theorem Holds.prettyAt (held : Holds text v) (word : Text.IsWord text) (depth : Nat) :
    Text.IsPartOf text (v.prettyAt depth) := by
  induction held generalizing depth with
  | here => exact isPartOf_quote word
  | @item v items inside _ ih =>
      cases items with
      | nil => cases inside
      | cons first rest =>
          rw [Value.prettyAt, prettyItems_eq_map]
          · exact (((Text.IsPartOf.intercalate (List.mem_map_of_mem inside)
              ((ih _).behind _) _).behind _).before _).before _
          · simp
  | @member key v members inside _ ih =>
      cases members with
      | nil => cases inside
      | cons first rest =>
          rw [Value.prettyAt, prettyMembers_eq_map]
          · exact (((Text.IsPartOf.intercalate (List.mem_map_of_mem inside)
              ((ih _).behind _) _).behind _).before _).before _
          · simp

/-! ### YAML -/

theorem style_ne_literal (word : Text.IsWord text) : TextStyle.of text ≠ .literal := by
  have oneLine : text.toList.contains '\n' = false := by
    rw [List.contains_eq_any_beq, List.any_eq_false]
    exact fun c inside broken =>
      ne_of_isLower (word c inside) (by decide) (eq_of_beq broken).symm
  rw [TextStyle.of, if_neg (by rw [oneLine]; exact Bool.false_ne_true)]
  repeat' split
  all_goals exact TextStyle.noConfusion

/-- A word is a part of its text in every style. -/
theorem isPartOf_renderText (word : Text.IsWord text) (column : Nat) :
    Text.IsPartOf text (Yaml.renderText column text) := by
  rw [Yaml.renderText]
  cases style : TextStyle.of text with
  | plain => exact .refl text
  | single =>
      have plain : (text.toList.flatMap fun c => if c = '\'' then [c, c] else [c]) = text.toList :=
        flatMap_eq_self fun c inside => if_neg (ne_of_isLower (word c inside) (by decide))
      dsimp only
      rw [Text.IsPartOf, Yaml.singleQuoted, String.toList_ofList, plain]
      exact ⟨['\''], ['\''], by simp⟩
  | double =>
      have plain : text.toList.flatMap Yaml.escapeChar = text.toList := by
        refine flatMap_eq_self fun c inside => ?_
        have range := toNat_of_isLower (word c inside)
        have quote : c ≠ '"' := ne_of_isLower (word c inside) (by decide)
        have slash : c ≠ '\\' := ne_of_isLower (word c inside) (by decide)
        have printable : (Yaml.isPrintable c && !Yaml.isBreak c) = true := by
          simp only [Yaml.isPrintable, ne_eq, decide_not, Yaml.isBreak, Bool.not_or,
            Bool.and_eq_true, Bool.or_eq_true, decide_eq_true_eq, Bool.not_eq_eq_eq_not,
            Bool.not_true, decide_eq_false_iff_not]
          omega
        simp only [Yaml.escapeChar, quote, slash, printable, if_false, if_true]
      dsimp only
      rw [Text.IsPartOf, Yaml.doubleQuoted, String.toList_ofList, plain]
      exact ⟨['"'], ['"'], by simp⟩
  | literal => exact absurd style (style_ne_literal word)

/-- What is written behind the mark of an item is a part of the entries. -/
theorem isPartOf_renderItems {part : String} {column : Nat} {items : List Value}
    (inside : v ∈ items) (written : Text.IsPartOf part (Yaml.renderEntry column v)) :
    Text.IsPartOf part (Yaml.renderItems column items) := by
  induction items with
  | nil => cases inside
  | cons first rest ih =>
      rw [Yaml.renderItems]
      rcases List.mem_cons.mp inside with rfl | later
      · exact (written.behind _).before _
      · rw [if_neg (by simpa using List.ne_nil_of_mem later)]
        exact ((ih later).behind _).behind _

/-- What is written behind a key, in either way, is a part of the members. -/
theorem isPartOf_renderMembers {part key : String} {column : Nat} {members : List (String × Value)}
    (inside : (key, v) ∈ members) (written : Text.IsPartOf part (Yaml.renderEntry column v))
    (written' : Text.IsPartOf part (Yaml.renderMember column v)) :
    Text.IsPartOf part (Yaml.renderMembers column members) := by
  induction members with
  | nil => cases inside
  | cons first rest ih =>
      obtain ⟨k, w⟩ := first
      rw [Yaml.renderMembers]
      rcases List.mem_cons.mp inside with same | later
      · cases same
        refine Text.IsPartOf.before ?_ _
        split
        · exact written'.behind _
        · exact written.behind _
      · have more : ¬ rest.isEmpty = true := by simpa using List.ne_nil_of_mem later
        refine Text.IsPartOf.behind ?_ _
        rw [if_neg more]
        exact (ih later).behind _

/-- What a value holds is a part of what is written behind a mark and behind a key. -/
theorem Holds.renderEntry (held : Holds text v) (word : Text.IsWord text) (column : Nat) :
    Text.IsPartOf text (Yaml.renderEntry column v) ∧
      Text.IsPartOf text (Yaml.renderMember column v) := by
  induction held generalizing column with
  | here => exact ⟨isPartOf_renderText word _, (isPartOf_renderText word _).behind _⟩
  | @item v items inside _ ih =>
      have filled : ¬ items.isEmpty = true := by simpa using List.ne_nil_of_mem inside
      rw [Yaml.renderEntry, Yaml.renderMember, if_neg filled, if_neg filled]
      exact ⟨isPartOf_renderItems inside (ih _).1,
        (isPartOf_renderItems inside (ih _).1).behind _⟩
  | @member key v members inside _ ih =>
      have filled : ¬ members.isEmpty = true := by simpa using List.ne_nil_of_mem inside
      rw [Yaml.renderEntry, Yaml.renderMember, if_neg filled, if_neg filled]
      exact ⟨isPartOf_renderMembers inside (ih _).1 (ih _).2,
        (isPartOf_renderMembers inside (ih _).1 (ih _).2).behind _⟩

/-- What a value holds is a part of its YAML text. -/
theorem Holds.yaml (held : Holds text v) (word : Text.IsWord text) : Text.IsPartOf text v.yaml := by
  refine Text.IsPartOf.before ?_ _
  cases held with
  | here => exact isPartOf_renderText word _
  | item inside held =>
      dsimp only
      rw [if_neg (by simpa using List.ne_nil_of_mem inside)]
      exact isPartOf_renderItems inside (held.renderEntry word 0).1
  | member inside held =>
      dsimp only
      rw [if_neg (by simpa using List.ne_nil_of_mem inside)]
      exact isPartOf_renderMembers inside (held.renderEntry word 0).1 (held.renderEntry word 0).2

end Value

end Interchange
