import Interchange.Proofs.Number.ReadBack
import Interchange.Proofs.Xml.Fallback
import Interchange.WireFormat
/-!
# Replies in JSON

A value that was sent as JSON is read as that value when its text is read as JSON, and as something
else when it is read in any other format: a JSON text is no document, so it counts as a string, and
that string is never the one that the text quotes.  So everything depends on the format in which a
reply is read.  A content type that mentions JSON decides for it.  Where the content type is missing
or mentions no format, a text that looks like an envelope is read as SOAP, though it be JSON and the
system be declared so.

* `Value.ReadsBack` — the value is read back from its JSON text.
* `WireFormat.decode_render_eq_iff` — it is read so in JSON only.
* `WireFormat.ofReply_eq_json_iff` — the replies that are read as JSON.
* `WireFormat.decode_reply_eq_iff` — the replies in JSON that are read as what they say.
-/

namespace Interchange

/-- The value is read back from its JSON text. -/
def Value.ReadsBack (v : Value) : Prop := Value.parse? v.render = some v

instance (v : Value) : Decidable v.ReadsBack :=
  inferInstanceAs (Decidable (Value.parse? v.render = some v))

/-! ### The text of strings -/

namespace Json

open Text Xml

/-- The characters that are escaped in strings by a backslash before them. -/
def isMark (c : Char) : Bool := c = '"' || c = '\\'

theorem isInert_of_isMark {c : Char} (mark : isMark c = true) : isInert c = true := by
  simp only [isMark, Bool.or_eq_true, decide_eq_true_eq] at mark
  rcases mark with rfl | rfl <;> decide

theorem escapeChar_of_isMark {c : Char} (mark : isMark c = true) : escapeChar c = ['\\', c] := by
  simp only [isMark, Bool.or_eq_true, decide_eq_true_eq] at mark
  rcases mark with rfl | rfl <;> decide

/-- Marks are written as marks, two for each. -/
theorem flatMap_escapeChar_of_marks {p : List Char} (marks : ∀ c ∈ p, isMark c = true) :
    (∀ c ∈ p.flatMap escapeChar, isMark c = true) ∧
      (p.flatMap escapeChar).length = 2 * p.length := by
  induction p with
  | nil => simp
  | cons c p ih =>
      rw [List.forall_mem_cons] at marks
      obtain ⟨written, long⟩ := ih marks.2
      rw [List.flatMap_cons, escapeChar_of_isMark marks.1]
      refine ⟨?_, by simp [long]; omega⟩
      simp only [List.cons_append, List.nil_append, List.forall_mem_cons]
      exact ⟨by decide, marks.1, written⟩

/-- **A string is not its own text without tags**: it would have to begin with more marks than it
begins with. -/
theorem stripTags_quote_ne (s : String) : stripTags (quote s) ≠ s := by
  intro same
  let p := s.toList.takeWhile isMark
  have marks : ∀ c ∈ p, isMark c = true := fun c member => List.mem_takeWhile_imp member
  obtain ⟨written, long⟩ := flatMap_escapeChar_of_marks marks
  -- Behind the opening quote these marks are doubled, and none of that can be lost.
  have begun : '"' :: p.flatMap escapeChar <+: (quote s).toList := by
    have cut : s.toList.flatMap escapeChar =
        p.flatMap escapeChar ++ (s.toList.dropWhile isMark).flatMap escapeChar := by
      rw [← List.flatMap_append, List.takeWhile_append_dropWhile]
    rw [quote, String.toList_ofList, cut, List.append_assoc]
    exact List.cons_prefix_cons.mpr ⟨rfl, List.prefix_append _ _⟩
  have allMarks : ∀ c ∈ '"' :: p.flatMap escapeChar, isMark c = true :=
    List.forall_mem_cons.mpr ⟨by decide, written⟩
  have kept := stripTags_keeps (List.cons_ne_nil _ _)
    (fun c member => isInert_of_isMark (allMarks c member)) begun
  rw [same] at kept
  obtain ⟨rest, form⟩ := kept
  have longer : p = '"' :: p.flatMap escapeChar ++ rest.takeWhile isMark := by
    rw [← List.takeWhile_append_of_pos allMarks, form]
  have size := congrArg List.length longer
  rw [List.length_append, List.length_cons, long] at size
  omega

/-- A character that is escaped is written without the letter of a body. -/
theorem escapeChar_eq_or (c : Char) :
    escapeChar c = [c] ∨ (escapeChar c).countP Soap.isO = 0 := by
  have digit : ∀ n < 16, Soap.isO (hexDigit n) = false := by decide
  unfold escapeChar
  repeat' split
  any_goals
    refine .inr ?_
    decide
  -- What is left are the control characters that are written by their codes, and all others.
  · next control =>
      have high := digit (c.toNat / 16) (by omega)
      have low := digit (c.toNat % 16) (by omega)
      simp only [List.countP_cons, high, low]
      exact .inr (by decide)
  · exact .inl rfl

theorem countP_quote_le (s : String) :
    (quote s).toList.countP Soap.isO ≤ s.toList.countP Soap.isO := by
  have escaped (cs : List Char) : (cs.flatMap escapeChar).countP Soap.isO ≤ cs.countP Soap.isO := by
    induction cs with
    | nil => exact Nat.le_refl _
    | cons c cs ih =>
        rw [List.flatMap_cons, List.countP_append, List.countP_cons, Nat.add_comm]
        refine Nat.add_le_add ih ?_
        rcases escapeChar_eq_or c with plain | free
        · rw [plain, List.countP_singleton]
        · rw [free]
          exact Nat.zero_le _
  have unquoted : Soap.isO '"' = false := rfl
  simpa [quote, unquoted] using escaped s.toList

end Json

namespace Value

open Json

theorem isInert_of_isNumeric {c : Char} (numeric : isNumeric c = true) :
    Xml.isInert c = true := by
  have noTag : c ≠ '<' := by
    rintro rfl
    exact absurd numeric (by decide)
  have noEntity : c ≠ '&' := by
    rintro rfl
    exact absurd numeric (by decide)
  simp [Xml.isInert, not_isBlank_of_isNumeric numeric, noTag, noEntity]

/-- The text of a value that is read back begins like no document. -/
theorem exists_render_eq_cons {v : Value} (reads : v.ReadsBack) :
    ∃ c cs, v.render.toList = c :: cs ∧ Xml.isInert c = true := by
  cases v with
  | null => exact ⟨'n', _, rfl, by decide⟩
  | bool b =>
      cases b with
      | true => exact ⟨'t', _, rfl, by decide⟩
      | false => exact ⟨'f', _, rfl, by decide⟩
  | str s => exact ⟨'"', _, by rw [render, quote, String.toList_ofList], by decide⟩
  | list items =>
      refine ⟨'[', (String.intercalate "," (renderItems items) ++ "]").toList, ?_, by decide⟩
      rw [render, String.append_assoc, String.toList_append]
      rfl
  | obj members =>
      refine ⟨'\x7b', (String.intercalate "," (renderMembers members) ++ "\x7d").toList, ?_,
        by decide⟩
      rw [render, String.append_assoc, String.toList_append]
      rfl
  | num n =>
      rw [render]
      cases spelled : n.render.toList with
      | nil =>
          have nothing : parse? "" = none := by decide
          rw [ReadsBack, render, String.toList_eq_nil_iff.mp spelled, nothing] at reads
          cases reads
      | cons c cs =>
          have numeric := n.numeric_render c (spelled ▸ List.mem_cons_self)
          exact ⟨c, cs, rfl, isInert_of_isNumeric numeric⟩

theorem not_isBlankText_render {v : Value} (reads : v.ReadsBack) :
    Text.isBlankText v.render = false := by
  obtain ⟨c, cs, form, inert⟩ := exists_render_eq_cons reads
  simp only [Xml.isInert, Bool.and_eq_true, Bool.not_eq_true'] at inert
  simp [Text.isBlankText, form, inert.1.1]

/-- The text of a value is no document. -/
theorem read?_render_eq_none {v : Value} (reads : v.ReadsBack) : Xml.read? v.render = none := by
  obtain ⟨c, cs, form, inert⟩ := exists_render_eq_cons reads
  simp only [Xml.isInert, Bool.and_eq_true, Bool.not_eq_true', decide_eq_true_eq] at inert
  have noSpace : Xml.isSpace c = false := by
    by_contra space
    simp only [Xml.isSpace, Bool.not_eq_false, Bool.or_eq_true, decide_eq_true_eq] at space
    rcases space with ((rfl | rfl) | rfl) | rfl <;> exact absurd inert.1.1 (by decide)
  exact Xml.read?_eq_none form inert.1.2 noSpace

end Value

namespace WireFormat

/-! ### Other formats -/

/-- The letter of a body is none of the characters that entities stand for. -/
theorem countP_entities : ∀ e ∈ Xml.entities, e.2.toList.countP Soap.isO = 0 := by decide

/-- A text in JSON that counts as its words without tags is not read as the value. -/
theorem str_stripTags_render_ne (v : Value) : Value.str (Xml.stripTags v.render) ≠ v := by
  cases v with
  | str s => exact fun same => Json.stripTags_quote_ne s (Value.str.inj same)
  | _ => exact nofun

/-- A text in JSON that counts as what it holds in place of a body is not read as the value. -/
theorem str_stripTags_bodyText_ne {v : Value} {inner : List Char}
    (found : Soap.bodyText? v.render.toList = some inner) :
    Value.str (Xml.stripTags (String.ofList inner)) ≠ v := by
  cases v with
  | str s =>
      intro same
      -- Escapes may make the text longer than the string, so its letters are counted.
      have fewer : s.toList.countP Soap.isO < s.toList.countP Soap.isO := by
        calc s.toList.countP Soap.isO
            = (Xml.stripTags (String.ofList inner)).toList.countP Soap.isO := by
              rw [Value.str.inj same]
          _ ≤ (String.ofList inner).toList.countP Soap.isO :=
              Xml.countP_stripTags_le rfl countP_entities _
          _ = inner.countP Soap.isO := by rw [String.toList_ofList]
          _ < (Json.quote s).toList.countP Soap.isO := Soap.countP_bodyText?_lt found
          _ ≤ s.toList.countP Soap.isO := Json.countP_quote_le s
      exact Nat.lt_irrefl _ fewer
  | _ => exact nofun

/-- **A text in JSON is read as the value that it says in JSON, and in no other format.** -/
theorem decode_render_eq_iff {v : Value} (reads : v.ReadsBack) (f : WireFormat) :
    f.decode v.render = some v ↔ f = json := by
  have filled := Value.not_isBlankText_render reads
  have noDocument := Value.read?_render_eq_none reads
  cases f with
  | json =>
      have read : Value.parse? v.render = some v := reads
      simp [decode, filled, read]
  | xml => simpa [decode, filled, Xml.decode, noDocument] using str_stripTags_render_ne v
  | soap =>
      have other : Soap.decode v.render ≠ v := by
        rw [Soap.decode, noDocument]
        dsimp only
        split
        · next found => exact str_stripTags_bodyText_ne found
        · exact str_stripTags_render_ne v
      simpa [decode, filled] using other

/-! ### The format of a reply -/

/-- A content type names no format. -/
def NamesNone (contentType : String) : Prop :=
  ¬ Text.Mentions contentType "json" ∧ ¬ Text.Mentions contentType "soap" ∧
    ¬ Text.Mentions contentType "xml"

/-- The beginning of a text mentions an envelope like the opening tag of one, with a prefix or
without. -/
def LooksLikeEnvelope (s : String) : Prop :=
  let head := String.ofList (s.toList.take 512)
  Text.Mentions head ":envelope" ∨ Text.Mentions head "<envelope"

theorem isEnvelope_iff (s : String) : Soap.isEnvelope s = true ↔ LooksLikeEnvelope s := by
  have prefixed : Text.asciiLower ":envelope" = ":envelope" := by decide
  have plain : Text.asciiLower "<envelope" = "<envelope" := by decide
  simp only [LooksLikeEnvelope, Text.mentions_iff, prefixed, plain]
  simp only [Text.contains, Text.asciiLower, String.toList_ofList, Soap.isEnvelope, Bool.or_eq_true]

theorem ofContentType?_eq_json_iff (t : String) :
    ofContentType? t = some json ↔ Text.Mentions t "json" := by
  rw [← Text.contains_asciiLower_iff (by decide), ofContentType?]
  repeat' split
  all_goals simp [*]

theorem ofContentType?_eq_none_iff (t : String) : ofContentType? t = none ↔ NamesNone t := by
  rw [NamesNone, ← Text.contains_asciiLower_iff (by decide),
    ← Text.contains_asciiLower_iff (by decide), ← Text.contains_asciiLower_iff (by decide),
    ofContentType?]
  repeat' split
  all_goals simp [*]

/-- **The replies that are read as JSON**: those whose content type mentions JSON, and those of
systems declared so whose content type names no format and whose text does not look like an
envelope. -/
theorem ofReply_eq_json_iff (body : String) (contentType : Option String) (declared : WireFormat) :
    ofReply body contentType declared = json ↔
      (∃ t, contentType = some t ∧ Text.Mentions t "json") ∨
        ((∀ t, contentType = some t → NamesNone t) ∧ declared = json ∧
          ¬ LooksLikeEnvelope body) := by
  have mentioned : contentType.bind ofContentType? = some json ↔
      ∃ t, contentType = some t ∧ Text.Mentions t "json" := by
    simp only [Option.bind_eq_some_iff, ofContentType?_eq_json_iff]
  have unnamed : contentType.bind ofContentType? = none ↔
      ∀ t, contentType = some t → NamesNone t := by
    simp only [Option.bind_eq_none_iff, ofContentType?_eq_none_iff]
  rw [← mentioned, ← unnamed, ← isEnvelope_iff, ofReply]
  cases contentType.bind ofContentType? with
  | none => cases Soap.isEnvelope body <;> simp
  | some f =>
      cases f with
      | json => simp
      | soap => simp
      | xml => cases Soap.isEnvelope body <;> simp

/-- **A reply in JSON is read as the value that it says** if and only if its content type mentions
JSON, or it names no format, the system is declared to speak JSON, and the text does not look like
an envelope.  What strings and keys the value holds matters in the last respect only. -/
theorem decode_reply_eq_iff {v : Value} (reads : v.ReadsBack) (contentType : Option String)
    (declared : WireFormat) :
    (ofReply v.render contentType declared).decode v.render = some v ↔
      (∃ t, contentType = some t ∧ Text.Mentions t "json") ∨
        ((∀ t, contentType = some t → NamesNone t) ∧ declared = json ∧
          ¬ LooksLikeEnvelope v.render) := by
  rw [decode_render_eq_iff reads, ofReply_eq_json_iff]

/-- A note with an envelope in it. -/
def envelopeNote : Value := .obj [("note", .str "<soap:Envelope>")]

/-- A content type that mentions JSON decides even for a text that looks like an envelope. -/
theorem envelope_note_kept :
    envelopeNote.ReadsBack ∧ LooksLikeEnvelope envelopeNote.render ∧
      (ofReply envelopeNote.render (some "application/vnd.api+JSON") soap).decode
        envelopeNote.render = some envelopeNote := by
  have reads : envelopeNote.ReadsBack := by decide +kernel
  have looks : LooksLikeEnvelope envelopeNote.render := (isEnvelope_iff _).mp (by decide +kernel)
  exact ⟨reads, looks, (decode_reply_eq_iff reads _ _).mpr (.inl ⟨_, rfl, by decide +kernel⟩)⟩

/-- Without one, the note of a system that speaks JSON is read as SOAP, and comes out as the text of
the reply without the tag. -/
theorem envelope_note_misread :
    envelopeNote.ReadsBack ∧
      (ofReply envelopeNote.render none json).decode envelopeNote.render =
        some (.str "\x7b\"note\":\" \"\x7d") ∧
      (ofReply envelopeNote.render none json).decode envelopeNote.render ≠ some envelopeNote := by
  have misread : (ofReply envelopeNote.render none json).decode envelopeNote.render =
      some (.str "\x7b\"note\":\" \"\x7d") := by decide +kernel
  exact ⟨by decide +kernel, misread, by rw [misread]; exact nofun⟩

end WireFormat

end Interchange
