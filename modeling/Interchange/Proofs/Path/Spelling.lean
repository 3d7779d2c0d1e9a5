import Interchange.Path.Access
import Interchange.Proofs.Text.Blank
import Interchange.Proofs.Text.Pieces
/-!
# Spellings of a location

The keys of a location may be written after points, in brackets, and in brackets and quotes, with or
without the mark of the root before them and blanks around them.  Once brackets are read as points,
all of these are pieces between points, each with at most some quotes around its key.

* `Path.IsKey` — a key that can be written in every notation.
* `Path.Spelling` — the keys of a location with the notation of each.
* `Path.Spelling.Proper.segments_text` — the segments of a spelling are its keys.
* `Path.spellings_agree` — all spellings of a location can be used for each other.
-/

namespace Interchange.Path

/-! ### Keys and how they are written -/

/-- **A key that can be written in every notation**: it is not empty, has none of the characters
that separate or quote keys, and neither begins nor ends with a blank. -/
structure IsKey (key : String) : Prop where
  filled : key ≠ ""
  plain : ∀ c ∈ key.toList, c ∉ ['.', '[', ']', '\'', '"']
  begun : ∀ c ∈ key.toList.head?, Text.isBlank c = false
  ended : ∀ c ∈ key.toList.getLast?, Text.isBlank c = false

/-- Keys can be checked character by character. -/
theorem isKey_iff {key : String} : IsKey key ↔
    key ≠ "" ∧ (key.toList.all fun c => c ∉ ['.', '[', ']', '\'', '"']) = true ∧
      key.toList.head?.all (!Text.isBlank ·) = true ∧
        key.toList.getLast?.all (!Text.isBlank ·) = true := by
  simp only [List.all_eq_true, Option.all_eq_true, decide_eq_true_eq, Bool.not_eq_true']
  exact ⟨fun ⟨filled, plain, begun, ended⟩ => ⟨filled, plain, begun, ended⟩,
    fun ⟨filled, plain, begun, ended⟩ => ⟨filled, plain, begun, ended⟩⟩

instance (key : String) : Decidable (IsKey key) := decidable_of_iff' _ isKey_iff

/-- How a key is written after another one. -/
inductive Style
  | point
  | brackets
  | singleQuotes
  | doubleQuotes
deriving DecidableEq

/-- What stands before a key. -/
def Style.opening : Style → String
  | point => "."
  | brackets => "["
  | singleQuotes => "['"
  | doubleQuotes => "[\""

/-- What stands after a key. -/
def Style.closing : Style → String
  | point => ""
  | brackets => "]"
  | singleQuotes => "']"
  | doubleQuotes => "\"]"

/-- A key after another one. -/
def Style.write (style : Style) (key : String) : String := style.opening ++ key ++ style.closing

/-- How the root of the document is written before the first key, if it is. -/
inductive Root
  | unwritten
  | dollar
  | dollarPoint
deriving DecidableEq

def Root.text : Root → String
  | unwritten => ""
  | dollar => "$"
  | dollarPoint => "$."

/-- **A spelling of a location**: the first key by itself and the others in any styles, with the
root before them and blanks around. -/
structure Spelling where
  before : String
  root : Root
  first : String
  further : List (Style × String)
  after : String

namespace Spelling

/-- The keys that are spelled. -/
def keys (s : Spelling) : List String := s.first :: s.further.map Prod.snd

/-- The path text. -/
def text (s : Spelling) : String :=
  s.before ++ (s.root.text ++ s.first ++ String.join (s.further.map fun f => f.1.write f.2)) ++
    s.after

/-- A spelling is proper if there are only blanks around it, all of its keys can be written in every
notation, and the first one cannot be taken for the root. -/
structure Proper (s : Spelling) : Prop where
  before : Text.isBlankText s.before = true
  after : Text.isBlankText s.after = true
  isKey : ∀ key ∈ s.keys, IsKey key
  noRoot : s.first.toList.head? ≠ some '$'

end Spelling

/-! ### Reading a spelling -/

variable {key : String}

theorem bracketToPoint_append (cs ds : List Char) :
    bracketToPoint (cs ++ ds) = bracketToPoint cs ++ bracketToPoint ds :=
  List.filterMap_append

theorem IsKey.toList_ne_nil (isKey : IsKey key) : key.toList ≠ [] := by
  simpa using isKey.filled

theorem IsKey.bracketToPoint (isKey : IsKey key) : bracketToPoint key.toList = key.toList := by
  have kept : ∀ c ∈ key.toList,
      (if c = '[' then some '.' else if c = ']' then none else some c) = some c := by
    intro c member
    have plain := isKey.plain c member
    simp only [List.mem_cons, not_or] at plain
    rw [if_neg plain.2.1, if_neg plain.2.2.1]
  rw [Path.bracketToPoint, List.filterMap_congr kept, List.filterMap_some]

/-- The quotes that a style puts around a key. -/
def Style.quotes : Style → List Char
  | point | brackets => []
  | singleQuotes => ['\'']
  | doubleQuotes => ['"']

/-- A key with the quotes of a style around it. -/
def Style.quoted (style : Style) (key : String) : List Char :=
  style.quotes ++ key.toList ++ style.quotes

/-- In every style, a key stands after a point once brackets are read. -/
theorem IsKey.bracketToPoint_write (isKey : IsKey key) (style : Style) :
    Path.bracketToPoint (style.write key).toList = '.' :: style.quoted key := by
  have opening : Path.bracketToPoint style.opening.toList = '.' :: style.quotes := by
    cases style <;> decide
  have closing : Path.bracketToPoint style.closing.toList = style.quotes := by
    cases style <;> decide
  rw [Style.write, String.toList_append, String.toList_append, bracketToPoint_append,
    bracketToPoint_append, opening, closing, isKey.bracketToPoint]
  rfl

/-- A key ends with what is no blank, however it is written. -/
theorem IsKey.ended_write (isKey : IsKey key) (style : Style) : (style.write key).toList ≠ [] ∧
    ∀ c ∈ (style.write key).toList.getLast?, Text.isBlank c = false := by
  rw [Style.write, String.toList_append, String.toList_append]
  refine ⟨by simp [isKey.filled], ?_⟩
  cases style with
  | point =>
      rw [Style.closing, String.toList_empty, List.append_nil,
        List.getLast?_append_of_ne_nil _ isKey.toList_ne_nil]
      exact isKey.ended
  | brackets | singleQuotes | doubleQuotes =>
      rw [List.getLast?_append_of_ne_nil _ (by decide)]
      rintro _ ⟨⟩
      decide

theorem isQuote_of_mem_quotes {style : Style} : ∀ c ∈ style.quotes, isQuote c = true :=
  List.all_eq_true.mp (by cases style <;> decide)

/-- The quotes around a key are dropped. -/
theorem IsKey.trimWhere_quoted (isKey : IsKey key) (style : Style) :
    Text.trimWhere isQuote (style.quoted key) = key.toList := by
  have free : ∀ c ∈ key.toList, isQuote c = false := by
    intro c member
    have plain := isKey.plain c member
    simp only [List.mem_cons, List.not_mem_nil, not_or] at plain
    simp [isQuote, plain.2.2.2.1, plain.2.2.2.2.1]
  refine Text.trimWhere_append isQuote_of_mem_quotes ?_ ?_ isQuote_of_mem_quotes
  · exact fun c first => free c (List.mem_of_head? first)
  · exact fun c last => free c (List.mem_of_getLast? last)

theorem IsKey.point_not_mem_quoted (isKey : IsKey key) (style : Style) :
    '.' ∉ style.quoted key := by
  have quotes : '.' ∉ style.quotes := by cases style <;> decide
  rw [Style.quoted, List.mem_append, List.mem_append]
  rintro ((lead | inside) | trail)
  · exact quotes lead
  · exact isKey.plain '.' inside List.mem_cons_self
  · exact quotes trail

/-- The mark of the root is dropped, and a first key that cannot be taken for it stays. -/
theorem dropRoot_root (root : Root) {c : Char} (noDollar : c ≠ '$') (noPoint : c ≠ '.')
    (cs : List Char) : dropRoot (root.text.toList ++ c :: cs) = c :: cs := by
  cases root with
  | unwritten => simp [Root.text, dropRoot, noDollar]
  | dollar => simp [Root.text, dropRoot, noPoint]
  | dollarPoint => rfl

namespace Spelling

variable {s t : Spelling}

/-- The first key and the further ones, as they are written. -/
def body (s : Spelling) : List Char :=
  s.first.toList ++ s.further.flatMap fun f => (f.1.write f.2).toList

theorem toList_text (s : Spelling) :
    s.text.toList = s.before.toList ++ (s.root.text.toList ++ s.body) ++ s.after.toList := by
  have further : (String.join (s.further.map fun f => f.1.write f.2)).toList =
      s.further.flatMap fun f => (f.1.write f.2).toList := by
    simp [List.flatMap_map]
  simp only [text, body, String.toList_append, further, List.append_assoc]

/-- All keys with their styles; around the first one there are no quotes either. -/
def pieces (s : Spelling) : List (Style × String) := (.point, s.first) :: s.further

theorem keys_eq (s : Spelling) : s.keys = s.pieces.map Prod.snd := rfl

theorem Proper.isKey_pieces (proper : s.Proper) : ∀ f ∈ s.pieces, IsKey f.2 := fun f member =>
  proper.isKey f.2 (List.mem_map_of_mem member)

theorem Proper.isKey_further (proper : s.Proper) : ∀ f ∈ s.further, IsKey f.2 := fun f member =>
  proper.isKey_pieces f (List.mem_cons_of_mem _ member)

theorem Proper.isKey_first (proper : s.Proper) : IsKey s.first :=
  proper.isKey s.first List.mem_cons_self

theorem Proper.ended_body (proper : s.Proper) :
    s.body ≠ [] ∧ ∀ c ∈ s.body.getLast?, Text.isBlank c = false := by
  rcases List.eq_nil_or_concat s.further with none_further | ⟨others, f, last⟩
  · have alone : s.body = s.first.toList := by simp [body, none_further]
    rw [alone]
    exact ⟨proper.isKey_first.toList_ne_nil, proper.isKey_first.ended⟩
  · have isKey : IsKey f.2 := proper.isKey_further f (by simp [last])
    obtain ⟨filled, ended⟩ := isKey.ended_write f.1
    have split : s.body = s.first.toList ++ (others.flatMap fun f => (f.1.write f.2).toList) ++
        (f.1.write f.2).toList := by
      simp [body, last]
    rw [split, List.getLast?_append_of_ne_nil _ filled]
    exact ⟨by simp [filled], ended⟩

/-- Blanks around a proper spelling are trimmed. -/
theorem Proper.trimWhere_text (proper : s.Proper) :
    Text.trimWhere Text.isBlank s.text.toList = s.root.text.toList ++ s.body := by
  obtain ⟨filled, ended⟩ := proper.ended_body
  rw [toList_text]
  refine Text.trimWhere_append ?_ ?_ ?_ ?_
  · exact List.all_eq_true.mp proper.before
  · obtain ⟨c, cs, form⟩ := List.exists_cons_of_ne_nil proper.isKey_first.toList_ne_nil
    have begun := proper.isKey_first.begun
    rw [form] at begun
    cases root : s.root with
    | unwritten => simpa [Root.text, body, form] using begun
    | dollar | dollarPoint =>
        rintro c ⟨⟩
        decide
  · rwa [List.getLast?_append_of_ne_nil _ filled]
  · exact List.all_eq_true.mp proper.after

/-- The further keys stand after points once brackets are read. -/
theorem Proper.bracketToPoint_body (proper : s.Proper) : bracketToPoint s.body =
    ['.'].intercalate (s.pieces.map fun f => f.1.quoted f.2) := by
  have first : s.first.toList = Style.point.quoted s.first := by simp [Style.quoted, Style.quotes]
  have further : ∀ fs : List (Style × String), (∀ f ∈ fs, IsKey f.2) →
      bracketToPoint (fs.flatMap fun f => (f.1.write f.2).toList) =
        (fs.map fun f => f.1.quoted f.2).flatMap ('.' :: ·) := by
    intro fs isKey
    induction fs with
    | nil => rfl
    | cons f fs ih =>
        rw [List.forall_mem_cons] at isKey
        rw [List.flatMap_cons, bracketToPoint_append, isKey.1.bracketToPoint_write, ih isKey.2,
          List.map_cons, List.flatMap_cons]
  rw [body, bracketToPoint_append, proper.isKey_first.bracketToPoint,
    further s.further proper.isKey_further, Text.append_flatMap_cons, first]
  rfl

/-- **The segments of a spelling are its keys.** -/
theorem Proper.segments_text (proper : s.Proper) : segments s.text = s.keys := by
  have rooted : dropRoot (s.root.text.toList ++ s.body) = s.body := by
    obtain ⟨c, cs, form⟩ := List.exists_cons_of_ne_nil proper.isKey_first.toList_ne_nil
    have noDollar : c ≠ '$' := fun same => proper.noRoot (by rw [form, same]; rfl)
    have noPoint : c ≠ '.' := fun same =>
      proper.isKey_first.plain c (by rw [form]; exact List.mem_cons_self) (by simp [same])
    rw [body, form, List.cons_append, dropRoot_root s.root noDollar noPoint]
  have noPoints : ∀ piece ∈ s.pieces.map fun f => f.1.quoted f.2, '.' ∉ piece :=
    List.forall_mem_map.mpr fun f member => (proper.isKey_pieces f member).point_not_mem_quoted f.1
  have trimmed : (s.pieces.map fun f => f.1.quoted f.2).map (Text.trimWhere isQuote) =
      s.keys.map String.toList := by
    rw [keys_eq, List.map_map, List.map_map]
    exact List.map_congr_left fun f member => (proper.isKey_pieces f member).trimWhere_quoted f.1
  have filled : ∀ piece ∈ s.keys.map String.toList, (!piece.isEmpty) = true :=
    List.forall_mem_map.mpr fun key member => by
      simpa using (proper.isKey key member).toList_ne_nil
  rw [segments, proper.trimWhere_text, segmentLists, rooted, proper.bracketToPoint_body,
    Text.splitAt_eq_splitOn, List.splitOn_intercalate _ noPoints (List.cons_ne_nil _ _), trimmed,
    List.filter_eq_self.mpr filled, List.map_map]
  exact List.map_id'' (fun _ => String.ofList_toList) _

end Spelling

/-! ### Locations -/

/-- **Two path texts name the same location**: in every document the same is read there, written
and taken out. -/
structure SameLocation (p q : String) : Prop where
  reads : ∀ d : Value, d.at? p = d.at? q
  writes : ∀ d x : Value, d.write p x = d.write q x
  takes : ∀ d : Value, d.take p = d.take q

theorem sameLocation_of_segments {p q : String} (same : segments p = segments q) :
    SameLocation p q where
  reads d := by rw [Value.at?, Value.at?, same]
  writes d x := by rw [Value.write, Value.write, same]
  takes d := by rw [Value.take, Value.take, same]

/-- **All spellings of a location agree**: each has the keys of the location as its segments, and
they can be used for each other. -/
theorem spellings_agree {s : Spelling} (proper : s.Proper) :
    segments s.text = s.keys ∧
      ∀ t : Spelling, t.Proper → t.keys = s.keys → SameLocation s.text t.text := by
  refine ⟨proper.segments_text, fun t other sameKeys => sameLocation_of_segments ?_⟩
  rw [proper.segments_text, other.segments_text, sameKeys]

/-- A location in all notations, with blanks and dollars inside of its keys, and the same one with
points only. -/
theorem first_driver_spelled :
    let mixed : Spelling := ⟨" \t", .dollarPoint, "all drivers",
      [(.brackets, "0"), (.singleQuotes, "first $"), (.doubleQuotes, "$x"), (.point, "é")], "\n"⟩
    let plain : Spelling := ⟨"", .unwritten, "all drivers",
      [(.point, "0"), (.point, "first $"), (.point, "$x"), (.point, "é")], ""⟩
    mixed.text = " \t$.all drivers[0]['first $'][\"$x\"].é\n" ∧
      plain.text = "all drivers.0.first $.$x.é" ∧ mixed.Proper ∧ plain.Proper ∧
      segments mixed.text = ["all drivers", "0", "first $", "$x", "é"] ∧
      SameLocation mixed.text plain.text := by
  intro mixed plain
  have properMixed : mixed.Proper := ⟨by decide, by decide, by decide, by decide⟩
  have properPlain : plain.Proper := ⟨by decide, by decide, by decide, by decide⟩
  obtain ⟨spelled, alike⟩ := spellings_agree properMixed
  exact ⟨by decide, by decide, properMixed, properPlain, spelled, alike plain properPlain rfl⟩

end Interchange.Path
