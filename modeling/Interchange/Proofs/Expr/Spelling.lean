import Interchange.Proofs.Expr.Numeric
import Interchange.Proofs.Number.Decimal
import Interchange.Proofs.Number.ReadBack
/-!
# Written tokens

A token may be written in several ways: equality with two signs or three, a text in either quote
that it lacks, a number with or without digits on a side of its point.  Tokens that are written with
blanks between them are read back, whatever they are and however they are written: a token is read
up to its end, since nothing before its end stops the reader and a blank does.

* `Lexeme`, `Lexeme.token` — a written token, and the token that it is.
* `Lexeme.Proper.read` — a written token is read up to its end.
* `Written`, `Written.scan` — written tokens with blanks between them are read one by one.
* `tokenize_written` — a text gives back the tokens of which it was written.
-/

namespace Interchange.Expr

open Text Numeral

/-! ### How tokens are written -/

/-- The signs, as they are written. -/
def signs : List (String × Token) :=
  [("+", .plus), ("-", .minus), ("*", .star), ("/", .slash), ("%", .percent), ("(", .openParen),
    (")", .closeParen), ("<", .less), ("<=", .lessEqual), (">", .greater), (">=", .greaterEqual),
    ("==", .equal), ("===", .equal), ("!=", .notEqual), ("!==", .notEqual), ("!", .not),
    ("&&", .and), ("||", .or)]

/-- **A written token**: a decimal, a text in quotes, a name or a sign. -/
inductive Lexeme
  | number (d : Decimal)
  | text (quote : Char) (content : String)
  | name (first : Char) (others : List Char)
  | sign (written : String) (t : Token)

namespace Lexeme

/-- The characters of a written token. -/
def chars : Lexeme → List Char
  | number d => d.chars
  | text quote content => quote :: (content.toList ++ [quote])
  | name first others => first :: others
  | sign written _ => written.toList

/-- The token that is written. -/
def token : Lexeme → Token
  | number d => .number d.value
  | text _ content => .text content
  | name first others => .name (String.ofList (first :: others))
  | sign _ t => t

/-- **The ways in which tokens may be written**: with a decimal that has a digit, in a quote that
the text lacks, with the characters of names, or with one of the signs. -/
inductive Proper : Lexeme → Prop
  | number {d : Decimal} (proper : d.Proper) : Proper (number d)
  | text {quote : Char} {content : String} (isQuote : Token.isQuote quote = true)
      (lacks : quote ∉ content.toList) : Proper (text quote content)
  | name {first : Char} {others : List Char} (begins : Token.beginsName first = true)
      (further : ∀ c ∈ others, Token.isNameChar c = true) : Proper (name first others)
  | sign {written : String} {t : Token} (listed : (written, t) ∈ signs) : Proper (sign written t)

end Lexeme

/-- **Written tokens with blanks between them**, and perhaps behind the last one. -/
inductive Written : List Lexeme → List Char → Prop
  | nil : Written [] []
  | cons {l : Lexeme} {ls : List Lexeme} {blanks rest : List Char} (proper : l.Proper)
      (blank : ∀ c ∈ blanks, isBlank c = true) (apart : ls ≠ [] → blanks ≠ [])
      (others : Written ls rest) : Written (l :: ls) (l.chars ++ (blanks ++ rest))

/-! ### One token -/

/-- A token ends where a blank follows, or nothing. -/
def Ends (rest : List Char) : Prop := ∀ c ∈ rest.head?, isBlank c = true

/-- Characters that are no blanks are taken up to the end of the token. -/
theorem Ends.takeWhile_append {rest : List Char} (ends : Ends rest) {p : Char → Bool}
    (unblank : ∀ c, p c = true → isBlank c = false) {cs : List Char} (run : ∀ c ∈ cs, p c = true) :
    (cs ++ rest).takeWhile p = cs := by
  rw [List.takeWhile_append_of_pos run]
  cases rest with
  | nil => exact List.append_nil cs
  | cons b rest =>
      rw [List.takeWhile_cons_of_neg, List.append_nil]
      intro further
      exact absurd (ends b rfl) (by simp [unblank b further])

namespace Token

theorem not_isBlank_of_isNumeral (c : Char) (numeral : isNumeral c = true) : isBlank c = false := by
  refine not_isBlank_of_isNumeric ?_
  simp only [isNumeral, Bool.or_eq_true, decide_eq_true_eq] at numeral
  rcases numeral with digit | point <;> simp [isNumeric, Char.isAlphanum, *]

theorem not_isBlank_of_isNameChar (c : Char) (nameChar : isNameChar c = true) :
    isBlank c = false := by
  simp only [isNameChar, Bool.or_eq_true, decide_eq_true_eq] at nameChar
  rcases nameChar with alphanumeric | rfl
  · exact not_isBlank_of_isNumeric (by simp [isNumeric, alphanumeric])
  · decide

theorem isNameChar_of_beginsName {c : Char} (begins : beginsName c = true) :
    isNameChar c = true := by
  simp only [beginsName, Bool.or_eq_true] at begins
  rcases begins with alpha | underscore <;> simp [isNameChar, Char.isAlphanum, *]

theorem isNumeral_of_decimal {d : Decimal} (proper : d.Proper) :
    ∀ c ∈ d.chars, isNumeral c = true := by
  have digit : ∀ c : Char, c.isDigit = true → isNumeral c = true := fun c digit => by
    rw [isNumeral, digit, Bool.true_or]
  obtain ⟨whole, behind?⟩ := d
  refine List.forall_mem_append.mpr ⟨fun c member => digit c (proper.whole c member), ?_⟩
  cases behind? with
  | none => exact List.forall_mem_nil _
  | some behind =>
      exact List.forall_mem_cons.mpr
        ⟨by decide, fun c member => digit c (proper.behind c member)⟩

theorem beginsNumber_of_decimal {d : Decimal} (proper : d.Proper) {c : Char} {cs : List Char}
    (spelled : d.chars = c :: cs) (rest : List Char) : beginsNumber c (cs ++ rest) = true := by
  obtain ⟨c', cs', spelled', begun⟩ := proper.begun
  obtain ⟨rfl, rfl⟩ := List.cons.inj (spelled.symm.trans spelled')
  rcases begun with digit | ⟨rfl, e, ds, rfl, digit⟩
  · rw [beginsNumber, digit, Bool.true_or]
  · simp [beginsNumber, digit]

section Read

variable (position : Nat) {c : Char} {cs rest : List Char}

theorem read_decimal {d : Decimal} (proper : d.Proper) (spelled : d.chars = c :: cs)
    (ends : Ends rest) :
    read position c (cs ++ rest) = .ok (some (.number d.value), cs.length) := by
  have numerals : ∀ e ∈ c :: cs, isNumeral e = true := spelled ▸ isNumeral_of_decimal proper
  rw [List.forall_mem_cons] at numerals
  have begins : beginsNumber c (cs ++ rest) = true := beginsNumber_of_decimal proper spelled rest
  have run : (cs ++ rest).takeWhile isNumeral = cs :=
    ends.takeWhile_append not_isBlank_of_isNumeral numerals.2
  have value : float? (String.ofList (c :: cs)) = some d.value := spelled ▸ float?_decimal proper
  rw [read, if_neg (by simp [not_isBlank_of_isNumeral c numerals.1]), if_pos begins]
  dsimp only
  rw [run, value]

theorem read_name (begins : beginsName c = true) (further : ∀ e ∈ cs, isNameChar e = true)
    (ends : Ends rest) :
    read position c (cs ++ rest) = .ok (some (.name (String.ofList (c :: cs))), cs.length) := by
  have unblank := not_isBlank_of_isNameChar c (isNameChar_of_beginsName begins)
  have noNumber : ¬ beginsNumber c (cs ++ rest) = true := fun number =>
    absurd begins (by simp [(standsAlone_of_beginsNumber number).1])
  have run : (cs ++ rest).takeWhile isNameChar = cs :=
    ends.takeWhile_append not_isBlank_of_isNameChar further
  rw [read, if_neg (by simp [unblank]), if_neg noNumber, if_pos begins]
  dsimp only
  rw [run]

/-- A text ends at its quote, whatever follows. -/
theorem read_text (isQuote : isQuote c = true) (lacks : c ∉ cs) :
    read position c (cs ++ [c] ++ rest) =
      .ok (some (.text (String.ofList cs)), (cs ++ [c]).length) := by
  have others : isBlank c = false ∧ c.isDigit = false ∧ c ≠ '.' ∧ beginsName c = false := by
    simp only [Token.isQuote, Bool.or_eq_true, decide_eq_true_eq] at isQuote
    rcases isQuote with rfl | rfl <;> decide
  obtain ⟨unblank, noDigit, noPoint, noName⟩ := others
  have content : ∀ e ∈ cs, decide (e ≠ c) = true := fun e member =>
    decide_eq_true fun same => lacks (same ▸ member)
  have inner : (cs ++ [c] ++ rest).takeWhile (· ≠ c) = cs := by
    rw [List.append_assoc, List.takeWhile_append_of_pos content, List.singleton_append,
      List.takeWhile_cons_of_neg (by simp), List.append_nil]
  rw [read, if_neg (by simp [unblank]), if_neg (by simp [beginsNumber, noDigit, noPoint]),
    if_neg (by simp [noName]), if_pos isQuote]
  dsimp only
  rw [inner, if_pos (by simp), List.length_append, List.length_singleton]

/-- What begins a sign begins nothing else. -/
theorem begins_of_sign? {t : Token} {more : Nat} (sign : sign? c cs = some (t, more)) :
    isBlank c = false ∧ isNumeral c = false ∧ StandsAlone c := by
  unfold sign? at sign
  split at sign <;> first | decide | cases sign

theorem read_of_sign? {t : Token} {more : Nat} (sign : sign? c cs = some (t, more)) :
    read position c cs = .ok (some t, more) := by
  obtain ⟨unblank, noNumeral, noName, noQuote⟩ := begins_of_sign? sign
  have noNumber : beginsNumber c cs = false := by
    simp only [isNumeral, Bool.or_eq_false_iff, decide_eq_false_iff_not] at noNumeral
    simp [beginsNumber, noNumeral]
  rw [read, if_neg (by simp [unblank]), if_neg (by simp [noNumber]), if_neg (by simp [noName]),
    if_neg (by simp [noQuote]), sign]

/-- Some signs begin like longer ones, which would go on with an equals sign. -/
theorem sign?_of_mem_signs (ends : Ends rest) : ∀ l ∈ signs, ∃ c cs,
    l.1.toList = c :: cs ∧ sign? c (cs ++ rest) = some (l.2, cs.length) := by
  have single : ∀ tail, rest = '=' :: tail → False := by
    rintro tail rfl
    exact absurd (ends '=' rfl) (by decide)
  have double : ∀ tail, rest = '=' :: '=' :: tail → False := fun tail => single ('=' :: tail)
  simp [signs, sign?]

end Read

end Token

/-- **A written token is read up to its end.** -/
theorem Lexeme.Proper.read {l : Lexeme} (proper : l.Proper) {rest : List Char} (ends : Ends rest) :
    ∃ c cs, l.chars = c :: cs ∧
      ∀ position, Token.read position c (cs ++ rest) = .ok (some l.token, cs.length) := by
  cases proper with
  | @number d proper =>
      obtain ⟨c, cs, spelled, -⟩ := proper.begun
      exact ⟨c, cs, spelled, fun position => Token.read_decimal position proper spelled ends⟩
  | @text quote content isQuote lacks =>
      refine ⟨quote, content.toList ++ [quote], rfl, fun position => ?_⟩
      rw [Token.read_text position isQuote lacks, String.ofList_toList]
      rfl
  | @name first others begins further =>
      exact ⟨first, others, rfl, fun position => Token.read_name position begins further ends⟩
  | @sign written t listed =>
      obtain ⟨c, cs, spelled, signed⟩ := Token.sign?_of_mem_signs ends (written, t) listed
      exact ⟨c, cs, spelled, fun position => Token.read_of_sign? position signed⟩

/-! ### All tokens -/

/-- Blanks are passed over. -/
theorem Token.scan_blanks {blanks : List Char} (blank : ∀ c ∈ blanks, isBlank c = true)
    {rest : List Char} {ts : List Token} (scanned : ∀ position, scan position rest = .ok ts) :
    ∀ position, scan position (blanks ++ rest) = .ok ts := by
  induction blanks with
  | nil => exact scanned
  | cons b blanks ih =>
      rw [List.forall_mem_cons] at blank
      intro position
      have passed : read position b (blanks ++ rest) = .ok (none, 0) := if_pos blank.1
      exact scan_of_read passed (ih blank.2 _)

/-- Behind a token a blank follows, or nothing. -/
theorem Written.ends {ls : List Lexeme} {blanks rest : List Char} (others : Written ls rest)
    (blank : ∀ c ∈ blanks, isBlank c = true) (apart : ls ≠ [] → blanks ≠ []) :
    Ends (blanks ++ rest) := by
  cases blanks with
  | cons b blanks =>
      rintro _ ⟨⟩
      exact blank b List.mem_cons_self
  | nil =>
      cases others with
      | nil => nofun
      | cons => exact absurd rfl (apart (List.cons_ne_nil _ _))

/-- **Written tokens are read one by one**, wherever they stand. -/
theorem Written.scan {ls : List Lexeme} {cs : List Char} (written : Written ls cs) :
    ∀ position, Token.scan position cs = .ok (ls.map Lexeme.token) := by
  induction written with
  | nil => exact Token.scan_nil
  | @cons l ls blanks rest proper blank apart others ih =>
      intro position
      obtain ⟨c, cs, spelled, read⟩ := proper.read (others.ends blank apart)
      rw [spelled, List.cons_append]
      refine Token.scan_of_read (read position) ?_
      rw [List.drop_left]
      exact Token.scan_blanks blank ih _

theorem Written.proper {ls : List Lexeme} {cs : List Char} (written : Written ls cs) :
    ∀ l ∈ ls, l.Proper := by
  induction written with
  | nil => exact List.forall_mem_nil _
  | cons proper _ _ _ ih => exact List.forall_mem_cons.mpr ⟨proper, ih⟩

/-- **A text gives back the tokens of which it was written**, and its numbers are those that their
digits denote. -/
theorem tokenize_written {ls : List Lexeme} {lead cs : List Char}
    (blank : ∀ c ∈ lead, isBlank c = true) (written : Written ls cs) :
    tokenize (String.ofList (lead ++ cs)) = .ok (ls.map Lexeme.token) ∧
      ∀ d, .number d ∈ ls → float? (String.ofList d.chars) = some d.value := by
  constructor
  · rw [tokenize, String.toList_ofList, Token.scan_blanks blank written.scan]
    rfl
  · intro d member
    cases written.proper _ member with
    | number proper => exact float?_decimal proper

/-- A condition in mixed spellings. -/
theorem condition_written :
    let half : Decimal := ⟨[], some ['5']⟩
    let one : Decimal := ⟨['1'], some []⟩
    let ls : List Lexeme := [.number half, .sign "!==" .notEqual, .text '"' "o'c",
      .sign "<" .less, .name 'a' ['_'], .sign "==" .equal, .number one]
    let cs := ['.', '5', ' ', '!', '=', '=', '\t', '"', 'o', '\'', 'c', '"', '\n', '<', ' ', ' ',
      'a', '_', ' ', '=', '=', ' ', '1', '.']
    (∀ c ∈ [' '], isBlank c = true) ∧ Written ls cs ∧
      tokenize " .5 !==\t\"o'c\"\n<  a_ == 1." = .ok [.number half.value, .notEqual,
        .text "o'c", .less, .name "a_", .equal, .number one.value] ∧
      float? ".5" = some half.value ∧ float? "1." = some one.value := by
  intro half one ls cs
  have space : ∀ c ∈ [' '], isBlank c = true := List.all_eq_true.mp (by decide)
  have properHalf : half.Proper := ⟨nofun, List.all_eq_true.mp (by decide), .inr (by decide)⟩
  have properOne : one.Proper := ⟨List.all_eq_true.mp (by decide), nofun, .inl (by decide)⟩
  have written : Written ls cs :=
    @Written.cons _ _ [' '] _ (.number properHalf) space nofun <|
    @Written.cons _ _ ['\t'] _ (.sign (by decide)) (List.all_eq_true.mp (by decide)) nofun <|
    @Written.cons _ _ ['\n'] _ (.text (by decide) (by decide))
      (List.all_eq_true.mp (by decide)) nofun <|
    @Written.cons _ _ [' ', ' '] _ (.sign (by decide)) (List.all_eq_true.mp (by decide)) nofun <|
    @Written.cons _ _ [' '] _ (.name (by decide) (List.all_eq_true.mp (by decide))) space nofun <|
    @Written.cons _ _ [' '] _ (.sign (by decide)) space nofun <|
    @Written.cons _ _ [] _ (.number properOne) nofun (absurd rfl) .nil
  obtain ⟨tokens, values⟩ := tokenize_written space written
  exact ⟨space, written, tokens, values half (by simp [ls]), values one (by simp [ls])⟩

end Interchange.Expr
