import Interchange.Number.Numeral
import Mathlib.Data.List.TakeWhile
/-!
# Decimals

Numerals without a sign and an exponent: digits with at most one point among them, or before or
after all of them.  Every decimal denotes a number, which is the one nearest to its digits, scaled
by as many tens as there are digits behind the point.

* `Numeral.Decimal` — the digits before and behind the point.
* `Numeral.float?_decimal` — what a decimal denotes.
-/

namespace Interchange.Numeral

/-- **A decimal**: the digits before the point, and those behind it if there is a point. -/
structure Decimal where
  whole : List Char
  behind? : Option (List Char)

namespace Decimal

/-- The digits behind the point. -/
def behind (d : Decimal) : List Char := d.behind?.getD []

/-- The characters of a decimal. -/
def chars (d : Decimal) : List Char := d.whole ++ (d.behind?.elim [] ('.' :: ·))

/-- All digits are digits, and there is one on some side of the point. -/
structure Proper (d : Decimal) : Prop where
  whole : ∀ c ∈ d.whole, c.isDigit = true
  behind : ∀ c ∈ d.behind, c.isDigit = true
  filled : d.whole ≠ [] ∨ d.behind ≠ []

/-- **The number that a decimal denotes.** -/
def value (d : Decimal) : Float := nearest (ofDigits (d.whole ++ d.behind)) (-d.behind.length)

variable {d : Decimal}

/-- A decimal begins with a digit, or with a point and a digit. -/
theorem Proper.begun (proper : d.Proper) : ∃ c cs, d.chars = c :: cs ∧
    (c.isDigit = true ∨ c = '.' ∧ ∃ e ds, cs = e :: ds ∧ e.isDigit = true) := by
  obtain ⟨whole, behind?⟩ := d
  cases whole with
  | cons c cs => exact ⟨c, _, rfl, .inl (proper.whole c List.mem_cons_self)⟩
  | nil =>
      cases behind? with
      | none => exact absurd rfl (proper.filled.resolve_left (absurd rfl))
      | some behind =>
          obtain ⟨e, ds, rfl⟩ :=
            List.exists_cons_of_ne_nil (proper.filled.resolve_left (absurd rfl))
          exact ⟨'.', e :: ds, rfl, .inr ⟨rfl, e, ds, rfl, proper.behind e List.mem_cons_self⟩⟩

/-- Digits are taken up to what is none. -/
theorem takeWhile_isDigit {ds : List Char} (digits : ∀ c ∈ ds, c.isDigit = true) :
    ds.takeWhile Char.isDigit = ds ∧ ds.dropWhile Char.isDigit = [] :=
  ⟨List.takeWhile_eq_self_iff.mpr digits, List.dropWhile_eq_nil_iff.mpr digits⟩

theorem magnitude?_digits {whole : List Char} (digits : ∀ c ∈ whole, c.isDigit = true)
    (filled : whole ≠ []) : magnitude? whole = some (nearest (ofDigits whole) 0) := by
  simp [magnitude?, takeWhile_isDigit digits, filled, exponent?]

theorem magnitude?_point {whole behind : List Char} (digits : ∀ c ∈ whole, c.isDigit = true)
    (further : ∀ c ∈ behind, c.isDigit = true) (filled : whole ≠ [] ∨ behind ≠ []) :
    magnitude? (whole ++ '.' :: behind) =
      some (nearest (ofDigits (whole ++ behind)) (-behind.length)) := by
  have taken : (whole ++ '.' :: behind).takeWhile Char.isDigit = whole := by
    rw [List.takeWhile_append_of_pos digits, List.takeWhile_cons_of_neg (by decide),
      List.append_nil]
  have dropped : (whole ++ '.' :: behind).dropWhile Char.isDigit = '.' :: behind := by
    rw [List.dropWhile_append_of_pos digits, List.dropWhile_cons_of_neg (by decide)]
  have some_digit : ¬ (whole = [] ∧ behind = []) := fun none =>
    filled.elim (absurd none.1) (absurd none.2)
  simp [magnitude?, taken, dropped, takeWhile_isDigit further, some_digit, exponent?]

theorem Proper.magnitude?_chars (proper : d.Proper) : magnitude? d.chars = some d.value := by
  obtain ⟨whole, behind?⟩ := d
  obtain ⟨digits, further, filled⟩ := proper
  cases behind? with
  | none =>
      have read := magnitude?_digits digits (filled.resolve_right (absurd rfl))
      simpa [chars, value, Decimal.behind] using read
  | some behind => exact magnitude?_point digits further filled

end Decimal

/-- The characters that decimals begin with. -/
def Begins (c : Char) : Prop := c.isDigit = true ∨ c = '.'

theorem toLower_of_begins {c : Char} (begins : Begins c) : c.toLower = c := by
  rcases begins with digit | rfl
  · simp only [Char.isDigit, Bool.and_eq_true, decide_eq_true_eq] at digit
    exact dif_neg fun upper => absurd (UInt32.le_trans upper.1 digit.2) (by decide)
  · decide

/-- What begins like a decimal is none of the names of special values. -/
theorem toLower_ne_of_begins {c : Char} (begins : Begins c) (cs : List Char) :
    ∀ name ∈ ["inf", "infinity", "nan"], String.ofList ((c :: cs).map Char.toLower) ≠ name := by
  have letters : ∀ name ∈ ["inf", "infinity", "nan"],
      name.toList.head?.all (fun d => !d.isDigit && d ≠ '.') = true := by decide
  rintro _ member rfl
  have letter := letters _ member
  rw [String.toList_ofList, List.map_cons, toLower_of_begins begins] at letter
  rcases begins with digit | rfl
  · simp [digit] at letter
  · simp at letter

theorem sign_of_begins {c : Char} (begins : Begins c) (cs : List Char) :
    sign (c :: cs) = (false, c :: cs) := by
  unfold sign
  split
  · next same =>
      obtain ⟨rfl, -⟩ := List.cons.inj same
      exact absurd begins (by unfold Begins; decide)
  · next same =>
      obtain ⟨rfl, -⟩ := List.cons.inj same
      exact absurd begins (by unfold Begins; decide)
  · rfl

/-- The names of special values apart, a text denotes what its magnitude does, with its sign. -/
theorem float?_of_sign {s : String} {negative : Bool} {c : Char} {cs : List Char}
    (signed : sign s.toList = (negative, c :: cs)) (begins : Begins c) :
    float? s = (magnitude? (c :: cs)).map (Binary64.withSign negative) := by
  have unnamed := toLower_ne_of_begins begins cs
  simp only [float?, signed, unnamed "inf" (by decide), unnamed "infinity" (by decide),
    unnamed "nan" (by decide), decide_false, Bool.or_false, Bool.false_eq_true, if_false]

/-- **Every decimal denotes a number.** -/
theorem float?_decimal {d : Decimal} (proper : d.Proper) :
    float? (String.ofList d.chars) = some d.value := by
  obtain ⟨c, cs, spelled, begun⟩ := proper.begun
  have begins : Begins c := begun.imp_right And.left
  have magnitude := proper.magnitude?_chars
  rw [spelled] at magnitude ⊢
  rw [float?_of_sign (by rw [String.toList_ofList, sign_of_begins begins]) begins, magnitude]
  rfl

end Interchange.Numeral
