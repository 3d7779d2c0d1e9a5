import Interchange.Mapping.DataType
import Interchange.Proofs.Text.Blank
/-!
# Numbers and their text

The text of an integer is its decimal digits, which the reader of JSON takes up one after the
other.  So an integer that a word holds is read back from its text.  A float is written with its
shortest digits and read by scaling, and whether that gives it back depends on the float.

* `Number.ReadsBack` — the number is read back from its text.
* `Number.readsBack_int` — integers are.
* `Number.numeric_render` — the characters of the text of a number, among them no blanks.
-/

namespace Interchange

/-- **A number is read back from its text.** -/
def Number.ReadsBack (n : Number) : Prop := Value.parse? n.render = some (.num n)

instance (n : Number) : Decidable n.ReadsBack :=
  inferInstanceAs (Decidable (Value.parse? n.render = some (.num n)))

namespace Json

/-! ### Digits -/

theorem le_ofDigitChars (ds : List Char) (significand : Nat) :
    significand ≤ Nat.ofDigitChars 10 ds significand := by
  induction ds generalizing significand with
  | nil => simp
  | cons d ds ih =>
      rw [Nat.ofDigitChars_cons]
      have more := ih (10 * significand + (d.toNat - '0'.toNat))
      omega

/-- Digits are taken up to the last one if a word holds the number that they denote. -/
theorem takeUp_of_lt {ds : List Char} {significand : Nat}
    (fits : Nat.ofDigitChars 10 ds significand < 0x10000000000000000) :
    takeUp significand ds = (Nat.ofDigitChars 10 ds significand, 0) := by
  induction ds generalizing significand with
  | nil => simp [takeUp]
  | cons d ds ih =>
      rw [Nat.ofDigitChars_cons] at fits ⊢
      rw [takeUp, if_pos (Nat.lt_of_le_of_lt (le_ofDigitChars ds _) fits), ih fits]

/-- The digits of a word are taken up, and none is dropped. -/
theorem takeUp_toDigits {n : Nat} (fits : n < 0x10000000000000000) :
    takeUp 0 (Nat.toDigits 10 n) = (n, 0) := by
  have value : Nat.ofDigitChars 10 (Nat.toDigits 10 n) 0 = n := Nat.ofDigitChars_ten_toDigits
  rw [takeUp_of_lt (value.symm ▸ fits), value]

/-- A number has a digit at least. -/
theorem exists_toDigits_eq_cons (n : Nat) : ∃ d ds, Nat.toDigits 10 n = d :: ds :=
  List.exists_cons_of_ne_nil Nat.toDigits_ne_nil

/-- Only zero begins with a zero. -/
theorem head?_toDigits {n : Nat} (positive : 0 < n) : (Nat.toDigits 10 n).head? ≠ some '0' := by
  induction n using Nat.strongRecOn with
  | ind n ih =>
      rw [Nat.toDigits_eq_if (by decide)]
      split
      · next small =>
          simp only [List.head?_cons, ne_eq, Option.some.injEq]
          intro zero
          have value := Nat.toNat_digitChar_sub_48_of_lt_ten small
          rw [zero] at value
          exact absurd value (Nat.ne_of_lt positive)
      · next large =>
          have lead := ih (n / 10) (by omega) (by omega)
          obtain ⟨d, ds, spelled⟩ := exists_toDigits_eq_cons (n / 10)
          rw [spelled] at lead ⊢
          exact lead

/-- The digits of a number are digits. -/
theorem all_isDigit_toDigits (n : Nat) : ∀ c ∈ Nat.toDigits 10 n, c.isDigit = true :=
  fun _ member => Nat.isDigit_of_mem_toDigits (by decide) (by decide) member

theorem takeWhile_isDigit_toDigits (n : Nat) :
    (Nat.toDigits 10 n).takeWhile Char.isDigit = Nat.toDigits 10 n := by
  rw [← List.append_nil (Nat.toDigits 10 n), List.takeWhile_append_of_pos (all_isDigit_toDigits n)]
  rfl

theorem dropWhile_isDigit_toDigits (n : Nat) :
    (Nat.toDigits 10 n).dropWhile Char.isDigit = [] := by
  rw [← List.append_nil (Nat.toDigits 10 n), List.dropWhile_append_of_pos (all_isDigit_toDigits n)]
  rfl

/-! ### Integers -/

/-- The text of an integer of some sign and size. -/
def integerText (negative : Bool) (n : Nat) : List Char :=
  if negative then '-' :: Nat.toDigits 10 n else Nat.toDigits 10 n

/-- The text of an integer is read up to its end. -/
theorem number_integerText (negative : Bool) (n : Nat) :
    number (integerText negative n) = (wholeShape negative (Nat.toDigits 10 n), some []) := by
  have digits := all_isDigit_toDigits n
  have taken := takeWhile_isDigit_toDigits n
  have dropped := dropWhile_isDigit_toDigits n
  have canonical : ¬ ((Nat.toDigits 10 n).head? = some '0' ∧ 1 < (Nat.toDigits 10 n).length) := by
    rcases Nat.eq_zero_or_pos n with rfl | positive
    · decide
    · exact fun leading => head?_toDigits positive leading.1
  cases negative with
  | true => simp [number, integerText, taken, dropped, canonical, exponentPart?]
  | false =>
      -- The reader looks for a sign first, so it has to see that the first digit is none.
      obtain ⟨d, ds, spelled⟩ := exists_toDigits_eq_cons n
      have unsigned : d ≠ '-' := by
        rintro rfl
        exact absurd (digits '-' (spelled ▸ List.mem_cons_self)) (by decide)
      rw [spelled] at taken dropped canonical
      simp [number, integerText, spelled, unsigned, taken, dropped, exponentPart?]
      exact fun zero long => absurd ⟨congrArg some zero, Nat.succ_lt_succ long⟩ canonical

/-- **An integer that a document can hold is read again** from its sign and its digits. -/
theorem wholeShape_natAbs (val : Int)
    (inRange : -0x8000000000000000 ≤ val ∧ val < 0x10000000000000000) :
    wholeShape (val < 0) (Nat.toDigits 10 val.natAbs) = .num (.int val inRange) := by
  have fits : val.natAbs < 0x10000000000000000 := by omega
  have regular : ¬ ((decide (0 ≠ 0) || (decide (val < 0) && decide (val.natAbs = 0))) = true) := by
    simp only [ne_eq, not_true_eq_false, decide_false, Bool.false_or, Bool.and_eq_true,
      decide_eq_true_eq]
    omega
  have signed : (if decide (val < 0) = true then -(val.natAbs : Int) else val.natAbs) = val := by
    simp only [decide_eq_true_eq]
    split <;> omega
  have held : Number.ofInt? val = some (.int val inRange) := dif_pos inRange
  simp only [wholeShape, takeUp_toDigits fits]
  rw [if_neg regular, signed, held]

/-- A text that begins like a number is left to the reader of numbers. -/
theorem element_of_numeral {c : Char} (lead : (c = '-' || c.isDigit) = true) (fuel depth : Nat)
    (cs : List Char) : element (fuel + 1) depth (c :: cs) = number (c :: cs) := by
  have solid : ¬ isBlank c = true := by
    intro blank
    simp only [isBlank, Bool.or_eq_true, decide_eq_true_eq] at blank
    rcases blank with ((rfl | rfl) | rfl) | rfl
    all_goals exact absurd lead (by decide)
  have skipped : skip (c :: cs) = c :: cs := List.dropWhile_cons_of_neg solid
  rw [element, skipped]
  split
  case h_7 => rfl
  all_goals
    next spelled =>
      obtain ⟨rfl, -⟩ := List.cons.inj spelled
      exact absurd lead (by decide)

end Json

/-- The text of an integer is its sign and its digits. -/
theorem toList_toString_int (val : Int) :
    (toString val).toList = Json.integerText (val < 0) val.natAbs := by
  rw [Int.toString_eq_repr, Int.repr_eq_if, Json.integerText]
  split
  · next nonnegative =>
      rw [if_neg (by simpa using nonnegative), Nat.toList_repr]
      congr 1
      omega
  · next negative =>
      rw [if_pos (by simpa using negative), String.toList_append, Nat.toList_repr]
      have size : (-val).toNat = val.natAbs := by omega
      rw [size]
      rfl

/-- The text of an integer begins with a minus or a digit. -/
theorem integerText_eq_cons (negative : Bool) (n : Nat) :
    ∃ c cs, Json.integerText negative n = c :: cs ∧ (c = '-' || c.isDigit) = true := by
  cases negative with
  | true => exact ⟨'-', _, rfl, rfl⟩
  | false =>
      obtain ⟨d, ds, spelled⟩ := Json.exists_toDigits_eq_cons n
      have digit := Json.all_isDigit_toDigits n d (spelled ▸ List.mem_cons_self)
      exact ⟨d, ds, spelled, by simp [digit]⟩

/-- **An integer is read back from its text.** -/
theorem Number.readsBack_int (val : Int)
    (inRange : -0x8000000000000000 ≤ val ∧ val < 0x10000000000000000) :
    (Number.int val inRange).ReadsBack := by
  obtain ⟨c, cs, spelled, lead⟩ := integerText_eq_cons (val < 0) val.natAbs
  have text : (Number.int val inRange).render.toList = c :: cs :=
    (toList_toString_int val).trans spelled
  have shaped : Json.shape (Number.int val inRange).render = (.num (.int val inRange), true) := by
    simp only [Json.shape, text]
    rw [Json.element_of_numeral lead, ← spelled, Json.number_integerText, Json.wholeShape_natAbs]
    rfl
  rw [ReadsBack, Value.parse?, shaped]
  rfl

/-- Integers have different texts. -/
theorem toString_int_inj {a b : Int} (first : -0x8000000000000000 ≤ a ∧ a < 0x10000000000000000)
    (second : -0x8000000000000000 ≤ b ∧ b < 0x10000000000000000) (same : toString a = toString b) :
    a = b := by
  have read : Value.parse? (toString a) = some (.num (.int a first)) := Number.readsBack_int a first
  have read' : Value.parse? (toString b) = some (.num (.int b second)) :=
    Number.readsBack_int b second
  rw [same, read'] at read
  injection read with read
  injection read with read
  injection read with read
  exact read.symm

/-! ### Characters -/

open Text

/-- The characters of which the texts of numbers are made, and perhaps others. -/
def isNumeric (c : Char) : Bool := c.isAlphanum || c = '+' || c = '-' || c = '.'

/-- They lie between the signs and the small letters, the marks of comparison left out. -/
theorem toNat_of_isNumeric {c : Char} (numeric : isNumeric c = true) :
    (43 ≤ c.toNat ∧ c.toNat ≤ 57) ∨ (65 ≤ c.toNat ∧ c.toNat ≤ 122) := by
  have code : c.val.toNat = c.toNat := rfl
  have ranges : isNumeric c = (decide (c.val ≥ 65 ∧ c.val ≤ 90) || (c.val ≥ 97 && c.val ≤ 122) ||
      (c.val ≥ 48 && c.val ≤ 57) || c = '+' || c = '-' || c = '.') := rfl
  simp only [ranges, Bool.or_eq_true, Bool.and_eq_true, decide_eq_true_eq, ge_iff_le,
    UInt32.le_iff_toNat_le, code] at numeric
  rcases numeric with ((((upper | lower) | digit) | rfl) | rfl) | rfl
  · exact .inr ⟨upper.1, Nat.le_trans upper.2 (show 90 ≤ 122 by decide)⟩
  · exact .inr ⟨Nat.le_trans (show 65 ≤ 97 by decide) lower.1, lower.2⟩
  · exact .inl ⟨Nat.le_trans (show 43 ≤ 48 by decide) digit.1, digit.2⟩
  all_goals decide

/-- No character of a number is a blank. -/
theorem not_isBlank_of_isNumeric {c : Char} (numeric : isNumeric c = true) : isBlank c = false := by
  have code := toNat_of_isNumeric numeric
  simp [isBlank]
  omega

/-- Digits are characters of numbers, -/
theorem numeric_toDigits (n : Nat) : ∀ c ∈ Nat.toDigits 10 n, isNumeric c = true := by
  intro c member
  simp [isNumeric, Char.isAlphanum, Json.all_isDigit_toDigits n c member]

/-- and so are those of a number with a point, -/
theorem numeric_positional {digits : List Char} (numeric : ∀ c ∈ digits, isNumeric c = true)
    (pointZero : Bool) (e : Int) : ∀ c ∈ positional pointZero digits e, isNumeric c = true := by
  have zero : isNumeric '0' = true := by decide
  have point : isNumeric '.' = true := by decide
  have zeros : ∀ (n : Nat), ∀ c ∈ List.replicate n '0', isNumeric c = true := fun n c member =>
    List.eq_of_mem_replicate member ▸ zero
  unfold positional
  dsimp only
  split
  · simp only [List.forall_mem_cons, List.forall_mem_append]
    exact ⟨zero, point, zeros _, numeric⟩
  split
  · simp only [List.forall_mem_append]
    refine ⟨⟨numeric, zeros _⟩, ?_⟩
    cases pointZero with
    | true => simp [zero, point]
    | false => simp
  · simp only [List.forall_mem_cons, List.forall_mem_append]
    exact ⟨fun c member => numeric c (List.mem_of_mem_take member), point,
      fun c member => numeric c (List.mem_of_mem_drop member)⟩

/-- those of a number with an exponent, -/
theorem numeric_scientific {digits : List Char} (numeric : ∀ c ∈ digits, isNumeric c = true)
    (plus : Bool) (e : Int) : ∀ c ∈ scientific plus digits e, isNumeric c = true := by
  have point : isNumeric '.' = true := by decide
  have mark : isNumeric 'e' = true := by decide
  have sign : ∀ c ∈ (if e < 0 then ['-'] else if plus then ['+'] else []), isNumeric c = true := by
    repeat' split
    all_goals exact List.all_eq_true.mp (by decide)
  unfold scientific
  simp only [List.forall_mem_append, List.forall_mem_cons]
  refine ⟨⟨?_, mark, sign⟩, numeric_toDigits _⟩
  split
  · exact List.forall_mem_nil _
  · exact numeric
  · rw [List.forall_mem_cons] at numeric
    simp only [List.forall_mem_cons]
    exact ⟨numeric.1, point, numeric.2⟩

/-- and with that those of every float. -/
theorem numeric_float (x : Float) :
    ∀ c ∈ (FloatLayout.json.render x).toList, isNumeric c = true := by
  have sign : ∀ c ∈ (if Binary64.signBit x then ['-'] else []), isNumeric c = true := by
    split
    all_goals exact List.all_eq_true.mp (by decide)
  unfold FloatLayout.render
  dsimp only
  split
  · exact List.all_eq_true.mp (by decide)
  split
  · rw [String.toList_ofList, List.forall_mem_append]
    exact ⟨sign, List.all_eq_true.mp (by decide)⟩
  split
  · rw [String.toList_ofList, List.forall_mem_append]
    exact ⟨sign, List.all_eq_true.mp (by decide)⟩
  · rw [String.toList_ofList, List.forall_mem_append]
    refine ⟨sign, ?_⟩
    split
    · exact numeric_positional (numeric_toDigits _) _ _
    · exact numeric_scientific (numeric_toDigits _) _ _

/-- **The text of a number holds letters, digits, signs and points only.** -/
theorem Number.numeric_render (n : Number) : ∀ c ∈ n.render.toList, isNumeric c = true := by
  cases n with
  | int val inRange =>
      rw [Number.render, toList_toString_int]
      unfold Json.integerText
      split
      · rw [List.forall_mem_cons]
        exact ⟨by decide, numeric_toDigits _⟩
      · exact numeric_toDigits _
  | float x finite => exact numeric_float x

/-- **There are no blanks in the text of a number.** -/
theorem Number.solid_render (n : Number) : Solid n.render.toList :=
  fun c member => not_isBlank_of_isNumeric (n.numeric_render c member)

end Interchange
