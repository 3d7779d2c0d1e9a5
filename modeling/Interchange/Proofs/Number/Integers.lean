import Interchange.Proofs.Number.Decimal
import Interchange.Proofs.Number.Floats
import Interchange.Proofs.Number.ReadBack
/-!
# Integers that are read as numbers

Where a number is wanted, an integer may stand as a number or as the text of its digits.  Both are
read as the same float, which is the one that the integer is rounded to.

* `Numeral.float?_toString` — the digits of an integer denote its float.
* `Numeral.integer?_toString` — where an integer is wanted, they denote it.
* `Value.Denotes` — a value is an integer, as a number or as the text of its digits.
* `Value.Denotes.toNumber?_eq` — it is read as the float of the integer.
-/

namespace Interchange

/-! ### Numerals -/

namespace Numeral

/-- The first digit of a number is one with which a float may begin. -/
theorem begins_of_toDigits {n : Nat} {d : Char} {ds : List Char}
    (spelled : Nat.toDigits 10 n = d :: ds) : Begins d :=
  .inl (Json.all_isDigit_toDigits n d (spelled ▸ List.mem_cons_self))

/-- The sign is taken off the text of an integer, and its digits are left. -/
theorem sign_integerText (negative : Bool) (n : Nat) :
    sign (Json.integerText negative n) = (negative, Nat.toDigits 10 n) := by
  cases negative with
  | true => rfl
  | false =>
      obtain ⟨d, ds, spelled⟩ := Json.exists_toDigits_eq_cons n
      rw [Json.integerText, if_neg Bool.false_ne_true, spelled,
        sign_of_begins (begins_of_toDigits spelled)]

/-- The number that digits denote is its own float. -/
theorem nearest_zero {n : Nat} (word : n < 2 ^ 64) : nearest n 0 = Float.ofNat n := by
  unfold nearest
  split
  · next zero =>
      rw [zero]
      decide +kernel
  · have short : (Nat.toDigits 10 n).length ≤ 20 :=
      (Nat.length_toDigits_le_iff (by decide) (by decide)).mpr (Nat.lt_trans word (by decide))
    dsimp only
    rw [if_neg (by omega), if_neg (by omega), if_pos (Int.le_refl 0)]
    rfl

/-- The digits of a word are read as the float of the word. -/
theorem magnitude?_toDigits {n : Nat} (word : n < 2 ^ 64) :
    magnitude? (Nat.toDigits 10 n) = some (Float.ofNat n) := by
  have value : ofDigits (Nat.toDigits 10 n) = n := Nat.ofDigitChars_ten_toDigits
  rw [Decimal.magnitude?_digits (Json.all_isDigit_toDigits n) Nat.toDigits_ne_nil, value,
    nearest_zero word]

/-- **The digits of an integer denote its float.** -/
theorem float?_toString {a : Int} (word : a.natAbs < 2 ^ 64) :
    float? (toString a) = some (Float.ofInt a) := by
  have signed : Binary64.withSign (a < 0) (Float.ofNat a.natAbs) = Float.ofInt a := by
    cases a with
    | ofNat n => rfl
    | negSucc n =>
        rw [decide_eq_true (Int.negSucc_lt_zero n)]
        rfl
  obtain ⟨d, ds, spelled⟩ := Json.exists_toDigits_eq_cons a.natAbs
  have parted : sign (toString a).toList = (decide (a < 0), d :: ds) := by
    rw [toList_toString_int, sign_integerText, spelled]
  rw [float?_of_sign parted (begins_of_toDigits spelled), ← spelled, magnitude?_toDigits word,
    Option.map_some, signed]

/-- **The digits of an integer of a word denote it.** -/
theorem integer?_toString {a : Int} (word : -0x8000000000000000 ≤ a ∧ a < 0x8000000000000000) :
    integer? (toString a) = some a := by
  have value : ofDigits (Nat.toDigits 10 a.natAbs) = a.natAbs := Nat.ofDigitChars_ten_toDigits
  have filled : (Nat.toDigits 10 a.natAbs).isEmpty = false :=
    List.isEmpty_eq_false_iff.mpr Nat.toDigits_ne_nil
  have digits : (Nat.toDigits 10 a.natAbs).all Char.isDigit = true :=
    List.all_eq_true.mpr (Json.all_isDigit_toDigits _)
  have signed : (if decide (a < 0) = true then -(a.natAbs : Int) else a.natAbs) = a := by
    simp only [decide_eq_true_eq]
    split <;> omega
  simp only [integer?, toList_toString_int, sign_integerText, filled, digits, value, Bool.not_false,
    Bool.and_self, if_true, signed]
  simp [word]

end Numeral

/-! ### Integers as values -/

namespace Value

/-- **A value is an integer**, as a number or as the text of its digits. -/
inductive Denotes : Value → Int → Prop
  | num (a : Int) (inRange : -0x8000000000000000 ≤ a ∧ a < 0x10000000000000000) :
      Denotes (.num (.int a inRange)) a
  | str (a : Int) (inRange : -0x8000000000000000 ≤ a ∧ a < 0x10000000000000000) :
      Denotes (.str (toString a)) a

variable {v : Value} {a : Int}

/-- An integer that a value denotes fits in a word with its sign. -/
theorem Denotes.word (denotes : v.Denotes a) : a.natAbs < 2 ^ 64 := by
  cases denotes
  all_goals omega

/-- There are no blanks around the text of an integer. -/
theorem trim_toString (inRange : -0x8000000000000000 ≤ a ∧ a < 0x10000000000000000) :
    Text.trim (toString a) = toString a :=
  (Number.solid_render (.int a inRange)).trim

/-- The number that an integer is read as is its float. -/
theorem Denotes.toNumber?_eq (denotes : v.Denotes a) : v.toNumber? = some (Float.ofInt a) := by
  cases denotes with
  | num _ inRange => rfl
  | str _ inRange =>
      have word : a.natAbs < 2 ^ 64 := by omega
      rw [toNumber?, trim_toString inRange, Numeral.float?_toString word, Option.filter_some,
        if_pos (Binary64.isFinite_ofInt word)]

end Value

end Interchange
