import Interchange.Mapping.Transformation
import Interchange.Proofs.Number.Integers
import Interchange.Proofs.Number.Whole
/-!
# Integers where a number is wanted

Every number passes through a float.  An integer of less than 54 bits is found again behind it; a
larger one is given out as the float that it was rounded to, whether or not it was changed by that.

* `Value.asNumber` — what becomes of an integer.
* `Value.ofNumber?_ofInt`, `Value.ofNumber?_truncate_ofInt` — behind its float, with and without
  what is below the point, an integer is found as this.
* `Value.Denotes.kept_iff_isSafe` — the transformation and both types keep an integer exactly if it
  is of safe size.
-/

namespace Interchange

open Binary64 (nearest nearestNat)

namespace Value

variable {v : Value} {x : Float} {a b : Int}

/-- **An integer is of safe size**: floats tell it from all others. -/
def IsSafe (a : Int) : Prop := -safeInteger ≤ a ∧ a ≤ safeInteger

instance (a : Int) : Decidable (IsSafe a) := inferInstanceAs (Decidable (_ ∧ _))

/-- The safe integers are those of 53 binary digits at most. -/
theorem isSafe_iff : IsSafe a ↔ a.natAbs < 2 ^ 53 := by
  unfold IsSafe safeInteger
  omega

/-- Rounding leads to no safe integer but from itself. -/
theorem isSafe_nearest : IsSafe (nearest a) ↔ IsSafe a := by
  rw [isSafe_iff, isSafe_iff, Binary64.natAbs_nearest]
  constructor
  · intro small
    exact Nat.lt_of_not_le fun large => Nat.not_le_of_lt small (Binary64.le_nearestNat large)
  · intro small
    rwa [Binary64.nearestNat_eq_self (Nat.le_of_lt small)]

/-! ### From floats to values -/

/-- An integer that a document can hold stands in it as it is. -/
theorem ofInt_eq (inRange : -0x8000000000000000 ≤ a ∧ a < 0x10000000000000000) :
    ofInt a = .num (.int a inRange) := by
  rw [ofInt, Number.ofInt?, dif_pos inRange, Option.elim_some]

theorem ofFloat_eq (finite : x.isFinite = true) : ofFloat x = .num (.float x finite) := by
  rw [ofFloat, Number.ofFloat?, dif_pos finite, Option.elim_some]

/-- A float that is a safe integer is held as that integer. -/
theorem ofNumber?_of_isSafe (whole : Binary64.toInt? x = some a) (safe : IsSafe a) :
    ofNumber? x = some (ofInt a) := by
  simp only [ofNumber?, whole]
  exact if_pos safe

/-- A float that is no integer of safe size stays a float. -/
theorem ofNumber?_of_not_isSafe (finite : x.isFinite = true)
    (beyond : ∀ a, Binary64.toInt? x = some a → ¬ IsSafe a) : ofNumber? x = some (ofFloat x) := by
  have float : (Number.ofFloat? x).map num = some (ofFloat x) := by
    rw [ofFloat, Number.ofFloat?, dif_pos finite, Option.map_some, Option.elim_some]
  unfold ofNumber?
  split
  · next a whole =>
      rw [← float]
      exact if_neg (beyond a whole)
  · exact float

/-! ### What becomes of an integer -/

/-- **What becomes of an integer** where a number is wanted: itself, or the float that it is rounded
to. -/
def asNumber (a : Int) : Value := if IsSafe a then ofInt a else ofFloat (Float.ofInt a)

/-- A float that is what an integer is rounded to is held as the value that is told of the
integer. -/
theorem asNumber_of_denotes (denotes : Binary64.Denotes x (nearest a)) (safe : IsSafe a) :
    ofNumber? x = some (asNumber a) := by
  have small : a.natAbs ≤ 2 ^ 53 := Nat.le_of_lt (isSafe_iff.mp safe)
  rw [Binary64.nearest_eq_self small] at denotes
  rw [asNumber, if_pos safe]
  exact ofNumber?_of_isSafe denotes.toInt?_eq safe

/-- So is the float that is made of it. -/
theorem ofNumber?_ofInt (word : a.natAbs < 2 ^ 64) :
    ofNumber? (Float.ofInt a) = some (asNumber a) := by
  have denotes := Binary64.denotes_ofInt (Binary64.log2_natAbs_le word)
  by_cases safe : IsSafe a
  · exact asNumber_of_denotes denotes safe
  · rw [asNumber, if_neg safe]
    refine ofNumber?_of_not_isSafe denotes.isFinite fun b whole => ?_
    obtain rfl := Option.some.inj (denotes.toInt?_eq.symm.trans whole)
    rwa [isSafe_nearest]

/-- There is nothing below the point that could be cut off. -/
theorem ofNumber?_truncate_ofInt (word : a.natAbs < 2 ^ 64) :
    ofNumber? (Binary64.truncate (Float.ofInt a)) = some (asNumber a) := by
  have denotes := Binary64.denotes_ofInt (Binary64.log2_natAbs_le word)
  by_cases safe : IsSafe a
  · exact asNumber_of_denotes denotes.truncate safe
  · have large : 2 ^ 52 ≤ (nearest a).natAbs := by
      rw [← isSafe_nearest, isSafe_iff] at safe
      omega
    rw [Binary64.truncate_of_large denotes.isFinite denotes.truncate.toInt?_eq large]
    exact ofNumber?_ofInt word

/-- An integer is kept exactly if it is of safe size. -/
theorem asNumber_eq_ofInt_iff (inRange : -0x8000000000000000 ≤ a ∧ a < 0x10000000000000000) :
    asNumber a = ofInt a ↔ IsSafe a := by
  have word : a.natAbs < 2 ^ 64 := by omega
  unfold asNumber
  split
  · next safe => exact iff_of_true rfl safe
  · next beyond =>
      rw [ofInt_eq inRange, ofFloat_eq (Binary64.isFinite_ofInt word)]
      exact iff_of_false (by simp) beyond

/-! ### Where a number is wanted -/

/-- Coerced to a number, a value that denotes an integer comes to what is told of the integer; -/
theorem Denotes.coerce_number (denotes : v.Denotes a) :
    DataType.number.coerce v = .ok (asNumber a) := by
  simp only [DataType.coerce, denotes.toNumber?_eq, Option.bind_some,
    ofNumber?_ofInt denotes.word]

/-- the same comes of it as an integer, as there is no fraction to be cut off, -/
theorem Denotes.coerce_integer (denotes : v.Denotes a) :
    DataType.integer.coerce v = .ok (asNumber a) := by
  simp only [DataType.coerce, denotes.toNumber?_eq, Option.bind_some,
    ofNumber?_truncate_ofInt denotes.word]

/-- and the same again by the transformation. -/
theorem Denotes.applyPure_number (denotes : v.Denotes a) (context : Value) :
    Transformation.number.applyPure v context = .ok (asNumber a) := by
  have read : Transformation.numeric v "number" = .ok (Float.ofInt a) := by
    simp only [Transformation.numeric, denotes.toNumber?_eq]
  have written : Transformation.finite (Float.ofInt a) v = .ok (asNumber a) := by
    simp only [Transformation.finite, ofNumber?_ofInt denotes.word]
  rw [Transformation.applyPure, read]
  exact written

/-- Only integers that a document can hold are denoted. -/
theorem Denotes.inRange (denotes : v.Denotes a) :
    -0x8000000000000000 ≤ a ∧ a < 0x10000000000000000 := by
  cases denotes with
  | num _ inRange => exact inRange
  | str _ inRange => exact inRange

/-- **An integer is kept exactly if it is of safe size.**  The transformation and both types give
the same value; that of a larger integer is the float that it is rounded to. -/
theorem Denotes.kept_iff_isSafe {σ : Type} (denotes : v.Denotes a) (r : Resolver σ)
    (context : Value) (s : σ) :
    (Transformation.number.apply r v context).run s = (.ok (asNumber a), s) ∧
    DataType.number.coerce v = .ok (asNumber a) ∧
    DataType.integer.coerce v = .ok (asNumber a) ∧
    (asNumber a = .num (.int a denotes.inRange) ↔ -safeInteger ≤ a ∧ a ≤ safeInteger) ∧
    (¬ (-safeInteger ≤ a ∧ a ≤ safeInteger) →
      ∃ x finite, asNumber a = .num (.float x finite) ∧ Binary64.Denotes x (nearest a)) := by
  refine ⟨?apply, denotes.coerce_number, denotes.coerce_integer, ?kept, ?rounded⟩
  case apply =>
    change (Transformation.number.applyPure v context, s) = _
    rw [denotes.applyPure_number context]
  case kept =>
    rw [← ofInt_eq]
    exact asNumber_eq_ofInt_iff denotes.inRange
  case rounded =>
    intro beyond
    refine ⟨Float.ofInt a, Binary64.isFinite_ofInt denotes.word, ?_,
      Binary64.denotes_ofInt (Binary64.log2_natAbs_le denotes.word)⟩
    rw [← ofFloat_eq]
    exact if_neg beyond

/-- The greatest signed word, as a text, becomes the float of the integer after it. -/
theorem kept_iff_isSafe_int64Max :
    DataType.integer.coerce (.str (toString (2 ^ 63 - 1 : Int))) = .ok (asNumber (2 ^ 63 - 1)) ∧
      ∃ x finite, asNumber (2 ^ 63 - 1) = .num (.float x finite) ∧ Binary64.Denotes x (2 ^ 63) := by
  have denotes : Denotes (.str (toString (2 ^ 63 - 1 : Int))) (2 ^ 63 - 1) := .str _ (by decide)
  have kept := denotes.kept_iff_isSafe (σ := Unit) (fun _ _ => pure (.ok none)) .null ()
  exact ⟨kept.2.2.1, kept.2.2.2.2 (by decide)⟩

/-- The first integer after the safe ones that is no float becomes the float before it. -/
theorem not_kept_twoPow53_add_one :
    let v : Value := .num (.int (2 ^ 53 + 1) (by decide))
    v.Denotes (2 ^ 53 + 1) ∧ DataType.integer.coerce v ≠ .ok v ∧
      ∃ x finite, DataType.integer.coerce v = .ok (.num (.float x finite)) ∧
        Binary64.Denotes x (2 ^ 53) := by
  have denotes : Denotes (.num (.int (2 ^ 53 + 1) (by decide))) (2 ^ 53 + 1) := .num _ (by decide)
  have rounded : asNumber (2 ^ 53 + 1) =
      .num (.float (Float.ofInt (2 ^ 53 + 1)) (Binary64.isFinite_ofInt denotes.word)) := by
    rw [asNumber, if_neg (by decide), ofFloat_eq]
  refine ⟨denotes, ?_, _, _, denotes.coerce_integer.trans (congrArg _ rounded),
    Binary64.denotes_ofInt (Binary64.log2_natAbs_le denotes.word)⟩
  rw [denotes.coerce_integer, rounded]
  simp

end Value

end Interchange
