import Mathlib.Algebra.Ring.Int.Defs
import Mathlib.Algebra.Ring.Nat
/-!
# Rounding integers to binary64

A binary64 number has 53 significant binary digits.  An integer with more of them is rounded to the
nearest one that has enough zeros at its end, and to the one with the even significand if two are as
near.  So the integers that binary64 does not tell apart are those that are rounded to the same one,
and up to `2^53` there are none.

* `Binary64.nearest` — the integer that an integer is rounded to.
* `Binary64.nearest_eq_iff_of_small` — an integer of less than 53 digits is told from all others.
* `Binary64.natAbs_sub_le_of_nearest_eq` — integers of words that are rounded alike are neighbours.
-/

namespace Interchange.Binary64

variable {m n s j : Nat}

/-- The natural number nearest to `m / 2 ^ s`, and the even one if two are as near. -/
def halfEven (m s : Nat) : Nat :=
  let whole := m / 2 ^ s
  let rest := m % 2 ^ s
  if 2 * rest < 2 ^ s ∨ 2 * rest = 2 ^ s ∧ whole % 2 = 0 then whole else whole + 1

/-- How many binary digits a number has beyond the 53 of a significand. -/
def excess (n : Nat) : Nat := n.log2 - 52

/-- The natural number that a natural number is rounded to. -/
def nearestNat (n : Nat) : Nat := halfEven n (excess n) * 2 ^ excess n

/-- **The integer that an integer is rounded to.** -/
def nearest (a : Int) : Int := a.sign * nearestNat a.natAbs

/-- A number below a power of two has no more digits than the exponent. -/
theorem log2_lt_of_lt {k : Nat} (positive : 0 < k) (below : n < 2 ^ k) : n.log2 < k := by
  rcases Nat.eq_zero_or_pos n with rfl | nonzero
  · exact positive
  · exact (Nat.log2_lt (Nat.ne_of_gt nonzero)).mpr below

@[simp] theorem halfEven_zero (m : Nat) : halfEven m 0 = m := by
  simp [halfEven, Nat.mod_one]

/-- Rounding does not depend on digits that both numbers have at their end. -/
theorem halfEven_mul (m s j : Nat) : halfEven (m * 2 ^ j) (s + j) = halfEven m s := by
  have positive : 0 < 2 ^ j := Nat.two_pow_pos j
  have whole : m * 2 ^ j / (2 ^ s * 2 ^ j) = m / 2 ^ s := Nat.mul_div_mul_right _ _ positive
  have rest : m * 2 ^ j % (2 ^ s * 2 ^ j) = m % 2 ^ s * 2 ^ j := Nat.mul_mod_mul_right ..
  simp only [halfEven, Nat.pow_add, whole, rest, ← Nat.mul_assoc, Nat.mul_lt_mul_right positive,
    Nat.mul_left_inj (Nat.ne_of_gt positive)]

/-- Rounding goes down to a whole unit, or up to the next one. -/
theorem halfEven_bounds (m s : Nat) : m / 2 ^ s ≤ halfEven m s ∧ halfEven m s ≤ m / 2 ^ s + 1 := by
  unfold halfEven
  dsimp only
  split
  all_goals omega

/-- At most half a unit is lost or gained. -/
theorem two_mul_natAbs_sub_halfEven_le (m s : Nat) :
    2 * ((m : Int) - (halfEven m s * 2 ^ s : Nat)).natAbs ≤ 2 ^ s := by
  have parts : m = m / 2 ^ s * 2 ^ s + m % 2 ^ s := (Nat.div_add_mod' m (2 ^ s)).symm
  have below : m % 2 ^ s < 2 ^ s := Nat.mod_lt _ (Nat.two_pow_pos s)
  unfold halfEven
  dsimp only
  split
  · omega
  · rw [Nat.add_one_mul (m / 2 ^ s)]
    omega

/-- The significand, rounded to 53 digits, is that of the rounded number. -/
theorem halfEven_mul_pow_log2 (n : Nat) :
    halfEven (n * 2 ^ 52) n.log2 * 2 ^ n.log2 = nearestNat n * 2 ^ 52 := by
  rcases Nat.le_total 52 n.log2 with long | short
  · have split : n.log2 = excess n + 52 := (Nat.sub_add_cancel long).symm
    rw [split, halfEven_mul, nearestNat, Nat.pow_add, Nat.mul_assoc]
  · have whole : excess n = 0 := Nat.sub_eq_zero_of_le short
    have scaled : n * 2 ^ 52 = n * 2 ^ (52 - n.log2) * 2 ^ n.log2 := by
      rw [Nat.mul_assoc, ← Nat.pow_add, Nat.sub_add_cancel short]
    have unchanged := halfEven_mul (n * 2 ^ (52 - n.log2)) 0 n.log2
    rw [Nat.zero_add, ← scaled, halfEven_zero] at unchanged
    rw [unchanged, ← scaled, nearestNat, whole, halfEven_zero, Nat.pow_zero, Nat.mul_one]

/-- What is left of a long number has 53 digits, or it is the first number with 54. -/
theorem significand_bounds (long : 52 ≤ m.log2) :
    2 ^ 52 ≤ halfEven m (excess m) ∧ halfEven m (excess m) ≤ 2 ^ 53 := by
  have positive : m ≠ 0 := by
    rintro rfl
    exact absurd long (by decide)
  have split : m.log2 = 52 + excess m := (Nat.add_sub_cancel' long).symm
  have low : 2 ^ 52 ≤ m / 2 ^ excess m := by
    rw [Nat.le_div_iff_mul_le (Nat.two_pow_pos _), ← Nat.pow_add, ← split]
    exact Nat.log2_self_le positive
  have high : m / 2 ^ excess m < 2 ^ 53 := by
    have below : m < 2 ^ (m.log2 + 1) := Nat.lt_log2_self
    rw [split, Nat.add_right_comm, Nat.pow_add] at below
    exact (Nat.div_lt_iff_lt_mul (Nat.two_pow_pos _)).mpr below
  have bounds := halfEven_bounds m (excess m)
  omega

/-- Numbers of 53 digits are not rounded, -/
theorem nearestNat_eq_self (small : n ≤ 2 ^ 53) : nearestNat n = n := by
  rcases Nat.lt_or_eq_of_le small with small | rfl
  · have digits : n.log2 < 53 := log2_lt_of_lt (by decide) small
    have short : excess n = 0 := Nat.sub_eq_zero_of_le (Nat.le_of_lt_succ digits)
    rw [nearestNat, short, halfEven_zero, Nat.pow_zero, Nat.mul_one]
  · rfl

/-- and rounding leads none below that bound. -/
theorem le_nearestNat (large : 2 ^ 53 ≤ n) : 2 ^ 53 ≤ nearestNat n := by
  have positive : n ≠ 0 := by omega
  have digits : 53 ≤ n.log2 := (Nat.le_log2 positive).mpr large
  have significand := (significand_bounds (Nat.le_of_succ_le digits)).1
  have scale : 2 ^ 1 ≤ 2 ^ excess n :=
    Nat.pow_le_pow_right (by decide) (Nat.le_sub_of_add_le digits)
  exact Nat.mul_le_mul significand scale

theorem nearest_natCast (n : Nat) : nearest n = nearestNat n := by
  rcases Nat.eq_zero_or_pos n with rfl | positive
  · rfl
  · rw [nearest, Int.sign_natCast_of_ne_zero (Nat.ne_of_gt positive), Int.one_mul,
      Int.natAbs_natCast]

/-- Rounding does not see the sign. -/
theorem nearest_neg (a : Int) : nearest (-a) = -nearest a := by
  rw [nearest, nearest, Int.sign_neg, Int.natAbs_neg, Int.neg_mul]

theorem natAbs_nearest (a : Int) : (nearest a).natAbs = nearestNat a.natAbs := by
  rcases Int.natAbs_eq a with same | opposite
  · rw [same, nearest_natCast, Int.natAbs_natCast, Int.natAbs_natCast]
  · rw [opposite, nearest_neg, nearest_natCast, Int.natAbs_neg, Int.natAbs_natCast, Int.natAbs_neg,
      Int.natAbs_natCast]

/-- An integer of a 64-bit word has at most 11 digits too many. -/
theorem natAbs_sub_nearest_le {a : Int} (word : a.natAbs < 2 ^ 64) :
    (a - nearest a).natAbs ≤ 1024 := by
  have digits : a.natAbs.log2 < 64 := log2_lt_of_lt (by decide) word
  have units : 2 ^ excess a.natAbs ≤ 2 ^ 11 :=
    Nat.pow_le_pow_right (by decide) (Nat.sub_le_of_le_add (Nat.le_of_lt_succ digits))
  have lost : 2 * ((a.natAbs : Int) - nearestNat a.natAbs).natAbs ≤ 2 ^ excess a.natAbs :=
    two_mul_natAbs_sub_halfEven_le _ _
  have mirrored : (a - nearest a).natAbs = ((a.natAbs : Int) - nearestNat a.natAbs).natAbs := by
    rcases Int.natAbs_eq a with same | opposite
    · rw [← nearest_natCast, ← same]
    · have rounded : nearest a = -nearestNat a.natAbs := by
        rw [← nearest_natCast, ← nearest_neg, ← opposite]
      omega
  omega

/-- So only neighbours are rounded alike. -/
theorem natAbs_sub_le_of_nearest_eq {a b : Int} (first : a.natAbs < 2 ^ 64)
    (second : b.natAbs < 2 ^ 64) (alike : nearest a = nearest b) : (a - b).natAbs ≤ 2048 := by
  have lost := natAbs_sub_nearest_le first
  have lost' := natAbs_sub_nearest_le second
  omega

/-- So integers up to `2 ^ 53`, on both sides, are kept. -/
theorem nearest_eq_self {a : Int} (small : a.natAbs ≤ 2 ^ 53) : nearest a = a := by
  rw [nearest, nearestNat_eq_self small, Int.sign_mul_natAbs]

/-- An integer of less than 53 digits is no other one rounded. -/
theorem eq_of_nearest_eq {a b : Int} (small : a.natAbs < 2 ^ 53) (alike : nearest a = nearest b) :
    a = b := by
  rw [nearest_eq_self (Nat.le_of_lt small)] at alike
  rcases Nat.le_total b.natAbs (2 ^ 53) with short | long
  · rw [alike, nearest_eq_self short]
  · have size := le_nearestNat long
    rw [← natAbs_nearest, ← alike] at size
    exact absurd small (Nat.not_lt.mpr size)

/-- **Rounding tells an integer of less than 53 digits from all others.** -/
theorem nearest_eq_iff_of_small {a b : Int} (small : a.natAbs < 2 ^ 53 ∨ b.natAbs < 2 ^ 53) :
    nearest a = nearest b ↔ a = b := by
  refine ⟨fun alike => ?_, congrArg nearest⟩
  rcases small with first | second
  · exact eq_of_nearest_eq first alike
  · exact (eq_of_nearest_eq second alike.symm).symm

end Interchange.Binary64
