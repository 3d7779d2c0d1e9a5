import Interchange.Number.Numeral
import Interchange.Proofs.Number.Nearest
/-!
# Floats that are integers

The arithmetic of floats drops the digits of a number one by one until 53 are left, and keeps two
bits on those that are gone: the last of them, and whether any other was a one.  That this is
rounding to nearest is the invariant `Shifted`.  The float of an integer is made in two ways, by one
multiplication or by another, and both come to the integer that it is rounded to.

* `Binary64.IsInteger` — an unpacked float is an integer.
* `Binary64.isInteger_roundWithAccuracy_shiftLeft` — so is what a natural number is rounded to.
* `Binary64.denotes_ofInt` — the float of an integer is what the integer is rounded to.
* `Binary64.ofInt_beq_iff` — two of them are equal exactly if the integers are rounded alike.
-/

namespace Interchange.Binary64

open Float.Model Float.Model.UnpackedFloat

variable {m n s j : Nat}

/-! ### Rounding by two bits -/

/-- **A mantissa with its bits stands for `m / 2 ^ s`**: the round bit says whether at least half a
unit is missing, and the sticky bit whether that is anything but half a unit or none. -/
structure Shifted (em : ExtendedMantissa) (m s : Nat) : Prop where
  mantissa : em.mantissa = m / 2 ^ s
  roundBit : em.roundBit = true ↔ 2 ^ s ≤ 2 * (m % 2 ^ s)
  stickyBit : em.stickyBit = true ↔ m % 2 ^ s ≠ 0 ∧ 2 * (m % 2 ^ s) ≠ 2 ^ s

/-- Before anything is dropped, all of the number is there. -/
theorem shifted_exact (m : Nat) : Shifted (.ofMantissaAndAccuracy m .exact) m 0 := by
  constructor
  all_goals simp [ExtendedMantissa.ofMantissaAndAccuracy, Nat.mod_one]

/-- **One more digit is dropped.**  The round bit is the digit, and the sticky bit keeps whether
there was a one among those before it. -/
theorem Shifted.shiftRightOne {em : ExtendedMantissa} (shifted : Shifted em m s) :
    Shifted em.shiftRightOne m (s + 1) := by
  have below : m % 2 ^ s < 2 ^ s := Nat.mod_lt _ (Nat.two_pow_pos s)
  have rest : m % 2 ^ (s + 1) = m % 2 ^ s + 2 ^ s * (m / 2 ^ s % 2) := Nat.mod_pow_succ
  have unit : 2 ^ (s + 1) = 2 * 2 ^ s := Nat.pow_succ'
  constructor
  · rw [ExtendedMantissa.shiftRightOne, shifted.mantissa, Nat.div_div_eq_div_mul, Nat.pow_succ]
  · rw [ExtendedMantissa.shiftRightOne, shifted.mantissa, rest, unit, bne_iff_ne]
    rcases Nat.mod_two_eq_zero_or_one (m / 2 ^ s) with even | odd
    · rw [even]
      omega
    · rw [odd]
      omega
  · rw [ExtendedMantissa.shiftRightOne, Bool.or_eq_true, shifted.roundBit, shifted.stickyBit, rest,
      unit]
    rcases Nat.mod_two_eq_zero_or_one (m / 2 ^ s) with even | odd
    · rw [even]
      omega
    · rw [odd]
      omega

/-- So the bits are right however many digits are dropped. -/
theorem shifted_shiftRight (m s : Nat) :
    Shifted (ExtendedMantissa.ofMantissaAndAccuracy m .exact >>> s) m s := by
  change Shifted (s.repeat ExtendedMantissa.shiftRightOne _) m s
  induction s with
  | zero => exact shifted_exact m
  | succ s ih => exact ih.shiftRightOne

/-- **Two bits are enough to round to the nearest**, and to the even one of two that are as near. -/
theorem Shifted.roundedMantissa {em : ExtendedMantissa} (shifted : Shifted em m s) :
    em.roundedMantissa = halfEven m s := by
  obtain ⟨mantissa, round, sticky⟩ := em
  obtain ⟨rfl, roundBit, stickyBit⟩ := shifted
  have below : m % 2 ^ s < 2 ^ s := Nat.mod_lt _ (Nat.two_pow_pos s)
  unfold halfEven
  -- Each pair of bits places what is missing at nothing, or below, at or above half a unit.
  cases round
  all_goals cases sticky
  all_goals
    simp only [Bool.false_eq_true, false_iff, true_iff] at roundBit stickyBit
    simp only [ExtendedMantissa.roundedMantissa, ExtendedMantissa.accuracy,
      Accuracy.roundToNearestEven]
    split
  all_goals omega

/-! ### Floats that are integers -/

/-- **An unpacked float is an integer.**  If it is not zero then its significand has 53 digits, as
binary64 keeps it, and no part of it is below the point. -/
inductive IsInteger : UnpackedFloat → Int → Prop
  | zero (sign : Sign) : IsInteger (.zero sign) 0
  | finite (sign : Sign) {significand exponent size : Nat} (positive : 0 < significand)
      (normal : significand.log2 = 52) (inRange : exponent ≤ 1023)
      (value : significand * 2 ^ exponent = size * 2 ^ 52) :
      IsInteger (.finite sign significand (exponent - 52) positive) (sign.apply size)

/-- Floats with the same parts are the same. -/
theorem finite_congr {sign sign' : Sign} {m m' : Nat} {e e' : Int} {positive : 0 < m}
    (positive' : 0 < m') (signs : sign = sign') (significands : m = m') (exponents : e = e') :
    UnpackedFloat.finite sign m e positive = .finite sign' m' e' positive' := by
  subst signs significands exponents
  rfl

/-- In the normal range, the exponent is the one with which 53 digits are left. -/
theorem targetExponent_eq {e : Int} (normal : -1022 ≤ m.log2 + e) :
    Format.binary64.targetExponent (totalExponent m e) = m.log2 + e - 52 := by
  have digits : Format.binary64.mantissaBits = 53 := rfl
  simp only [Format.targetExponent, totalExponent, digits, Format.minExponent]
  omega

/-- So just the digits beyond the 53rd are dropped. -/
theorem shiftToTargetExponent_eq {e : Int} (normal : -1022 ≤ m.log2 + e) (long : 52 ≤ m.log2) :
    shiftToTargetExponent .binary64 m e .exact =
      (ExtendedMantissa.ofMantissaAndAccuracy m .exact >>> excess m, e + excess m) := by
  have shift : (m.log2 + e - 52 - e).toNat = excess m := by
    simp only [excess]
    omega
  simp only [shiftToTargetExponent, shiftToExponent, targetExponent_eq normal, shift]

/-- Rounding to a float keeps 53 digits.  If it leads to a number of 54, then this is `2 ^ 53`, and
one more digit is dropped. -/
theorem exists_roundWithAccuracy_eq (sign : Sign) {e : Int} (normal : -1022 ≤ m.log2 + e)
    (long : 52 ≤ m.log2) {q : Nat} (rounded : halfEven m (excess m) = q) :
    ∃ positive, roundWithAccuracy .binary64 sign m e .exact =
      .finite sign (q / 2 ^ excess q) (e + excess m + excess q) positive := by
  have bounds := significand_bounds long
  rw [rounded] at bounds
  have nonzero : q ≠ 0 := by omega
  have digits : 52 ≤ q.log2 := (Nat.le_log2 nonzero).mpr bounds.1
  -- The first shift is the one that rounds; the second only takes up a carry.
  have first := shiftToTargetExponent_eq normal long
  have second : shiftToTargetExponent .binary64 q (e + excess m) .exact = _ :=
    shiftToTargetExponent_eq (by simp only [excess]; omega) digits
  have significand := (shifted_shiftRight q (excess q)).mantissa
  have positive : 0 < q / 2 ^ excess q := by
    rw [Nat.div_pos_iff]
    exact ⟨Nat.two_pow_pos _, Nat.le_trans (Nat.pow_le_pow_right (by decide) (Nat.sub_le _ _))
      (Nat.log2_self_le nonzero)⟩
  refine ⟨positive, ?_⟩
  rw [roundWithAccuracy, first]
  dsimp only
  rw [(shifted_shiftRight m (excess m)).roundedMantissa, rounded, second]
  exact (dif_neg (significand ▸ Nat.ne_of_gt positive)).trans
    (finite_congr positive rfl significand rfl)

/-- What is rounded to a float is an integer if its last digit is not below the point. -/
theorem isInteger_roundWithAccuracy (sign : Sign) {e : Int} {exponent size : Nat}
    (long : 52 ≤ m.log2) (placed : e + excess m = exponent - 52) (inRange : exponent ≤ 1022)
    (value : halfEven m (excess m) * 2 ^ exponent = size * 2 ^ 52) :
    IsInteger (roundWithAccuracy .binary64 sign m e .exact) (sign.apply size) := by
  have normal : -1022 ≤ m.log2 + e := by
    simp only [excess] at placed
    omega
  obtain ⟨low, high⟩ := significand_bounds long
  generalize rounded : halfEven m (excess m) = q at low high value
  obtain ⟨positive, equal⟩ := exists_roundWithAccuracy_eq sign normal long rounded
  rw [equal]
  rcases Nat.lt_or_eq_of_le high with small | rfl
  · have digits : q.log2 = 52 := (Nat.log2_eq_iff (by omega)).mpr ⟨low, small⟩
    have short : excess q = 0 := by
      rw [excess, digits]
    have kept : q / 2 ^ excess q = q := by rw [short, Nat.pow_zero, Nat.div_one]
    have stays : e + excess m + excess q = exponent - 52 := by
      rw [short, Int.natCast_zero, Int.add_zero, placed]
    rw [finite_congr (by omega) rfl kept stays]
    exact .finite sign _ digits (by omega) value
  · have carried : e + excess m + excess (2 ^ 53) = (exponent + 1 : Nat) - 52 := by
      simp only [excess, Nat.log2_two_pow] at placed ⊢
      omega
    have moved : 2 ^ 53 / 2 ^ excess (2 ^ 53) * 2 ^ (exponent + 1) = size * 2 ^ 52 := by
      rw [← value, Nat.pow_succ 2 exponent, Nat.mul_comm (2 ^ exponent) 2, ← Nat.mul_assoc]
      rfl
    rw [finite_congr positive rfl rfl carried]
    exact .finite sign _ (by decide +kernel) (by omega) moved

/-- A number that is shifted to the left has as many digits more. -/
theorem log2_mul_two_pow (positive : 0 < n) (j : Nat) : (n * 2 ^ j).log2 = n.log2 + j := by
  have nonzero : n ≠ 0 := Nat.ne_of_gt positive
  have scaled : n * 2 ^ j ≠ 0 := Nat.mul_ne_zero nonzero (Nat.ne_of_gt (Nat.two_pow_pos j))
  refine (Nat.log2_eq_iff scaled).mpr ⟨?_, ?_⟩
  · rw [Nat.pow_add]
    exact Nat.mul_le_mul_right _ (Nat.log2_self_le nonzero)
  · rw [Nat.add_right_comm, Nat.pow_add]
    exact Nat.mul_lt_mul_of_pos_right Nat.lt_log2_self (Nat.two_pow_pos j)

/-- A natural number can be shifted to the left before it is rounded, as far as one likes, but so
that it has the digits of a significand. -/
theorem isInteger_roundWithAccuracy_shiftLeft (sign : Sign) (positive : 0 < n)
    (inRange : n.log2 ≤ 1022) (long : 52 ≤ n.log2 + j) :
    IsInteger (roundWithAccuracy .binary64 sign (n * 2 ^ j) (-j) .exact)
      (sign.apply (nearestNat n)) := by
  have digits := log2_mul_two_pow positive j
  have dropped : excess (n * 2 ^ j) + 52 = n.log2 + j := by
    rw [excess, digits, Nat.sub_add_cancel long]
  -- Shifted to the left by 52 or by `j`, the number has the same significand.
  have significand : halfEven (n * 2 ^ j) (excess (n * 2 ^ j)) = halfEven (n * 2 ^ 52) n.log2 := by
    rw [← halfEven_mul (n * 2 ^ j) _ 52, ← halfEven_mul (n * 2 ^ 52) _ j, dropped,
      Nat.mul_right_comm]
  refine isInteger_roundWithAccuracy sign (digits ▸ long) ?_ inRange ?_
  · omega
  · rw [significand, halfEven_mul_pow_log2]

/-! ### The bits of a float -/

theorem unpackSign_packComponents {spec : Float.Model.Format} {sign : Sign} {exponent mantissa} :
    unpackSign (packComponents spec sign exponent mantissa) = sign.toBitVec := by
  ext i hi
  have first : i = 0 := by omega
  subst first
  delta unpackSign
  simp [packComponents, BitVec.getLsbD_append, BitVec.getElem_append]

/-- The sign is kept by its bit. -/
theorem ofBitVec_toBitVec (sign : Sign) : Sign.ofBitVec sign.toBitVec = sign := by
  cases sign
  all_goals rfl

/-- The bits of a float with 53 digits. -/
theorem pack_normal (sign : Sign) {significand exponent : Nat} (positive : 0 < significand)
    (normal : significand.log2 = 52) (inRange : exponent ≤ 1023) :
    UnpackedFloat.pack .binary64 (.finite sign significand (exponent - 52) positive) =
      packComponents .binary64 sign (.ofNat 11 (exponent + 1023)) (.ofNat 52 significand) := by
  have biased : ((exponent : Int) - 52 + Format.binary64.exponentBias +
      Format.binary64.mantissaBitsWithoutImplicit).toNat = exponent + 1023 := by
    simp only [Format.exponentBias]
    omega
  have finite : ¬ 2 ^ Format.binary64.exponentBits ≤ exponent + 1023 + 1 := by
    simp only
    omega
  have long : significand.log2 + 1 = Format.binary64.mantissaBits := by
    rw [normal]
    rfl
  delta UnpackedFloat.pack
  simp only [biased, if_neg finite, if_pos long]

/-- A float with 53 digits is found again in its bits: the leading digit is not written, and every
exponent but the first and the last says that it is there. -/
theorem unpack_normal (sign : Sign) {significand exponent : Nat} (positive : 0 < significand)
    (normal : significand.log2 = 52) (inRange : exponent ≤ 1023) :
    UnpackedFloat.unpack .binary64
        (packComponents .binary64 sign (.ofNat 11 (exponent + 1023)) (.ofNat 52 significand)) =
      .finite sign significand (exponent - 52) positive := by
  obtain ⟨low, high⟩ := (Nat.log2_eq_iff (Nat.ne_of_gt positive)).mp normal
  have biased : (BitVec.ofNat 11 (exponent + 1023)).toNat = exponent + 1023 :=
    Nat.mod_eq_of_lt (by omega)
  generalize written : packComponents .binary64 sign (.ofNat 11 (exponent + 1023))
    (.ofNat 52 significand) = bits
  have signed : Sign.ofBitVec (unpackSign bits) = sign := by
    rw [← written, unpackSign_packComponents, ofBitVec_toBitVec]
  have placed : (unpackExponent bits).toNat = exponent + 1023 := by
    rw [← written, unpackExponent_packComponents, biased]
  have notLast : unpackExponent bits ≠ -1#_ := by
    intro same
    rw [same] at placed
    exact absurd placed (by simp; omega)
  have notFirst : unpackExponent bits ≠ 0#_ := by
    intro same
    rw [same] at placed
    exact absurd placed (by simp)
  have significant : (1#1 ++ unpackMantissa bits).toNat = significand := by
    rw [← written, unpackMantissa_packComponents, BitVec.toNat_append,
      ← Nat.shiftLeft_add_eq_or_of_lt (BitVec.isLt _), BitVec.toNat_ofNat]
    simp only [Nat.shiftLeft_eq, BitVec.toNat_ofNat]
    omega
  have unbiased : ((unpackExponent bits).toNat : Int) -
      (Format.binary64.exponentBias + Format.binary64.mantissaBitsWithoutImplicit) =
        exponent - 52 := by
    rw [placed]
    simp only [Format.exponentBias]
    omega
  exact (if_neg notLast).trans ((if_neg notFirst).trans
    (finite_congr positive signed significant unbiased))

/-- An integer is kept by the bits of a float. -/
theorem IsInteger.unpack_pack {u : UnpackedFloat} {x : Int} (integer : IsInteger u x) :
    (Float.Model.pack u).unpack = u := by
  cases integer with
  | zero sign =>
      cases sign
      all_goals rfl
  | finite sign positive normal inRange value =>
      change UnpackedFloat.unpack .binary64 (UnpackedFloat.pack .binary64 _) = _
      rw [pack_normal sign positive normal inRange, unpack_normal sign positive normal inRange]

/-! ### Comparing integers -/

theorem size_pos {significand exponent size : Nat} (positive : 0 < significand)
    (value : significand * 2 ^ exponent = size * 2 ^ 52) : 0 < size := by
  refine Nat.pos_of_mul_pos_right (b := 2 ^ 52) ?_
  rw [← value]
  exact Nat.mul_pos positive (Nat.two_pow_pos exponent)

/-- The digits of an integer are those of its significand, so it has only one. -/
theorem log2_size {significand exponent size : Nat} (positive : 0 < significand)
    (normal : significand.log2 = 52) (value : significand * 2 ^ exponent = size * 2 ^ 52) :
    size.log2 = exponent := by
  have digits := log2_mul_two_pow positive exponent
  rw [value, log2_mul_two_pow (size_pos positive value), normal] at digits
  omega

/-- Floats with a significand are equal exactly if all their parts are. -/
theorem beq_finite_iff {sign sign' : Sign} {m m' : Nat} {e e' : Int} {positive : 0 < m}
    {positive' : 0 < m'} :
    (UnpackedFloat.finite sign m e positive).beq (.finite sign' m' e' positive') = true ↔
      sign = sign' ∧ e = e' ∧ m = m' := by
  cases sign
  all_goals cases sign'
  all_goals
    delta UnpackedFloat.beq
    dsimp only [UnpackedFloat.compare]
    simp [Ordering.then_eq_eq, Ordering.swap_eq_eq]

/-- Zero is equal to no float that has a significand. -/
theorem beq_zero_finite {sign sign' : Sign} {e : Int} {positive : 0 < m} :
    (UnpackedFloat.zero sign).beq (.finite sign' m e positive) = false ∧
      (UnpackedFloat.finite sign' m e positive).beq (.zero sign) = false := by
  cases sign'
  all_goals exact ⟨rfl, rfl⟩

/-- A sign makes no zero, -/
theorem apply_ne_zero {sign : Sign} (positive : 0 < n) : sign.apply n ≠ 0 := by
  cases sign
  all_goals
    rw [Sign.apply]
    omega

/-- and it can be told from the number, unless that is zero. -/
theorem apply_inj {sign sign' : Sign} {a b : Nat} (positive : 0 < a) (positive' : 0 < b) :
    sign.apply a = sign'.apply b ↔ sign = sign' ∧ a = b := by
  cases sign
  all_goals cases sign'
  all_goals
    simp only [Sign.apply, reduceCtorEq, true_and, false_and, iff_false]
    omega

/-- Floats that are integers compare equal exactly if the integers are equal. -/
theorem IsInteger.beq_iff {u v : UnpackedFloat} {x y : Int} (first : IsInteger u x)
    (second : IsInteger v y) : u.beq v = true ↔ x = y := by
  cases first with
  | zero sign =>
      cases second with
      | zero sign' => exact iff_of_true rfl rfl
      | finite sign' positive normal inRange value =>
          have nonzero : sign'.apply _ ≠ 0 := apply_ne_zero (size_pos positive value)
          rw [beq_zero_finite.1]
          exact iff_of_false Bool.false_ne_true nonzero.symm
  | @finite sign significand exponent size positive normal inRange value =>
      have sized := size_pos positive value
      cases second with
      | zero sign' =>
          rw [beq_zero_finite.2]
          exact iff_of_false Bool.false_ne_true (apply_ne_zero sized)
      | @finite sign' significand' exponent' size' positive' normal' inRange' value' =>
          have digits := log2_size positive normal value
          have digits' := log2_size positive' normal' value'
          rw [beq_finite_iff, apply_inj sized (size_pos positive' value')]
          refine and_congr_right fun _ => ⟨?_, fun same => ?_⟩
          · rintro ⟨placed, same⟩
            obtain rfl : exponent = exponent' := by omega
            rw [same, value'] at value
            exact (Nat.eq_of_mul_eq_mul_right (Nat.two_pow_pos 52) value).symm
          · obtain rfl : exponent = exponent' := by rw [← digits, ← digits', same]
            rw [same, ← value'] at value
            exact ⟨rfl, Nat.eq_of_mul_eq_mul_right (Nat.two_pow_pos exponent) value⟩

/-- The opposite of an integer is an integer. -/
theorem IsInteger.neg {u : UnpackedFloat} {x : Int} (integer : IsInteger u x) :
    IsInteger u.neg (-x) := by
  cases integer with
  | zero sign => exact .zero _
  | finite sign positive normal inRange value =>
      cases sign with
      | positive => exact .finite .negative positive normal inRange value
      | negative =>
          rw [Sign.apply, Int.neg_neg]
          exact .finite .positive positive normal inRange value

/-- An integer is neither infinite nor no number. -/
theorem IsInteger.isFinite {u : UnpackedFloat} {x : Int} (integer : IsInteger u x) :
    u.isFinite = true := by
  cases integer
  all_goals rfl

/-! ### Conversions -/

/-- Multiplication by one changes no integer. -/
theorem IsInteger.mul_one {u : UnpackedFloat} {x : Int} (integer : IsInteger u x)
    (inRange : x.natAbs.log2 ≤ 1022) :
    IsInteger (u.mul .binary64 (.finite .positive (2 ^ 52) (-52) (by decide))) x := by
  cases integer with
  | zero sign => exact .zero _
  | @finite sign significand exponent size positive normal fits value =>
      have unsigned : (sign.apply size).natAbs = size := by
        cases sign
        all_goals simp [Sign.apply]
      have kept : sign * .positive = sign := by
        cases sign
        all_goals rfl
      have digits : (significand * 2 ^ 52).log2 = 104 := by
        rw [log2_mul_two_pow positive, normal]
      have dropped : excess (significand * 2 ^ 52) = 52 := by
        rw [excess, digits]
      have whole : halfEven (significand * 2 ^ 52) 52 = significand := by
        rw [← Nat.zero_add 52, halfEven_mul, halfEven_zero]
      rw [unsigned, log2_size positive normal value] at inRange
      change IsInteger (roundWithAccuracy .binary64 (sign * .positive) (significand * 2 ^ 52)
        (exponent - 52 + -52) .exact) _
      rw [kept]
      refine isInteger_roundWithAccuracy sign (by omega) ?_ inRange ?_
      · omega
      · rw [dropped, whole, value]

/-- The power of ten by which a natural number is multiplied is one. -/
theorem unpack_one : Float.exactlyRepresentablePowersOfTen[0].toModel.unpack =
    .finite .positive (2 ^ 52) (-52) (by decide) := rfl

/-- A natural number with no more digits than a significand is only shifted. -/
theorem isInteger_ofNat_of_lt (small : n < 2 ^ 53) :
    IsInteger (UnpackedFloat.ofNat .binary64 n) n := by
  rcases Nat.eq_zero_or_pos n with rfl | positive
  · exact .zero _
  · have digits : n.log2 ≤ 52 := Nat.le_of_lt_succ (log2_lt_of_lt (by decide) small)
    have sorted : compare (n : Int) 0 = .gt := by
      rw [Int.compare_eq_gt]
      omega
    have target : Format.binary64.targetExponent (totalExponent n 0) = n.log2 + 0 - 52 :=
      targetExponent_eq (by omega)
    have shift : (0 - ((n.log2 : Int) + 0 - 52)).toNat = 52 - n.log2 := by omega
    have rounded := isInteger_roundWithAccuracy_shiftLeft .positive positive (by omega)
      (Nat.le_of_eq (Nat.add_sub_cancel' digits).symm)
    rw [nearestNat_eq_self (Nat.le_of_lt small)] at rounded
    simp only [UnpackedFloat.ofNat, UnpackedFloat.ofInt, UnpackedFloat.normalize, sorted,
      Int.toNat_natCast, UnpackedFloat.round, decreaseExponent, target, shift, Nat.shiftLeft_eq]
    rw [Int.zero_sub]
    exact rounded

/-- **The float is the integer.** -/
def Denotes (x : Float) (a : Int) : Prop := IsInteger x.toModel.unpack a

/-- An integer that is packed is denoted by the float. -/
theorem denotes_ofModel_pack {u : UnpackedFloat} {a : Int} (integer : IsInteger u a) :
    Denotes (.ofModel (.pack u)) a := by
  rw [Denotes, integer.unpack_pack]
  exact integer

/-- A number of 53 digits is kept by a word, -/
theorem toNat_toUInt64 (small : n < 2 ^ 53) : n.toUInt64.toNat = n :=
  UInt64.toNat_ofNat_of_lt' (Nat.lt_trans small (by decide))

/-- and the float of that word is made from it without loss. -/
theorem unpack_toFloat (small : n < 2 ^ 53) :
    n.toUInt64.toFloat.toModel.unpack = UnpackedFloat.ofNat .binary64 n := by
  change (Float.Model.pack (UnpackedFloat.ofNat .binary64 n.toUInt64.toNat)).unpack = _
  rw [toNat_toUInt64 small]
  exact (isInteger_ofNat_of_lt small).unpack_pack

/-- Floats are multiplied as they are unpacked. -/
theorem mul_eq (x y : Float) :
    x * y = .ofModel (.pack (x.toModel.unpack.mul .binary64 y.toModel.unpack)) := rfl

/-- This is the one way in which the float of a natural number is made. -/
theorem denotes_toFloat_mul_one (small : n < 2 ^ 53) (inRange : n.log2 ≤ 1022) :
    Denotes (n.toUInt64.toFloat * Float.exactlyRepresentablePowersOfTen[0]) n := by
  rw [mul_eq, unpack_toFloat small, unpack_one]
  exact denotes_ofModel_pack ((isInteger_ofNat_of_lt small).mul_one inRange)

/-- This is the other: the number is shifted to the left and rounded. -/
theorem ofScientific_zero (positive : 0 < n) : UnpackedFloat.ofScientific .binary64 n 0 =
    roundWithAccuracy .binary64 .positive (n * 2 ^ 53) (-53) .exact := by
  have nonzero : n ≠ 0 := Nat.ne_of_gt positive
  have small : ¬ (0 : Int) > 2 ^ Format.binary64.exponentBits := by decide
  have large : ¬ (0 : Int) < -(2 ^ Format.binary64.exponentBits + n.log2) := by
    simp only
    omega
  have bits : Format.binary64.mantissaBits = 53 := by decide
  have unit : (10 : Nat) ^ (0 : Int).toNat = 1 := by decide
  rw [UnpackedFloat.ofScientific, dif_neg nonzero, if_neg small, if_neg large,
    if_pos (Int.le_refl 0)]
  change roundWithAccuracy .binary64 .positive
    ((n <<< Format.binary64.mantissaBits) * 10 ^ (0 : Int).toNat)
    (-Format.binary64.mantissaBits + 0) .exact = _
  simp only [bits, unit, Nat.mul_one, Nat.shiftLeft_eq, Int.add_zero]
  rfl

/-- The float of a natural number is what the number is rounded to. -/
theorem denotes_ofNat (inRange : n.log2 ≤ 1022) : Denotes (Float.ofNat n) (nearestNat n) := by
  change Denotes (Float.ofScientific n false 0) _
  unfold Float.ofScientific
  split
  · next small =>
      rw [nearestNat_eq_self (Nat.le_of_lt small.1)]
      exact denotes_toFloat_mul_one small.1 inRange
  · next large =>
      have positive : 0 < n := by omega
      have rounded := isInteger_roundWithAccuracy_shiftLeft .positive positive
        inRange (show 52 ≤ n.log2 + 53 by omega)
      refine denotes_ofModel_pack ?_
      change IsInteger (UnpackedFloat.ofScientific .binary64 n 0) _
      rw [ofScientific_zero positive]
      exact rounded

/-- The opposite float denotes the opposite integer. -/
theorem Denotes.neg {x : Float} {a : Int} (denotes : Denotes x a) : Denotes (-x) (-a) :=
  denotes_ofModel_pack (IsInteger.neg denotes)

/-- **Floats that denote integers are equal exactly if the integers are.** -/
theorem Denotes.beq_iff {x y : Float} {a b : Int} (first : Denotes x a) (second : Denotes y b) :
    (x == y) = true ↔ a = b :=
  IsInteger.beq_iff first second

/-- A float that denotes an integer is finite. -/
theorem Denotes.isFinite {x : Float} {a : Int} (denotes : Denotes x a) : x.isFinite = true :=
  IsInteger.isFinite denotes

/-- **The float of an integer is what the integer is rounded to.** -/
theorem denotes_ofInt {a : Int} (inRange : a.natAbs.log2 ≤ 1022) :
    Denotes (Float.ofInt a) (nearest a) := by
  cases a with
  | ofNat n =>
      have float : Denotes (Float.ofNat n) (nearestNat n) := denotes_ofNat inRange
      rw [← nearest_natCast] at float
      exact float
  | negSucc n =>
      have float : Denotes (Float.ofNat (n + 1)) (nearestNat (n + 1)) := denotes_ofNat inRange
      rw [← nearest_natCast] at float
      rw [Int.negSucc_eq, ← Int.natCast_succ, nearest_neg]
      exact float.neg

variable {a b : Int}

/-- The integers of 64-bit words are in the range of floats. -/
theorem log2_natAbs_le (word : a.natAbs < 2 ^ 64) : a.natAbs.log2 ≤ 1022 := by
  have digits : a.natAbs.log2 < 64 := log2_lt_of_lt (by decide) word
  omega

/-- The floats of 64-bit words are finite. -/
theorem isFinite_ofInt (word : a.natAbs < 2 ^ 64) : (Float.ofInt a).isFinite = true :=
  (denotes_ofInt (log2_natAbs_le word)).isFinite

/-- **Two integers make equal floats exactly if they are rounded alike.** -/
theorem ofInt_beq_iff (first : a.natAbs < 2 ^ 64) (second : b.natAbs < 2 ^ 64) :
    (Float.ofInt a == Float.ofInt b) = true ↔ nearest a = nearest b :=
  (denotes_ofInt (log2_natAbs_le first)).beq_iff (denotes_ofInt (log2_natAbs_le second))

end Interchange.Binary64
