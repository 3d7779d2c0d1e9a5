import Interchange.Proofs.Number.Floats
import Mathlib.Tactic.ByContra
/-!
# Whole numbers among the floats

The parts that are read off the bits of a float are those of which the arithmetic of floats makes
use.  So the integer that is read off a float is the one that the float is, and what is left of a
float without its fraction is an integer.

* `hasParts_decode` — the parts that are read off the bits.
* `toInt?_eq_some_iff` — which integer a float is.
* `denotes_ofParts` — a natural number of 53 bits is put together as it is.
* `Denotes.truncate`, `exists_toInt?_truncate` — without its fraction an integer is as it was, and
  every other finite float is an integer.
* `truncate_of_large` — large floats have no fraction.
-/

namespace Interchange.Binary64

open Float.Model Float.Model.UnpackedFloat

variable {x : Float} {a : Int} {n : Nat}

/-! ### Reading parts off the bits -/

/-- The bits of a float, as the arithmetic of floats unpacks them. -/
def word (x : Float) : BitVec Format.binary64.numBits := x.toModel.toBits.toBitVec

/-- Whether the sign is a minus. -/
def isNegative : Sign → Bool
  | .negative => true
  | .positive => false

/-- **The parts of an unpacked float.** -/
inductive HasParts : UnpackedFloat → Parts → Prop
  | zero (sign : Sign) : HasParts (.zero sign) ⟨isNegative sign, 0, -1074⟩
  | finite (sign : Sign) {m : Nat} {e : Int} (positive : 0 < m) :
      HasParts (.finite sign m e positive) ⟨isNegative sign, m, e⟩

/-- The significand stands in the lowest 52 bits of a word, -/
theorem toNat_unpackMantissa (b : BitVec Format.binary64.numBits) :
    (unpackMantissa b).toNat = b.toNat % 2 ^ 52 := by
  simp [unpackMantissa]

/-- the exponent in the next eleven, -/
theorem toNat_unpackExponent (b : BitVec Format.binary64.numBits) :
    (unpackExponent b).toNat = b.toNat / 2 ^ 52 % 2 ^ 11 := by
  simp [unpackExponent, Nat.shiftRight_eq_div_pow]

/-- and the sign in the last one. -/
theorem toNat_unpackSign (b : BitVec Format.binary64.numBits) :
    (unpackSign b).toNat = b.toNat / 2 ^ 63 % 2 := by
  delta unpackSign
  simp [Nat.shiftRight_eq_div_pow]

/-- The sign that is read off the word is that of the float. -/
theorem signBit_eq (x : Float) :
    signBit x = isNegative (Sign.ofBitVec (unpackSign (word x))) := by
  have sign := toNat_unpackSign (word x)
  have below : (word x).toNat < 2 ^ 64 := (word x).isLt
  have shifted : (x.toBits >>> 63).toNat = (word x).toNat / 2 ^ 63 := by
    rw [UInt64.toNat_shiftRight]
    exact Nat.shiftRight_eq_div_pow _ _
  unfold signBit Sign.ofBitVec
  split
  · next zero =>
      rw [zero] at sign
      have none : x.toBits >>> 63 ≠ 1 := by
        intro one
        rw [one] at shifted
        simp at shifted sign
        omega
      simpa [isNegative] using none
  · next nonzero =>
      have one : x.toBits >>> 63 = 1 := by
        apply UInt64.toNat_inj.mp
        have first : (unpackSign (word x)).toNat ≠ 0 := fun zero =>
          nonzero (BitVec.eq_of_toNat_eq zero)
        rw [shifted]
        change _ = 1
        omega
      simpa [isNegative] using one

/-- **The parts that are read off the bits of a finite float are its own.** -/
theorem hasParts_decode (finite : x.isFinite = true) : HasParts x.toModel.unpack (decode x) := by
  have mantissa := toNat_unpackMantissa (word x)
  have exponent := toNat_unpackExponent (word x)
  change UnpackedFloat.isFinite (UnpackedFloat.unpack .binary64 (word x)) = true at finite
  change HasParts (UnpackedFloat.unpack .binary64 (word x)) _
  have parts : decode x = if (unpackExponent (word x)).toNat = 0
      then ⟨isNegative (Sign.ofBitVec (unpackSign (word x))),
        (unpackMantissa (word x)).toNat, -1074⟩
      else ⟨isNegative (Sign.ofBitVec (unpackSign (word x))),
        (unpackMantissa (word x)).toNat + 2 ^ 52, (unpackExponent (word x)).toNat - 1075⟩ := by
    rw [← signBit_eq, mantissa, exponent]
    rfl
  have unbiased : ((unpackExponent (word x)).toNat : Int) -
      (Format.binary64.exponentBias + Format.binary64.mantissaBitsWithoutImplicit) =
        (unpackExponent (word x)).toNat - 1075 := by
    simp only [Format.exponentBias]
    omega
  have leading : (1#1 ++ unpackMantissa (word x)).toNat =
      (unpackMantissa (word x)).toNat + 2 ^ 52 := by
    rw [BitVec.toNat_append, ← Nat.shiftLeft_add_eq_or_of_lt (BitVec.isLt _), Nat.add_comm]
    rfl
  have notLast : unpackExponent (word x) ≠ -1#_ := by
    intro last
    have unpacked : UnpackedFloat.unpack .binary64 (word x) =
        if unpackMantissa (word x) = 0#_ then .infinity _ else .notANumber := if_pos last
    rw [unpacked] at finite
    split at finite
    all_goals cases finite
  rw [parts]
  by_cases first : unpackExponent (word x) = 0#_
  · have zero : (unpackExponent (word x)).toNat = 0 := congrArg BitVec.toNat first
    rw [if_pos zero]
    by_cases empty : unpackMantissa (word x) = 0#_
    · have unpacked : UnpackedFloat.unpack .binary64 (word x) = .zero _ :=
        (if_neg notLast).trans ((if_pos first).trans (dif_pos empty))
      have none : (unpackMantissa (word x)).toNat = 0 := congrArg BitVec.toNat empty
      rw [unpacked, none]
      exact .zero _
    · have positive : 0 < (unpackMantissa (word x)).toNat :=
        Nat.pos_of_ne_zero fun none => empty (BitVec.eq_of_toNat_eq none)
      have unpacked : UnpackedFloat.unpack .binary64 (word x) = .finite _ _ (-1074) positive :=
        (if_neg notLast).trans ((if_pos first).trans ((dif_neg empty).trans
          (finite_congr positive rfl rfl (by rw [unbiased, zero]; rfl))))
      rw [unpacked]
      exact .finite _ positive
  · have nonzero : (unpackExponent (word x)).toNat ≠ 0 := fun zero =>
      first (BitVec.eq_of_toNat_eq zero)
    have positive : 0 < (unpackMantissa (word x)).toNat + 2 ^ 52 :=
      Nat.add_pos_right _ (by decide)
    have unpacked : UnpackedFloat.unpack .binary64 (word x) = .finite _ _ _ positive :=
      (if_neg notLast).trans ((if_neg first).trans (finite_congr positive rfl leading unbiased))
    rw [if_neg nonzero, unpacked]
    exact .finite _ positive

/-- The parts of a float have 53 digits at most. -/
theorem magnitude_decode_lt (x : Float) : (decode x).magnitude < 2 ^ 53 := by
  have below : x.toBits.toNat % 2 ^ 52 < 2 ^ 52 := Nat.mod_lt _ (Nat.two_pow_pos 52)
  simp only [decode]
  split
  all_goals
    simp only [Nat.pow_eq]
    omega

/-! ### Integers -/

/-- **The parts are those of an integer**: no digit of it is below the point. -/
structure Parts.AreInteger (p : Parts) (a : Int) : Prop where
  magnitude : p.magnitude * 2 ^ p.exponent.toNat = a.natAbs * 2 ^ (-p.exponent).toNat
  signed : (if p.negative then -(a.natAbs : Int) else a.natAbs) = a

/-- A sign changes no size, -/
theorem natAbs_apply (sign : Sign) (n : Nat) : (sign.apply n).natAbs = n := by
  cases sign
  all_goals simp [Sign.apply]

/-- and just one of the two turns a number around. -/
theorem apply_eq (sign : Sign) (n : Nat) :
    sign.apply n = if isNegative sign then -(n : Int) else n := by
  cases sign
  all_goals rfl

/-- The point can be moved to the last digit. -/
theorem place_eq {significand exponent size : Nat}
    (value : significand * 2 ^ exponent = size * 2 ^ 52) :
    significand * 2 ^ ((exponent : Int) - 52).toNat =
      size * 2 ^ (-((exponent : Int) - 52)).toNat := by
  obtain ⟨k, rfl | below⟩ : ∃ k, exponent = k + 52 ∨ 52 = k + exponent := by
    rcases Nat.le_total 52 exponent with above | below
    · exact ⟨exponent - 52, .inl (Nat.sub_add_cancel above).symm⟩
    · exact ⟨52 - exponent, .inr (Nat.sub_add_cancel below).symm⟩
  · have places : ((k + 52 : Nat) - 52 : Int).toNat = k ∧
        (-((k + 52 : Nat) - 52 : Int)).toNat = 0 := by
      omega
    rw [Nat.pow_add, ← Nat.mul_assoc] at value
    rw [places.1, places.2, Nat.pow_zero, Nat.mul_one]
    exact Nat.eq_of_mul_eq_mul_right (Nat.two_pow_pos 52) value
  · have places : ((exponent : Int) - 52).toNat = 0 ∧ (-((exponent : Int) - 52)).toNat = k := by
      omega
    rw [below, Nat.pow_add, ← Nat.mul_assoc] at value
    rw [places.1, places.2, Nat.pow_zero, Nat.mul_one]
    exact Nat.eq_of_mul_eq_mul_right (Nat.two_pow_pos exponent) value

/-- A float that is an integer has parts of which that integer is made. -/
theorem Denotes.areInteger_decode (denotes : Denotes x a) : (decode x).AreInteger a := by
  have parts := hasParts_decode denotes.isFinite
  unfold Denotes at denotes
  generalize x.toModel.unpack = u at denotes parts
  generalize decode x = p at parts
  cases denotes with
  | zero sign =>
      cases parts
      exact ⟨by simp only [Nat.zero_mul, Int.natAbs_zero], by simp⟩
  | @finite sign significand exponent size positive normal inRange value =>
      cases parts
      constructor
      · rw [natAbs_apply]
        exact place_eq value
      · rw [natAbs_apply, apply_eq]

/-- The size of the integer that the parts are, if they are those of an integer. -/
def Parts.whole? (p : Parts) : Option Nat :=
  if p.exponent ≥ 0 then some (p.magnitude * Nat.pow 2 p.exponent.toNat)
  else
    let unit := Nat.pow 2 (-p.exponent).toNat
    if p.magnitude % unit = 0 then some (p.magnitude / unit) else none

/-- The parts are a natural number exactly if they are equal to it, multiplied out on both sides so
that no exponent is negative. -/
theorem Parts.whole?_eq_some_iff {p : Parts} : p.whole? = some n ↔
    p.magnitude * 2 ^ p.exponent.toNat = n * 2 ^ (-p.exponent).toNat := by
  unfold Parts.whole?
  simp only [Nat.pow_eq]
  split
  · next above =>
      have places : (-p.exponent).toNat = 0 := by omega
      rw [places, Nat.pow_zero, Nat.mul_one, Option.some.injEq]
  · next below =>
      have places : p.exponent.toNat = 0 := by omega
      have unit := Nat.two_pow_pos (-p.exponent).toNat
      rw [places, Nat.pow_zero, Nat.mul_one, Option.ite_none_right_eq_some, Option.some.injEq]
      constructor
      · rintro ⟨exact, rfl⟩
        exact (Nat.div_mul_cancel (Nat.dvd_of_mod_eq_zero exact)).symm
      · intro multiple
        rw [multiple]
        exact ⟨Nat.mul_mod_left _ _, Nat.mul_div_cancel _ unit⟩

/-- **Which integer a float is** is read off its parts. -/
theorem toInt?_eq_some_iff :
    toInt? x = some a ↔ x.isFinite = true ∧ (decode x).AreInteger a := by
  have read : toInt? x = if x.isFinite then
      ((decode x).whole?.bind fun n : Nat => some (n : Int)).map
        fun n => if (decode x).negative then -n else n
    else none := rfl
  rw [read, Option.ite_none_right_eq_some]
  refine and_congr_right fun finite => ?_
  simp only [Option.map_eq_some_iff, Option.bind_eq_some_iff, Option.some.injEq]
  constructor
  · rintro ⟨_, ⟨n, whole, rfl⟩, rfl⟩
    have size : (if (decode x).negative then -(n : Int) else (n : Int)).natAbs = n := by
      split
      all_goals omega
    exact ⟨size.symm ▸ Parts.whole?_eq_some_iff.mp whole, by rw [size]⟩
  · rintro ⟨magnitude, signed⟩
    exact ⟨a.natAbs, ⟨a.natAbs, Parts.whole?_eq_some_iff.mpr magnitude, rfl⟩, signed⟩

/-- So the integer that a float is can be read off. -/
theorem Denotes.toInt?_eq (denotes : Denotes x a) : toInt? x = some a :=
  toInt?_eq_some_iff.mpr ⟨denotes.isFinite, denotes.areInteger_decode⟩

/-! ### Putting parts together -/

/-- A number of 53 bits becomes a significand when it is shifted to the left. -/
theorem log2_significand (positive : 0 < n) (small : n < 2 ^ 53) :
    (n * 2 ^ (52 - n.log2)).log2 = 52 := by
  have digits : n.log2 ≤ 52 := Nat.le_of_lt_succ (log2_lt_of_lt (by decide) small)
  rw [log2_mul_two_pow positive, Nat.add_sub_cancel' digits]

/-- The word of a number with 53 digits at most, put together from its digits. -/
theorem ofParts_eq (negative : Bool) (positive : 0 < n) (small : n < 2 ^ 53) :
    ofParts ⟨negative, n, 0⟩ = withSign negative (Float.ofBits (UInt64.ofNat
      ((n.log2 + 1023) * 2 ^ 52 + (n * 2 ^ (52 - n.log2) - 2 ^ 52)))) := by
  have digits : n.log2 ≤ 52 := Nat.le_of_lt_succ (log2_lt_of_lt (by decide) small)
  have shifted := log2_significand positive small
  have nonzero := Nat.ne_of_gt (Nat.mul_pos positive (Nat.two_pow_pos (52 - n.log2)))
  have normal := ((Nat.log2_eq_iff nonzero).mp shifted).1
  have exponent : max ((0 : Int) + (n.log2 + 1 : Nat) - 53) (-1074) = n.log2 - 52 := by omega
  have shift : (0 : Int) - (n.log2 - 52) ≥ 0 := by omega
  have places : ((0 : Int) - (n.log2 - 52)).toNat = 52 - n.log2 := by omega
  have biased : ((n.log2 : Int) - 52 + 1075).toNat = n.log2 + 1023 := by omega
  simp only [ofParts, Nat.pow_eq, exponent, if_neg (Nat.ne_of_gt positive), if_pos shift, places,
    if_neg (Nat.not_lt.mpr normal), biased]

/-- The bits that are put together are those of a float of 53 digits. -/
theorem toBitVec_ofNat_eq {significand exponent : Nat} (normal : significand.log2 = 52)
    (inRange : exponent ≤ 1023) :
    (UInt64.ofNat ((exponent + 1023) * 2 ^ 52 + (significand - 2 ^ 52))).toBitVec =
      packComponents .binary64 .positive (.ofNat 11 (exponent + 1023)) (.ofNat 52 significand) := by
  have nonzero : significand ≠ 0 := by
    rintro rfl
    exact absurd normal (by decide)
  obtain ⟨low, high⟩ := (Nat.log2_eq_iff nonzero).mp normal
  have whole (k : Nat) : (UInt64.ofNat k).toBitVec.toNat = k % 2 ^ 64 := UInt64.toNat_ofNat'
  have fields : (packComponents .binary64 .positive (.ofNat 11 (exponent + 1023))
      (.ofNat 52 significand)).toNat =
        (exponent + 1023) % 2 ^ 11 * 2 ^ 52 + significand % 2 ^ 52 := by
    rw [packComponents, BitVec.toNat_append, BitVec.toNat_append, BitVec.toNat_ofNat,
      BitVec.toNat_ofNat, ← Nat.shiftLeft_add_eq_or_of_lt (Nat.mod_lt _ (Nat.two_pow_pos 52))]
    simp [Sign.toBitVec, Nat.shiftLeft_eq]
  apply BitVec.eq_of_toNat_eq
  rw [fields, whole]
  omega

/-- **A natural number of 53 bits is put together as it is.** -/
theorem denotes_ofParts (sign : Sign) (small : n < 2 ^ 53) :
    Denotes (ofParts ⟨isNegative sign, n, 0⟩) (sign.apply n) := by
  have signed {y : Float} {k : Nat} (denotes : Denotes y k) :
      Denotes (withSign (isNegative sign) y) (sign.apply k) := by
    cases sign with
    | negative => exact denotes.neg
    | positive => exact denotes
  rcases Nat.eq_zero_or_pos n with rfl | positive
  · have zero : Denotes 0.0 (0 : Nat) := .zero .positive
    exact signed zero
  · rw [ofParts_eq _ positive small]
    apply signed
    have digits : n.log2 ≤ 52 := Nat.le_of_lt_succ (log2_lt_of_lt (by decide) small)
    have shifted := log2_significand positive small
    have nonzero : 0 < n * 2 ^ (52 - n.log2) := Nat.mul_pos positive (Nat.two_pow_pos _)
    apply denotes_ofModel_pack
    rw [toBitVec_ofNat_eq shifted (by omega), unpack_normal .positive nonzero shifted (by omega)]
    refine .finite .positive nonzero shifted (by omega) ?_
    rw [Nat.mul_assoc, ← Nat.pow_add, Nat.sub_add_cancel digits]

/-! ### Truncation -/

/-- Without digits below the point nothing is cut off. -/
theorem truncate_eq_self (whole : 0 ≤ (decode x).exponent) : truncate x = x := by
  unfold truncate integral
  split
  · exact if_pos whole
  · rfl

/-- What is finite when cut off was finite before. -/
theorem isFinite_of_truncate (finite : (truncate x).isFinite = true) : x.isFinite = true := by
  by_contra infinite
  have same : truncate x = x := by
    unfold truncate integral
    exact if_neg infinite
  exact infinite (same ▸ finite)

/-- What is before the point of a number with a fraction. -/
def Parts.cut (p : Parts) : Nat := p.magnitude / 2 ^ (-p.exponent).toNat

/-- What is left of a float with digits below the point has lost one digit, at least. -/
theorem cut_lt (fraction : (decode x).exponent < 0) : (decode x).cut < 2 ^ 52 := by
  have below := magnitude_decode_lt x
  have unit : 2 ≤ 2 ^ (-(decode x).exponent).toNat :=
    Nat.le_self_pow (by omega) 2
  refine Nat.div_lt_of_lt_mul ?_
  calc (decode x).magnitude
    _ < 2 * 2 ^ 52 := below
    _ ≤ 2 ^ (-(decode x).exponent).toNat * 2 ^ 52 := Nat.mul_le_mul_right _ unit

/-- A float with a fraction becomes the integer before its point. -/
theorem denotes_truncate_of_fraction (finite : x.isFinite = true)
    (fraction : (decode x).exponent < 0) :
    Denotes (truncate x)
      (if (decode x).negative then -((decode x).cut : Int) else (decode x).cut) := by
  have together : truncate x = ofParts ⟨(decode x).negative, (decode x).cut, 0⟩ := by
    unfold truncate integral
    rw [if_pos finite]
    exact if_neg (Int.not_le.mpr fraction)
  obtain ⟨sign, signed⟩ : ∃ sign, isNegative sign = (decode x).negative := by
    cases (decode x).negative with
    | true => exact ⟨.negative, rfl⟩
    | false => exact ⟨.positive, rfl⟩
  rw [together, ← signed, ← apply_eq]
  exact denotes_ofParts sign (Nat.lt_trans (cut_lt fraction) (by decide))

/-- **An integer has no fraction to be cut off.** -/
theorem Denotes.truncate (denotes : Denotes x a) : Denotes (truncate x) a := by
  rcases Int.lt_or_le (decode x).exponent 0 with fraction | whole
  · have cut := denotes_truncate_of_fraction denotes.isFinite fraction
    obtain ⟨magnitude, signed⟩ := denotes.areInteger_decode
    have places : (decode x).exponent.toNat = 0 := by omega
    have size : (decode x).cut = a.natAbs := by
      rw [places, Nat.pow_zero, Nat.mul_one] at magnitude
      rw [Parts.cut, magnitude, Nat.mul_div_cancel _ (Nat.two_pow_pos _)]
    rwa [size, signed] at cut
  · rwa [truncate_eq_self whole]

/-- **Without its fraction a finite float is an integer.** -/
theorem exists_toInt?_truncate (finite : x.isFinite = true) :
    ∃ a, toInt? (truncate x) = some a := by
  rcases Int.lt_or_le (decode x).exponent 0 with fraction | whole
  · exact ⟨_, (denotes_truncate_of_fraction finite fraction).toInt?_eq⟩
  · have places : (-(decode x).exponent).toNat = 0 := by omega
    rw [truncate_eq_self whole]
    refine ⟨if (decode x).negative then
        -((decode x).magnitude * 2 ^ (decode x).exponent.toNat : Nat)
      else ((decode x).magnitude * 2 ^ (decode x).exponent.toNat : Nat),
      toInt?_eq_some_iff.mpr ⟨finite, ?_⟩⟩
    constructor
    · rw [places, Nat.pow_zero, Nat.mul_one]
      split
      all_goals omega
    · split
      all_goals omega

/-- A large number has no fraction. -/
theorem truncate_of_large (finite : x.isFinite = true) (whole : toInt? (truncate x) = some a)
    (large : 2 ^ 52 ≤ a.natAbs) : truncate x = x := by
  rcases Int.lt_or_le (decode x).exponent 0 with fraction | integral
  · have cut := (denotes_truncate_of_fraction finite fraction).toInt?_eq
    have below := cut_lt fraction
    rw [whole, Option.some.injEq] at cut
    rw [cut] at large
    split at large
    all_goals omega
  · exact truncate_eq_self integral

end Interchange.Binary64
