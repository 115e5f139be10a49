import Mathlib.Tactic.Common
import MeterPoll.Register

/-!
# Taking a float apart

The sign, significand and exponent that are read off the bits of a float are those with which the
standard library computes (`Binary64.ofFloat_eq`). So a scale is usable exactly if it is a finite
float above zero (`usableScale_eq_true_iff`).
-/

namespace MeterPoll

open Float.Model (UnpackedFloat Format)
open Float.Model.UnpackedFloat (Sign unpackExponent unpackMantissa unpackSign)

namespace Binary64

variable (bits : BitVec Format.binary64.numBits)

/-- The fraction field as a number. -/
theorem toNat_unpackMantissa : (unpackMantissa bits).toNat = bits.toNat % hiddenBit := by
  unfold unpackMantissa
  simp [hiddenBit]

theorem toNat_unpackExponent :
    (unpackExponent bits).toNat = bits.toNat / hiddenBit % 2048 := by
  unfold unpackExponent
  simp [hiddenBit, Nat.shiftRight_eq_div_pow]

theorem toNat_unpackSign :
    (unpackSign bits).toNat = bits.toNat / (hiddenBit * 2048) % 2 := by
  unfold unpackSign
  simp [hiddenBit, Nat.shiftRight_eq_div_pow]

/-- Whether a sign is that of a negative number. -/
def isNegative : Sign → Bool
  | .negative => true
  | .positive => false

/-- The parts of a float as the standard library names them. Zero has the exponent of the smallest
numbers. -/
def ofUnpacked : UnpackedFloat → Binary64
  | .infinity sign => infinite (isNegative sign)
  | .notANumber => nan
  | .zero sign => finite (isNegative sign) 0 (-1074)
  | .finite sign mantissa exponent _ => finite (isNegative sign) mantissa exponent

/-- A set sign bit is a negative sign. -/
theorem isNegative_ofBitVec (bit : BitVec 1) :
    isNegative (Sign.ofBitVec bit) = (bit.toNat == 1) := by
  revert bit
  decide

/-- The hidden bit in front of a fraction is added to it. -/
theorem toNat_hiddenBit_append (mantissa : BitVec 52) :
    (1#1 ++ mantissa).toNat = hiddenBit + mantissa.toNat := by
  rw [BitVec.toNat_append, ← Nat.shiftLeft_add_eq_or_of_lt mantissa.isLt, Nat.shiftLeft_eq]
  rfl

/-- The fields as the standard library names them. -/
theorem ofBits_eq_ite : ofBits bits.toNat =
    let negative := isNegative (Sign.ofBitVec (unpackSign bits))
    if unpackExponent bits = -1#_ then
      if unpackMantissa bits = 0#_ then infinite negative else nan
    else if unpackExponent bits = 0#_ then
      finite negative (unpackMantissa bits).toNat (-1074)
    else
      finite negative (hiddenBit + (unpackMantissa bits).toNat)
        (((unpackExponent bits).toNat : Int) - 1075) := by
  have fraction := toNat_unpackMantissa bits
  have field := toNat_unpackExponent bits
  have sign := isNegative_ofBitVec (unpackSign bits)
  rw [toNat_unpackSign] at sign
  have allOnes : (unpackExponent bits).toNat = 2047 ↔ unpackExponent bits = -1#_ :=
    BitVec.toNat_inj (y := -1#11)
  have noOnes : (unpackExponent bits).toNat = 0 ↔ unpackExponent bits = 0#_ :=
    BitVec.toNat_inj (y := 0#11)
  have noFraction : (unpackMantissa bits).toNat = 0 ↔ unpackMantissa bits = 0#_ :=
    BitVec.toNat_inj (y := 0#52)
  unfold ofBits
  simp only [← field, ← fraction, ← sign, allOnes, noOnes, noFraction]

/-- The fields of the bits are the parts that the standard library unpacks. -/
theorem ofBits_eq : ofBits bits.toNat = ofUnpacked (.unpack Format.binary64 bits) := by
  rw [ofBits_eq_ite]
  unfold UnpackedFloat.unpack
  by_cases top : unpackExponent bits = -1#_
  · rw [if_pos top, if_pos top]
    by_cases whole : unpackMantissa bits = 0#_
    · rw [if_pos whole, if_pos whole]
      rfl
    · rw [if_neg whole, if_neg whole]
      rfl
  · rw [if_neg top, if_neg top]
    by_cases bottom : unpackExponent bits = 0#_
    · rw [if_pos bottom, if_pos bottom]
      by_cases whole : unpackMantissa bits = 0#_
      · rw [dif_pos whole, whole]
        rfl
      · rw [dif_neg whole, bottom]
        rfl
    · rw [if_neg bottom, if_neg bottom, ← toNat_hiddenBit_append]
      rfl

/-- The fields of the bits are the parts of the float. -/
theorem ofFloat_eq (x : Float) : ofFloat x = ofUnpacked x.toModel.unpack :=
  ofBits_eq x.toModel.toBits.toBitVec

end Binary64

/-- A scale is usable if it is a finite float above zero. -/
theorem usableScale_eq_true_iff (scale : Float) :
    usableScale scale = true ↔ scale.isFinite = true ∧ 0 < scale := by
  have zero : (0 : Float).toModel.unpack = .zero .positive := rfl
  have finite : scale.isFinite = scale.toModel.unpack.isFinite := rfl
  have above : 0 < scale ↔
      ((0 : Float).toModel.unpack.compare scale.toModel.unpack == some .lt) = true := by
    change decide _ = true ↔ _
    rw [decide_eq_true_iff]
    rfl
  unfold usableScale
  rw [Binary64.ofFloat_eq, finite, above, zero]
  cases scale.toModel.unpack with
  | infinity sign => cases sign <;> decide
  | notANumber => decide
  | zero sign => cases sign <;> decide
  | finite sign mantissa exponent positive =>
      cases sign with
      | negative =>
          refine iff_of_false Bool.false_ne_true ?_
          rintro ⟨_, above⟩
          exact Bool.false_ne_true above
      | positive =>
          refine iff_of_true ?_ ⟨rfl, rfl⟩
          exact bne_iff_ne.mpr (Nat.ne_of_gt positive)

end MeterPoll
