import Mathlib.Data.Nat.Bitwise
import MeterPoll.Register

/-!
# The integers of registers

A register reads its integer by bit operations on machine words. The low 24 bits are masked out
(`Frame.toNat_and_rawMask`), and for a signed register their sign bit is copied into the upper byte,
which makes two's complement of them (`Frame.toInt_signExtend`). So the integer is congruent to the
content modulo `Register.span` and lies in the range of its kind (`Register.emod_reading`,
`Register.reading_bounds`), and the words of 64 bits that decide whether it is noise compare as its
magnitude and the threshold do (`Register.abs_integer_le_iff`).
-/

namespace MeterPoll

namespace Frame

/-- Masking keeps a word modulo 2 ^ 24. -/
theorem toNat_and_rawMask (raw : UInt32) : (raw &&& rawMask).toNat = raw.toNat % 0x1000000 := by
  rw [UInt32.toNat_and]
  exact Nat.and_two_pow_sub_one_eq_mod raw.toNat 24

/-- The sign bit of 24 bits is set exactly in their upper half. -/
theorem and_signBit_bne_zero_iff {content : UInt32} (short : content.toNat < 0x1000000) :
    (content &&& signBit != 0) = true ↔ 0x800000 ≤ content.toNat := by
  have top : content.toNat.testBit 23 = decide (0x800000 ≤ content.toNat) := by
    rw [Nat.testBit_eq_decide_div_mod_eq]
    apply decide_eq_decide.mpr
    omega
  have bit : (content &&& signBit).toNat =
      (decide (0x800000 ≤ content.toNat)).toNat * 0x800000 := by
    rw [UInt32.toNat_and, ← top]
    exact Nat.and_two_pow content.toNat 23
  rw [bne_iff_ne, ne_eq, ← UInt32.toNat_inj, bit]
  by_cases negative : 0x800000 ≤ content.toNat
  · simp [negative]
  · simp [negative]

/-- Filling the upper byte of 24 bits adds to them, since no bit is in both. -/
theorem toNat_or_fill {content : UInt32} (short : content.toNat < 0x1000000) :
    (content ||| 0xFF000000).toNat = 0xFF000000 + content.toNat := by
  have apart : 2 ^ 24 * 0xFF + content.toNat = 2 ^ 24 * 0xFF ||| content.toNat :=
    Nat.two_pow_add_eq_or_of_lt short 0xFF
  rw [UInt32.toNat_or, Nat.or_comm]
  exact apart.symm

/-- The cast to a signed word of the same width takes the upper half below zero. -/
theorem toInt_toInt32 (word : UInt32) : word.toInt32.toInt = Int.bmod word.toNat (2 ^ 32) :=
  BitVec.toInt_eq_toNat_bmod word.toBitVec

/-- The signed word is the number that the low 24 bits are in two's complement. -/
theorem toInt_signExtend (raw : UInt32) :
    (signExtend raw).toInt = Int.bmod raw.toNat 0x1000000 := by
  have content := toNat_and_rawMask raw
  have short : (raw &&& rawMask).toNat < 0x1000000 := by omega
  unfold signExtend
  dsimp only
  -- The branch taken says in which half the content is, and there `bmod` is linear.
  split
  case isTrue set =>
    have negative := (and_signBit_bne_zero_iff short).mp set
    rw [toInt_toInt32, toNat_or_fill short, content]
    simp only [Int.bmod]
    omega
  case isFalse clear =>
    have positive := mt (and_signBit_bne_zero_iff short).mpr clear
    rw [toInt_toInt32, content]
    simp only [Int.bmod]
    omega

end Frame

namespace Register

/-- The number of contents of 24 bits. -/
def span : Nat := 0x1000000

/-- A masked content is an integer of a signed word as it is, since it is far below the sign bit. -/
theorem toInt_masked (raw : UInt32) :
    (raw &&& Frame.rawMask).toUInt64.toInt64.toInt = (raw.toNat % span : Nat) := by
  have content := Frame.toNat_and_rawMask raw
  have wide : (raw &&& Frame.rawMask).toUInt64.toInt64.toInt =
      Int.bmod (raw &&& Frame.rawMask).toNat (2 ^ 64) :=
    BitVec.toInt_eq_toNat_bmod (raw &&& Frame.rawMask).toUInt64.toBitVec
  rw [wide, content]
  unfold span
  simp only [Int.bmod]
  omega

/-- What the bit operations come to. -/
theorem reading_eq (register : Register) (raw : UInt32) : register.reading raw =
    if register.signed then Int.bmod raw.toNat span else raw.toNat % span := by
  unfold reading integer
  split
  · exact (Int32.toInt_toInt64 _).trans (Frame.toInt_signExtend raw)
  · exact toInt_masked raw

/-- The integer is congruent to the content. -/
theorem emod_reading (register : Register) (raw : UInt32) :
    register.reading raw % span = (raw.toNat : Int) % span := by
  rw [reading_eq]
  split
  · exact Int.bmod_emod
  · exact Int.emod_emod_of_dvd _ (Int.dvd_refl _)

/-- The integer lies in the range of its kind. -/
theorem reading_bounds (register : Register) (raw : UInt32) :
    if register.signed then
      -span ≤ 2 * register.reading raw ∧ 2 * register.reading raw < span
    else 0 ≤ register.reading raw ∧ register.reading raw < span := by
  rw [reading_eq]
  unfold span
  cases register.signed
  · simp only [Bool.false_eq_true, if_false]; omega
  · simp only [if_true, Int.bmod]; omega

/-- The absolute value of a signed word, read without sign, is the magnitude of its integer. This
holds of the least integer too, whose absolute value does not fit the signed word. -/
theorem toNat_abs_toUInt64 (word : Int64) : word.abs.toUInt64.toNat = word.toInt.natAbs := by
  have magnitude : word.abs.toUInt64.toNat =
      if word.toBitVec.msb then 2 ^ 64 - word.toBitVec.toNat else word.toBitVec.toNat :=
    BitVec.toNat_abs
  have integer : word.toInt = if word.toBitVec.msb then
      (word.toBitVec.toNat : Int) - (2 ^ 64 : Nat) else word.toBitVec.toNat :=
    BitVec.toInt_eq_msb_cond word.toBitVec
  have small := word.toBitVec.isLt
  rw [magnitude, integer]
  split <;> omega

/-- The words that are held against each other are the magnitude of the integer and the noise
threshold. -/
theorem abs_integer_le_iff (register : Register) (raw noise : UInt32) :
    (register.integer raw).abs.toUInt64 ≤ noise.toUInt64 ↔
      (register.reading raw).natAbs ≤ noise.toNat := by
  rw [UInt64.le_iff_toNat_le, toNat_abs_toUInt64, UInt32.toNat_toUInt64]
  rfl

/-- The value of a content by the magnitude of its integer. -/
theorem value_eq (register : Register) (raw noise : UInt32) :
    register.value raw noise =
      if (register.reading raw).natAbs ≤ noise.toNat then 0.0
      else register.conversion.apply (Float.ofInt (register.reading raw)) register.scale := by
  simp only [value, abs_integer_le_iff]

end Register

end MeterPoll
