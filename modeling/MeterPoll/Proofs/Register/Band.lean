import Mathlib.Data.Int.ModEq
import MeterPoll.Proofs.Register.Magnitude
import MeterPoll.Proofs.Reply.RoundTrip
import MeterPoll.Proofs.Table.Upkeep

/-!
# The noise band

Integers inside the noise band read as zero, on both sides of zero. Every other integer is not zero
itself and is converted (`Register.value_eq_ite`). As no scale of a table is zero either, the
conversion can do without a rule for a period of zero, and a division that refuses zero as a divisor
never refuses (`Register.band_value`).
-/

namespace MeterPoll

namespace Conversion

/-- The quotient of two floats, unless the divisor is zero. -/
def quotient? (dividend divisor : Float) : Option Float :=
  if divisor == 0.0 then none else some (dividend / divisor)

/-- The physical value of an integer, unless it takes a division by zero. There is no rule for a
period of zero. -/
def convert? : Conversion → Float → Float → Option Float
  | divide, value, scale => quotient? value scale
  | multiply, value, scale => some (value * scale)
  | reciprocal, value, scale => quotient? scale value

/-- With neither the integer nor the scale zero, no division by zero takes place. -/
theorem convert?_eq_some (conversion : Conversion) {value scale : Float}
    (nonzero : (value == 0.0) = false) (usable : (scale == 0.0) = false) :
    conversion.convert? value scale = some (conversion.apply value scale) := by
  cases conversion with
  | divide => rw [convert?, quotient?, usable, if_neg Bool.false_ne_true, apply]
  | multiply => rfl
  | reciprocal =>
      rw [convert?, quotient?, nonzero, if_neg Bool.false_ne_true, apply, nonzero,
        if_neg Bool.false_ne_true]

end Conversion

namespace Register

variable {register : Register}

/-- A sound scale is not zero as a float. -/
theorem beq_zero_scale (sound : register.Sound) : (register.scale == 0.0) = false := by
  obtain ⟨mantissa, exponent, parts, -, positive, -, -⟩ := exists_parts_of_usable sound.2
  obtain ⟨sign, unpacked⟩ := Binary64.exists_unpack_of_parts parts positive
  exact Binary64.beq_zero_eq_false unpacked

/-- An integer of a register that is not zero is no zero as a float either. -/
theorem beq_zero_ofInt_reading {raw : UInt32} (nonzero : register.reading raw ≠ 0) :
    (Float.ofInt (register.reading raw) == 0.0) = false := by
  have narrow : (register.reading raw).natAbs < 2 ^ 53 := by
    have small := register.natAbs_reading_le raw
    have top := register.top_le
    omega
  obtain ⟨sign, mantissa, exponent, positive, unpacked, -⟩ :=
    Binary64.exists_unpack_ofInt nonzero narrow
  exact Binary64.beq_zero_eq_false unpacked

/-- An integer is read exactly if it is in range and agrees with the content modulo 2 ^ 24. -/
theorem reading_eq_iff_modEq {raw : UInt32} {integer : Int} : register.reading raw = integer ↔
    register.Holds integer ∧ integer ≡ raw.toNat [ZMOD 2 ^ 24] :=
  reading_eq_iff

/-- The band has the same width on both sides of zero. -/
theorem value_eq_ite (register : Register) (raw noise : UInt32) :
    register.value raw noise =
      if |register.reading raw| ≤ noise.toNat then 0.0
      else register.conversion.apply (Float.ofInt (register.reading raw)) register.scale := by
  have magnitude : |register.reading raw| ≤ noise.toNat ↔
      (register.reading raw).natAbs ≤ noise.toNat := by
    rw [Int.abs_eq_natAbs, Nat.cast_le]
  rw [value_eq]
  simp only [magnitude]

/-- Zero is inside every band. -/
theorem reading_ne_zero_of_loud {raw noise : UInt32}
    (loud : ¬ |register.reading raw| ≤ noise.toNat) : register.reading raw ≠ 0 := by
  intro zero
  rw [zero, abs_zero] at loud
  exact loud (Nat.cast_nonneg noise.toNat)

/-- **The noise band.** A register reads a content as the one integer of its range that agrees with
the content modulo 2 ^ 24. Inside the band that integer has the value zero, and outside it is not
zero and is converted. For a register of a table, whatever the table went through, that conversion
divides by no zero and needs no rule for a period of zero. -/
theorem band_value (table : Table) (calls : List Adjustment) (raw noise : UInt32) :
    (∀ register : Register,
      (∀ integer, register.reading raw = integer ↔
        register.Holds integer ∧ integer ≡ raw.toNat [ZMOD 2 ^ 24]) ∧
      if |register.reading raw| ≤ noise.toNat then register.value raw noise = 0.0
      else register.reading raw ≠ 0 ∧ register.value raw noise =
        register.conversion.apply (Float.ofInt (register.reading raw)) register.scale) ∧
    ∀ register ∈ (table.recalibrateAll calls).entries, noise.toNat < |register.reading raw| →
      register.conversion.convert? (Float.ofInt (register.reading raw)) register.scale =
        some (register.value raw noise) := by
  constructor
  · intro register
    refine ⟨fun integer => reading_eq_iff_modEq, ?_⟩
    rw [value_eq_ite]
    split_ifs with quiet
    · rfl
    · exact ⟨reading_ne_zero_of_loud quiet, rfl⟩
  · intro register among loud
    have sound := (table.recalibrateAll calls).sound register among
    have outside := not_le.mpr loud
    rw [value_eq_ite, if_neg outside]
    exact register.conversion.convert?_eq_some
      (beq_zero_ofInt_reading (reading_ne_zero_of_loud outside)) (beq_zero_scale sound)

/-- The most negative integer is inside a band of its own magnitude and outside the next smaller
one. -/
example : let power : Register :=
      { Register.unsigned 0x0A .power 0.005 with signed := true, conversion := .multiply }
    power.value 0xFF800000 0x800000 = 0.0 ∧ power.value 0x800000 0x7FFFFF < 0.0 := by
  decide +kernel

end Register

end MeterPoll
