import MeterPoll.Proofs.Decimal.Whole
import MeterPoll.Proofs.Register.Reading
import MeterPoll.Table

/-!
# The magnitude of physical values

A physical value is a float that stands for an exact one, the integer of the register put together
with the scale as rational numbers (`Register.exactValue`). The float is finite exactly if the exact
value is below the bound at which rounding overflows (`Register.isFinite_value_iff`). A scale over
the integer never reaches the bound. For the other two conversions it depends on the scale, and the
calibration of a register decides for all of its contents at once
(`Register.moderate_iff`).
-/

namespace MeterPoll

open Float.Model (UnpackedFloat)
open Binary64 (overflowBound hiddenBit)

namespace Binary64

/-- The rational number that a finite value is. -/
def toRat : Binary64 → ℚ
  | finite negative significand exponent =>
    (if negative then -1 else 1) * (significand * 2 ^ exponent)
  | infinite _ | nan => 0

/-- A finite value that is zero or well inside the range of floats. -/
def Mild : Binary64 → Prop
  | finite _ _ exponent => -999 ≤ exponent ∧ exponent ≤ 946
  | infinite _ | nan => False

instance : DecidablePred Mild
  | finite _ _ exponent => inferInstanceAs (Decidable (-999 ≤ exponent ∧ exponent ≤ 946))
  | infinite _ | nan => instDecidableFalse

/-- A finite float has a mantissa of 53 bits and an exponent of at most 971. -/
theorem ofBits_bounds {bits : Nat} {negative : Bool} {significand : Nat} {exponent : Int}
    (parts : ofBits bits = finite negative significand exponent) :
    significand < 2 ^ 53 ∧ exponent ≤ 971 := by
  unfold ofBits at parts
  have fraction : bits % hiddenBit < 2 ^ 52 := Nat.mod_lt _ (by decide)
  have field : bits / hiddenBit % 2048 < 2048 := Nat.mod_lt _ (by decide)
  dsimp only at parts
  split_ifs at parts with top whole bottom
  · cases parts
    omega
  · cases parts
    change 2 ^ 52 + _ < 2 ^ 53 ∧ _
    omega

variable {x : Float} {mantissa : Nat} {exponent : Int}

/-- The parts of a float are those of its unpacked form. -/
theorem exists_unpack_of_parts {negative : Bool}
    (parts : ofFloat x = finite negative mantissa exponent) (positive : 0 < mantissa) :
    ∃ sign, x.toModel.unpack = .finite sign mantissa exponent positive := by
  rw [ofFloat_eq] at parts
  cases shape : x.toModel.unpack with
  | infinity sign => rw [shape] at parts; cases parts
  | notANumber => rw [shape] at parts; cases parts
  | zero sign =>
      rw [shape] at parts
      obtain ⟨-, rfl, -⟩ := finite.inj parts
      exact absurd positive (lt_irrefl 0)
  | finite sign =>
      rw [shape] at parts
      obtain ⟨-, rfl, rfl⟩ := finite.inj parts
      exact ⟨sign, rfl⟩

/-- A float with a mantissa above zero is not zero. -/
theorem beq_zero_eq_false {sign : UnpackedFloat.Sign} {positive : 0 < mantissa}
    (unpacked : x.toModel.unpack = .finite sign mantissa exponent positive) :
    (x == 0.0) = false := by
  have zero : (0.0 : Float).toModel.unpack = .zero .positive := rfl
  change (x.toModel.unpack.compare (0.0 : Float).toModel.unpack == some .eq) = false
  rw [unpacked, zero]
  cases sign <;> rfl

end Binary64

/-- A usable scale is a finite float above zero. -/
theorem exists_parts_of_usable {scale : Float} (usable : usableScale scale = true) :
    ∃ mantissa exponent, Binary64.ofFloat scale = .finite false mantissa exponent ∧
      (Binary64.ofFloat scale).toRat = mantissa * 2 ^ exponent ∧
      0 < mantissa ∧ mantissa < 2 ^ 53 ∧ exponent ≤ 971 := by
  obtain ⟨mantissa, exponent, parts, positive⟩ := usableScale_iff.mp usable
  refine ⟨mantissa, exponent, parts, ?_, positive, Binary64.ofBits_bounds parts⟩
  rw [parts, Binary64.toRat, if_neg Bool.false_ne_true, one_mul]

namespace Conversion

/-- The exact value that the conversion of an integer stands for. -/
def exact : Conversion → ℚ → ℚ → ℚ
  | divide, value, scale => value / scale
  | multiply, value, scale => value * scale
  | reciprocal, value, scale => scale / value

end Conversion

namespace Register

/-- The scale as a rational number. -/
def exactScale (register : Register) : ℚ :=
  (Binary64.ofFloat register.scale).toRat

/-- The exact value of a content, which is zero inside the noise band. -/
def exactValue (register : Register) (raw noise : UInt32) : ℚ :=
  if (register.reading raw).natAbs ≤ noise.toNat then 0
  else register.conversion.exact (register.reading raw) register.exactScale

/-- The greatest magnitude of an integer that a register can hold. -/
def top (register : Register) : Nat :=
  if register.signed then 2 ^ 23 else 2 ^ 24 - 1

/-- The scale is not so far from one that the greatest integer overflows with it. -/
def Moderate (register : Register) : Prop :=
  match register.conversion with
  | .divide => register.top < overflowBound * register.exactScale
  | .multiply => register.top * register.exactScale < overflowBound
  | .reciprocal => True

variable {register : Register}

/-! ### The integers of a register -/

/-- No integer of a register exceeds its greatest magnitude. -/
theorem natAbs_reading_le (register : Register) (raw : UInt32) :
    (register.reading raw).natAbs ≤ register.top := by
  have bounds := register.reading_bounds raw
  unfold top
  cases signed : register.signed <;> simp [signed, span] at bounds ⊢ <;> omega

/-- The greatest magnitude is that of some content. -/
theorem exists_reading_top (register : Register) :
    ∃ raw, (register.reading raw).natAbs = register.top := by
  unfold top
  simp only [reading_eq]
  cases register.signed with
  | false => exact ⟨0xFFFFFF, by decide⟩
  | true => exact ⟨0x800000, by decide⟩

/-- The greatest magnitude fits 24 bits. -/
theorem top_le (register : Register) : register.top ≤ 2 ^ 24 := by
  unfold top
  split <;> decide

theorem top_pos (register : Register) : 0 < register.top := by
  unfold top
  split <;> decide

/-! ### Scales -/

/-- A sound scale is positive. -/
theorem exactScale_pos (sound : register.Sound) : 0 < register.exactScale := by
  obtain ⟨mantissa, exponent, -, exact, positive, -⟩ := exists_parts_of_usable sound.2
  rw [exactScale, exact]
  exact mul_pos (Nat.cast_pos.mpr positive) (zpow_pos two_pos exponent)

/-- A scale is a float, so it is below the bound itself. -/
theorem exactScale_lt (sound : register.Sound) : register.exactScale < overflowBound := by
  obtain ⟨mantissa, exponent, -, exact, -, narrow, small⟩ := exists_parts_of_usable sound.2
  have fits : (mantissa : ℚ) ≤ (2 ^ 53 - 1 : ℕ) := Nat.cast_le.mpr (by omega)
  have largest := (Binary64.lt_overflowBound_iff (2 ^ 53 - 1) 1).mpr (by decide)
  rw [exactScale, exact]
  refine lt_of_le_of_lt (mul_le_mul fits ?_ (zpow_pos two_pos _).le (Nat.cast_nonneg _)) largest
  exact zpow_le_zpow_right₀ one_le_two small

/-! ### Finite values -/

/-- A physical value is finite exactly if the value that it stands for is below the bound. -/
theorem isFinite_value_iff (sound : register.Sound) (raw noise : UInt32) :
    (register.value raw noise).isFinite = true ↔
      |register.exactValue raw noise| < overflowBound := by
  obtain ⟨mantissa, exponent, parts, scale, above, -⟩ := exists_parts_of_usable sound.2
  obtain ⟨sign, unpackedScale⟩ := Binary64.exists_unpack_of_parts parts above
  have exact : register.exactScale = mantissa * 2 ^ exponent := scale
  have positive := exactScale_pos sound
  rw [value_eq]
  unfold exactValue
  split_ifs with quiet
  · rw [abs_zero]
    exact iff_of_true (by decide) Binary64.overflowBound_pos
  · have narrow : (register.reading raw).natAbs < 2 ^ 53 := by
      have small := register.natAbs_reading_le raw
      have top := register.top_le
      omega
    obtain ⟨side, integer, last, nonzero, unpacked, full, same⟩ :=
      Binary64.exists_unpack_ofInt (by omega) narrow
    cases register.conversion with
    | divide =>
        rw [Conversion.apply, Binary64.isFinite_div_iff unpacked unpackedScale, same, ← exact,
          Conversion.exact, abs_div, abs_of_pos positive]
    | multiply =>
        rw [Conversion.apply, Binary64.isFinite_mul_iff full unpacked unpackedScale, same, ← exact,
          Conversion.exact, abs_mul, abs_of_pos positive]
    | reciprocal =>
        rw [Conversion.apply, Binary64.beq_zero_eq_false unpacked, if_neg Bool.false_ne_true,
          Binary64.isFinite_div_iff unpackedScale unpacked, same, ← exact, Conversion.exact,
          abs_div, abs_of_pos positive]

/-- The conversions that can overflow do so at the greatest integer first. -/
theorem abs_exactValue_le (sound : register.Sound) (raw noise : UInt32) :
    |register.exactValue raw noise| ≤
      match register.conversion with
      | .divide => register.top / register.exactScale
      | .multiply => register.top * register.exactScale
      | .reciprocal => register.exactScale := by
  have positive := exactScale_pos sound
  have small : |(register.reading raw : ℚ)| ≤ register.top := by
    rw [← Int.cast_abs, Int.abs_eq_natAbs]
    exact_mod_cast register.natAbs_reading_le raw
  unfold exactValue
  split_ifs with quiet
  · rw [abs_zero]
    cases register.conversion <;> positivity
  · have large : 1 ≤ |(register.reading raw : ℚ)| := by
      rw [← Int.cast_abs]
      exact_mod_cast Int.one_le_abs (by omega)
    cases register.conversion with
    | divide =>
        rw [Conversion.exact, abs_div, abs_of_pos positive]
        exact div_le_div_of_nonneg_right small positive.le
    | multiply =>
        rw [Conversion.exact, abs_mul, abs_of_pos positive]
        exact mul_le_mul_of_nonneg_right small positive.le
    | reciprocal =>
        rw [Conversion.exact, abs_div, abs_of_pos positive]
        exact div_le_self positive.le large

/-- The calibration of a register decides whether any content of it overflows. -/
theorem moderate_iff (sound : register.Sound) :
    register.Moderate ↔ ∀ raw noise, |register.exactValue raw noise| < overflowBound := by
  have positive := exactScale_pos sound
  constructor
  · intro moderate raw noise
    refine (abs_exactValue_le sound raw noise).trans_lt ?_
    unfold Moderate at moderate
    cases conversion : register.conversion <;> rw [conversion] at moderate
    · exact (div_lt_iff₀ positive).mpr moderate
    · exact moderate
    · exact exactScale_lt sound
  · intro below
    obtain ⟨raw, top⟩ := register.exists_reading_top
    have below := below raw 0
    have loud : ¬ (register.reading raw).natAbs ≤ (0 : UInt32).toNat := by
      have positive := register.top_pos
      rw [UInt32.toNat_zero, top]
      exact Nat.not_le.mpr positive
    have same : |(register.reading raw : ℚ)| = register.top := by
      rw [← Int.cast_abs, Int.abs_eq_natAbs, top]
      rfl
    unfold exactValue at below
    rw [if_neg loud] at below
    unfold Moderate
    cases conversion : register.conversion <;> rw [conversion, Conversion.exact] at below
    · rwa [abs_div, abs_of_pos positive, same, div_lt_iff₀ positive] at below
    · rwa [abs_mul, abs_of_pos positive, same] at below
    · trivial

/-- A mild scale lies well inside the range of floats. -/
theorem exactScale_bounds_of_mild (sound : register.Sound)
    (mild : (Binary64.ofFloat register.scale).Mild) :
    2 ^ (-999 : ℤ) ≤ register.exactScale ∧ register.exactScale ≤ 2 ^ (999 : ℤ) := by
  obtain ⟨mantissa, exponent, parts, exact, positive, narrow, -⟩ := exists_parts_of_usable sound.2
  rw [parts] at mild
  obtain ⟨least, most⟩ := mild
  have split : (2 : ℚ) ^ (999 : ℤ) = (2 ^ 53 : ℕ) * 2 ^ (946 : ℤ) := by
    rw [Nat.cast_pow, Nat.cast_ofNat, ← zpow_natCast, ← zpow_add₀ two_ne_zero]
    rfl
  rw [exactScale, exact]
  constructor
  · exact (zpow_le_zpow_right₀ one_le_two least).trans
      (le_mul_of_one_le_left (zpow_pos two_pos _).le (Nat.one_le_cast.mpr positive))
  · rw [split]
    exact mul_le_mul (Nat.cast_le.mpr narrow.le) (zpow_le_zpow_right₀ one_le_two most)
      (zpow_pos two_pos _).le (Nat.cast_nonneg _)

/-- A scale well inside the range of floats overflows with no content and no conversion. -/
theorem moderate_of_mild (sound : register.Sound)
    (mild : (Binary64.ofFloat register.scale).Mild) : register.Moderate := by
  obtain ⟨least, most⟩ := exactScale_bounds_of_mild sound mild
  have top : (register.top : ℚ) ≤ (2 ^ 24 : ℕ) := Nat.cast_le.mpr register.top_le
  have room : ((2 ^ 24 : ℕ) : ℚ) * 2 ^ (999 : ℤ) < overflowBound :=
    (Binary64.lt_overflowBound_iff (2 ^ 24) 29).mpr (by decide)
  unfold Moderate
  cases register.conversion with
  | divide =>
      calc (register.top : ℚ) ≤ (2 ^ 24 : ℕ) := top
        _ = (2 ^ 24 : ℕ) * 2 ^ (999 : ℤ) * 2 ^ (-999 : ℤ) := by
            rw [mul_assoc, ← zpow_add₀ two_ne_zero, add_neg_cancel, zpow_zero, mul_one]
        _ < overflowBound * 2 ^ (-999 : ℤ) := mul_lt_mul_of_pos_right room (zpow_pos two_pos _)
        _ ≤ overflowBound * register.exactScale :=
            mul_le_mul_of_nonneg_left least Binary64.overflowBound_pos.le
  | multiply =>
      refine lt_of_le_of_lt (mul_le_mul top most (exactScale_pos sound).le ?_) room
      exact Nat.cast_nonneg _
  | reciprocal => trivial

end Register

end MeterPoll
