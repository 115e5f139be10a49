import MeterPoll.Proofs.Decimal.Rounding

/-!
# Whole numbers as floats

A whole number of up to 53 bits is a float exactly, with a full mantissa
(`Binary64.exists_unpack_ofInt`): its bits are shifted up to fill the mantissa, and nothing is
rounded away on the way through the standard library's conversion.
-/

namespace MeterPoll

open Float.Model (UnpackedFloat Format)
open Float.Model.UnpackedFloat (Sign packComponents roundWithAccuracy unpackExponent
  unpackMantissa)

namespace Binary64

/-- Zeros at the end of a number add to its logarithm. -/
theorem log2_mul_two_pow {count : Nat} (nonzero : count ≠ 0) (zeros : Nat) :
    (count * 2 ^ zeros).log2 = count.log2 + zeros := by
  have room : 0 < 2 ^ zeros := Nat.two_pow_pos zeros
  obtain ⟨above, below⟩ := (Nat.log2_eq_iff nonzero).mp rfl
  rw [Nat.log2_eq_iff (Nat.mul_ne_zero nonzero room.ne'), pow_add, Nat.add_right_comm, pow_add]
  exact ⟨Nat.mul_le_mul_right _ above, Nat.mul_lt_mul_of_pos_right below room⟩

/-- Fields that are neither at the top nor at the bottom unpack to the mantissa they spell. -/
theorem exists_unpack_of_fields {bits : BitVec Format.binary64.numBits}
    (notTop : unpackExponent bits ≠ -1#11)
    (notBottom : unpackExponent bits ≠ 0#11) {mantissa : Nat} {exponent : Int}
    (positive : 0 < mantissa) (whole : (1#1 ++ unpackMantissa bits).toNat = mantissa)
    (place : (unpackExponent bits).toNat = exponent + 1075) :
    ∃ sign, UnpackedFloat.unpack Format.binary64 bits =
      .finite sign mantissa exponent positive := by
  obtain rfl : ((unpackExponent bits).toNat : ℤ) - 1075 = exponent := by omega
  subst whole
  unfold UnpackedFloat.unpack
  rw [if_neg notTop, if_neg notBottom]
  exact ⟨_, rfl⟩

/-- The mantissa has all 53 bits, and the exponent is one of a float. -/
structure Full (mantissa : Nat) (exponent : Int) : Prop where
  bits : mantissa.log2 = 52
  least : -1074 ≤ exponent
  most : exponent ≤ 971

variable {mantissa : Nat} {exponent : Int}

namespace Full

/-- A full mantissa is not zero. -/
theorem nonzero (full : Full mantissa exponent) : mantissa ≠ 0 := by
  rintro rfl
  exact absurd full.bits (by decide)

/-- A full mantissa has exactly 53 bits. -/
theorem bounds (full : Full mantissa exponent) : 2 ^ 52 ≤ mantissa ∧ mantissa < 2 ^ 53 :=
  (Nat.log2_eq_iff full.nonzero).mp full.bits

/-- A full mantissa is packed as it is. -/
theorem toBits_pack (full : Full mantissa exponent) (sign : Sign) (positive : 0 < mantissa) :
    (Float.Model.pack (.finite sign mantissa exponent positive)).toBits.toBitVec =
      packComponents Format.binary64 sign (BitVec.ofNat 11 (exponent + 1023 + 52).toNat)
        (BitVec.ofNat 52 mantissa) := by
  have most := full.most
  change UnpackedFloat.pack Format.binary64 (.finite sign mantissa exponent positive) = _
  unfold UnpackedFloat.pack
  change (if 2048 ≤ (exponent + 1023 + 52).toNat + 1 then _ else
    if mantissa.log2 + 1 = 53 then _ else _) = _
  rw [if_neg (by omega), if_pos (by rw [full.bits])]
  rfl

/-- The exponent field of a full mantissa does not wrap around. -/
theorem toNat_field (full : Full mantissa exponent) :
    (BitVec.ofNat 11 (exponent + 1023 + 52).toNat).toNat = exponent + 1075 := by
  have least := full.least
  have most := full.most
  rw [BitVec.toNat_ofNat]
  omega

/-- The fraction of a full mantissa behind the hidden bit is the mantissa. -/
theorem toNat_fraction (full : Full mantissa exponent) :
    (1#1 ++ BitVec.ofNat 52 mantissa).toNat = mantissa := by
  have bounds := full.bounds
  rw [toNat_hiddenBit_append, BitVec.toNat_ofNat, hiddenBit]
  omega

/-- The float of a full mantissa is taken apart into what it was made of. -/
theorem unpack_pack (full : Full mantissa exponent) (sign : Sign) (positive : 0 < mantissa) :
    ∃ same, (Float.Model.pack (.finite sign mantissa exponent positive)).unpack =
      .finite same mantissa exponent positive := by
  have least := full.least
  have most := full.most
  have place := full.toNat_field
  rw [Float.Model.unpack, full.toBits_pack]
  generalize BitVec.ofNat 11 (exponent + 1023 + 52).toNat = field at place ⊢
  have kept : unpackExponent (packComponents Format.binary64 sign field (.ofNat 52 mantissa)) =
      field := Float.Model.UnpackedFloat.unpackExponent_packComponents
  refine exists_unpack_of_fields ?_ ?_ positive ?_ ?_
  · rw [kept]
    rintro rfl
    change (2047 : ℤ) = _ at place
    omega
  · rw [kept]
    rintro rfl
    change (0 : ℤ) = _ at place
    omega
  · rw [Float.Model.UnpackedFloat.unpackMantissa_packComponents]
    exact full.toNat_fraction
  · rw [kept]
    exact place

/-- Bits below a full mantissa that are not set are dropped without rounding. -/
theorem roundWithAccuracy_eq (full : Full mantissa exponent) (sign : Sign)
    (positive : 0 < mantissa) (zeros : Nat) :
    roundWithAccuracy Format.binary64 sign (mantissa * 2 ^ zeros) (exponent - zeros) .exact =
      .finite sign mantissa exponent positive := by
  have bits : (mantissa * 2 ^ zeros).log2 = 52 + zeros := by
    rw [log2_mul_two_pow full.nonzero, full.bits]
  have target : roundingExponent (mantissa * 2 ^ zeros) (exponent - zeros) = exponent := by
    have := full.least
    unfold roundingExponent
    omega
  obtain ⟨kept, shifted, holds, narrow, -⟩ :=
    exists_shifted (holds_exact (mantissa * 2 ^ zeros) (exponent - zeros)) (by omega)
  rw [target] at shifted holds
  have magnitude : ((mantissa * 2 ^ zeros : ℕ) : ℚ) * 2 ^ (exponent - zeros) =
      mantissa * 2 ^ exponent := by
    rw [zpow_sub₀ two_ne_zero, zpow_natCast, Nat.cast_mul, Nat.cast_pow, Nat.cast_ofNat]
    field_simp
  rw [magnitude] at holds
  have same : kept.roundedMantissa = mantissa :=
    roundedMantissa_of_doubled (holds.trans (holds_exact mantissa exponent).symm)
  have rounded : Rounded sign kept exponent _ :=
    rounded_roundWithAccuracy shifted narrow full.least
  generalize roundWithAccuracy Format.binary64 sign _ _ _ = result at rounded ⊢
  subst same
  cases rounded with
  | zero none => exact absurd none full.nonzero
  | fits => rfl
  | carried top => exact absurd top full.bounds.2.ne

/-- A product with one rounds the added zeros away again. -/
theorem mul_one (full : Full mantissa exponent) (sign : Sign) (positive : 0 < mantissa) :
    UnpackedFloat.mul Format.binary64 (.finite sign mantissa exponent positive)
        (.finite .positive (2 ^ 52) (-52) (Nat.two_pow_pos 52)) =
      .finite (sign * Sign.positive) mantissa exponent positive :=
  full.roundWithAccuracy_eq (sign * Sign.positive) positive 52

end Full

/-! ### The conversion of the standard library -/

variable {count : Nat}

/-- The bits of a number of up to 53 bits, shifted up. -/
theorem full_shifted (nonzero : count ≠ 0) (narrow : count < 2 ^ 53) :
    Full (count * 2 ^ (52 - count.log2)) (-(52 - count.log2 : ℕ)) := by
  have fits := log2_le_of_lt narrow
  refine ⟨?_, by omega, by omega⟩
  rw [log2_mul_two_pow nonzero, Nat.add_sub_cancel' fits]

/-- The float of a narrow machine word has the number shifted up to 53 bits. -/
theorem unpack_toFloat (positive : 0 < count) (narrow : count < 2 ^ 53) :
    ∃ sign above, count.toUInt64.toFloat.toModel.unpack =
      .finite sign (count * 2 ^ (52 - count.log2)) (-(52 - count.log2 : ℕ)) above := by
  have full := full_shifted positive.ne' narrow
  have above : 0 < count * 2 ^ (52 - count.log2) := Nat.pos_of_ne_zero full.nonzero
  have fits := log2_le_of_lt narrow
  have same : count.toUInt64.toNat = count := by
    rw [Nat.toUInt64_eq, UInt64.toNat_ofNat', Nat.mod_eq_of_lt (by omega)]
  have target : roundingExponent count 0 = -(52 - count.log2 : ℕ) := by
    unfold roundingExponent
    omega
  have amount : (0 - -((52 - count.log2 : ℕ) : ℤ)).toNat = 52 - count.log2 := by omega
  have rounded : Float.Model.UnpackedFloat.round Format.binary64 .positive count 0 =
      .finite .positive (count * 2 ^ (52 - count.log2)) (-(52 - count.log2 : ℕ)) above := by
    rw [Float.Model.UnpackedFloat.round, targetExponent_eq, target,
      Float.Model.UnpackedFloat.decreaseExponent, amount, Nat.shiftLeft_eq, zero_sub]
    have kept := full.roundWithAccuracy_eq .positive above 0
    rwa [pow_zero, Nat.mul_one, Nat.cast_zero, sub_zero] at kept
  have converted : count.toUInt64.toFloat.toModel =
      Float.Model.pack (Float.Model.UnpackedFloat.round Format.binary64 .positive count 0) := by
    change Float.Model.pack (Float.Model.UnpackedFloat.normalize Format.binary64
      count.toUInt64.toNat 0 .positive) = _
    rw [same, Float.Model.UnpackedFloat.normalize, Int.compare_eq_gt.mpr (by omega)]
    rfl
  rw [converted, rounded]
  obtain ⟨sign, unpacked⟩ := full.unpack_pack .positive above
  exact ⟨sign, above, unpacked⟩

/-- The float of a narrow number is that of the machine word times one. -/
theorem ofNat_eq (narrow : count < 2 ^ 53) :
    Float.ofNat count = count.toUInt64.toFloat * Float.ofBits 0x3FF0000000000000 := by
  change Float.ofScientific count false 0 = _
  unfold Float.ofScientific
  rw [dif_pos ⟨narrow, by decide⟩]
  rfl

/-- The float one, taken apart. -/
theorem unpack_one : (Float.ofBits 0x3FF0000000000000).toModel.unpack =
    .finite .positive (2 ^ 52) (-52) (Nat.two_pow_pos 52) := by
  rfl

/-- The float of a narrow number has the number shifted up to 53 bits. -/
theorem unpack_ofNat (positive : 0 < count) (narrow : count < 2 ^ 53) :
    ∃ sign above, (Float.ofNat count).toModel.unpack =
      .finite sign (count * 2 ^ (52 - count.log2)) (-(52 - count.log2 : ℕ)) above := by
  obtain ⟨sign, above, unpacked⟩ := unpack_toFloat positive narrow
  have full := full_shifted positive.ne' narrow
  have product : (count.toUInt64.toFloat * Float.ofBits 0x3FF0000000000000).toModel =
      Float.Model.pack (UnpackedFloat.mul Format.binary64 count.toUInt64.toFloat.toModel.unpack
        (Float.ofBits 0x3FF0000000000000).toModel.unpack) := rfl
  obtain ⟨same, packed⟩ := full.unpack_pack (sign * Sign.positive) above
  refine ⟨same, above, ?_⟩
  rw [ofNat_eq narrow, product, unpacked, unpack_one, full.mul_one, packed]

/-- A whole number of up to 53 bits is a float exactly. -/
theorem exists_unpack_ofInt {value : Int} (nonzero : value ≠ 0) (narrow : value.natAbs < 2 ^ 53) :
    ∃ sign mantissa exponent positive, (Float.ofInt value).toModel.unpack =
        .finite sign mantissa exponent positive ∧
      2 ^ 52 ≤ mantissa ∧ (mantissa : ℚ) * 2 ^ exponent = |(value : ℚ)| := by
  have positive : 0 < value.natAbs := Int.natAbs_pos.mpr nonzero
  have full := full_shifted positive.ne' narrow
  obtain ⟨sign, above, unpacked⟩ := unpack_ofNat positive narrow
  have exact : ((value.natAbs * 2 ^ (52 - value.natAbs.log2) : ℕ) : ℚ) *
      2 ^ (-(52 - value.natAbs.log2 : ℕ) : ℤ) = |(value : ℚ)| := by
    rw [zpow_neg, zpow_natCast, Nat.cast_mul, Nat.cast_pow, Nat.cast_ofNat,
      mul_inv_cancel_right₀ (pow_ne_zero _ two_ne_zero), Nat.cast_natAbs, Int.cast_abs]
  cases value with
  | ofNat count => exact ⟨sign, _, _, above, unpacked, full.bounds.1, exact⟩
  | negSucc count =>
      have negated : (Float.ofInt (.negSucc count)).toModel =
          Float.Model.pack (Float.ofNat (count + 1)).toModel.unpack.neg := rfl
      obtain ⟨same, packed⟩ := full.unpack_pack (-sign) above
      refine ⟨same, _, _, above, ?_, full.bounds.1, exact⟩
      change (Float.ofNat (count + 1)).toModel.unpack = _ at unpacked
      rw [negated, unpacked]
      exact packed

end Binary64

end MeterPoll
