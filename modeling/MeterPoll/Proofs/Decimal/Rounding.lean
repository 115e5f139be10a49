import Mathlib.Algebra.Order.Floor.Semifield
import Mathlib.Data.Rat.Floor
import Mathlib.Tactic.FieldSimp
import Mathlib.Tactic.Linarith
import Mathlib.Tactic.NormNum
import Mathlib.Tactic.Ring
import MeterPoll.Proofs.Decimal.Unpacked

/-!
# Where rounding overflows

A product or quotient of floats is computed with some bits more than a float has and rounded to the
nearest float. All that matters to whether the result is finite is the computed magnitude down to
half a unit of its last bit (`Binary64.Holds`), and the result is finite exactly if the magnitude is
below `Binary64.overflowBound` (`Binary64.isFinite_pack_round_iff`).
-/

namespace MeterPoll

open Float.Model (UnpackedFloat Format totalExponent)
open Float.Model.UnpackedFloat (Sign Accuracy ExtendedMantissa packComponents shiftToTargetExponent
  roundWithAccuracy accuracyOfFraction divCore unpackExponent unpackMantissa)

namespace Binary64

/-- The middle between the largest finite float and the power of two above it, which rounds up. -/
def overflowBound : ℚ := 2 ^ 1024 - 2 ^ 970

/-- The bound lies half a unit above the greatest float. -/
theorem overflowBound_eq : overflowBound = ((2 ^ 54 - 1 : ℕ) : ℚ) * 2 ^ (970 : ℤ) := by
  have ones : ((2 ^ 54 - 1 : ℕ) : ℚ) = 2 ^ 54 - 1 := by norm_num
  have unit : (2 : ℚ) ^ (970 : ℤ) = 2 ^ 970 := zpow_natCast 2 970
  rw [overflowBound, ones, unit, sub_mul, one_mul, ← pow_add]

theorem overflowBound_pos : 0 < overflowBound := by
  rw [overflowBound_eq]
  exact mul_pos (Nat.cast_pos.mpr (by decide)) (zpow_pos two_pos _)

/-- In units of half the last bit of the largest floats the bound is a whole number. -/
theorem lt_overflowBound_iff (count zeros : Nat) :
    (count : ℚ) * 2 ^ ((970 : ℤ) + zeros) < overflowBound ↔ count * 2 ^ zeros < 2 ^ 54 - 1 := by
  have units : (count : ℚ) * 2 ^ ((970 : ℤ) + zeros) =
      (count * 2 ^ zeros : ℕ) * 2 ^ (970 : ℤ) := by
    rw [zpow_add₀ two_ne_zero, zpow_natCast, Nat.cast_mul, Nat.cast_pow, Nat.cast_ofNat,
      mul_right_comm, mul_assoc]
  rw [units, overflowBound_eq, mul_lt_mul_iff_left₀ (zpow_pos two_pos _), Nat.cast_lt]

/-! ### Bits that are dropped -/

/-- Twice the mantissa, and one more if the first bit that was dropped is set. -/
def doubled (kept : ExtendedMantissa) : Nat :=
  2 * kept.mantissa + kept.roundBit.toNat

/-- A shift by one bit halves the doubled mantissa. -/
theorem doubled_shiftRightOne (kept : ExtendedMantissa) :
    doubled kept.shiftRightOne = doubled kept / 2 := by
  have parity := Nat.mod_two_eq_zero_or_one kept.mantissa
  unfold doubled ExtendedMantissa.shiftRightOne
  cases kept.roundBit <;> rcases parity with even | odd <;> simp_all <;> omega

/-- A shift divides the mantissa by a power of two. -/
theorem mantissa_shiftRight (kept : ExtendedMantissa) (count : Nat) :
    (kept >>> count).mantissa = kept.mantissa / 2 ^ count := by
  change (count.repeat ExtendedMantissa.shiftRightOne kept).mantissa = _
  induction count with
  | zero => rw [pow_zero, Nat.div_one, Nat.repeat]
  | succ count ih =>
      rw [Nat.repeat, pow_succ, ← Nat.div_div_eq_div_mul, ← ih]
      rfl

theorem mantissa_ofMantissaAndAccuracy (mantissa : Nat) (accuracy : Accuracy) :
    (ExtendedMantissa.ofMantissaAndAccuracy mantissa accuracy).mantissa = mantissa := by
  rcases accuracy with _ | _ | _ | _ <;> rfl

/-- What is kept are the bits of a magnitude down to half a unit of the exponent. -/
def Holds (kept : ExtendedMantissa) (exponent : Int) (magnitude : ℚ) : Prop :=
  doubled kept = ⌊magnitude / 2 ^ (exponent - 1)⌋₊

variable {kept : ExtendedMantissa} {exponent : Int} {magnitude : ℚ}

/-- A shifted mantissa stands for the same magnitude at the next exponent. -/
theorem Holds.shiftRightOne (holds : Holds kept exponent magnitude) :
    Holds kept.shiftRightOne (exponent + 1) magnitude := by
  have half : magnitude / 2 ^ (exponent + 1 - 1) = magnitude / 2 ^ (exponent - 1) / (2 : ℕ) := by
    rw [div_div, Nat.cast_ofNat, ← zpow_add_one₀ two_ne_zero, sub_add_cancel, add_sub_cancel_right]
  rw [Holds, half, Nat.floor_div_natCast, ← holds, doubled_shiftRightOne]

/-- A mantissa shifted by many bits stands for the same magnitude. -/
theorem Holds.shiftRight (holds : Holds kept exponent magnitude) (count : Nat) :
    Holds (kept >>> count) (exponent + count) magnitude := by
  change Holds (count.repeat _ kept) _ _
  induction count with
  | zero => simpa [Nat.repeat] using holds
  | succ count ih =>
      rw [Nat.repeat, Nat.cast_succ, ← add_assoc]
      exact ih.shiftRightOne

/-- The mantissa is the magnitude in whole units of the exponent. -/
theorem Holds.mantissa_eq (holds : Holds kept exponent magnitude) :
    kept.mantissa = ⌊magnitude / 2 ^ exponent⌋₊ := by
  have next : Holds kept.shiftRightOne (exponent + 1) magnitude := holds.shiftRightOne
  rw [Holds, doubled_shiftRightOne, add_sub_cancel_right] at next
  rw [← next, doubled]
  cases kept.roundBit <;> simp only [Bool.toNat_false, Bool.toNat_true] <;> omega

/-- A whole number of units is below a count exactly if the magnitude is. -/
theorem floor_div_lt_iff (nonneg : 0 ≤ magnitude) (exponent : Int) (count : Nat) :
    ⌊magnitude / 2 ^ exponent⌋₊ < count ↔ magnitude < count * 2 ^ exponent := by
  have unit : (0 : ℚ) < 2 ^ exponent := zpow_pos two_pos exponent
  rw [Nat.floor_lt (div_nonneg nonneg unit.le), div_lt_iff₀ unit]

/-- Rounding adds at most one to the mantissa. -/
theorem roundedMantissa_bounds (kept : ExtendedMantissa) :
    kept.mantissa ≤ kept.roundedMantissa ∧ kept.roundedMantissa ≤ kept.mantissa + 1 := by
  obtain ⟨mantissa, roundBit, stickyBit⟩ := kept
  cases roundBit <;> cases stickyBit <;>
    simp [ExtendedMantissa.roundedMantissa, ExtendedMantissa.accuracy,
      Accuracy.roundToNearestEven]
  omega

/-- A mantissa of all ones is odd, so half a unit more carries it over. -/
theorem roundedMantissa_lt_iff (narrow : kept.mantissa < 2 ^ 53) :
    kept.roundedMantissa < 2 ^ 53 ↔ doubled kept < 2 ^ 54 - 1 := by
  obtain ⟨mantissa, roundBit, stickyBit⟩ := kept
  change mantissa < 2 ^ 53 at narrow
  cases roundBit <;> cases stickyBit <;>
    simp [ExtendedMantissa.roundedMantissa, ExtendedMantissa.accuracy,
      Accuracy.roundToNearestEven, doubled] <;> omega

variable {mantissa : Nat} {accuracy : Accuracy} {sign : Sign}

/-- A mantissa stays as it is if the first bit that was dropped is not set. -/
theorem roundedMantissa_of_doubled (even : doubled kept = 2 * mantissa) :
    kept.roundedMantissa = mantissa := by
  obtain ⟨left, roundBit, stickyBit⟩ := kept
  cases roundBit with
  | false =>
      have same : left = mantissa := Nat.eq_of_mul_eq_mul_left two_pos even
      cases stickyBit <;> exact same
  | true =>
      change 2 * left + 1 = 2 * mantissa at even
      omega

/-! ### The two shifts of rounding -/

/-- The exponent to which a number is rounded: the one that leaves 53 bits of the mantissa, and not
below that of the smallest floats. -/
def roundingExponent (mantissa : Nat) (exponent : Int) : Int :=
  max (mantissa.log2 + exponent - 52) (-1074)

/-- The exponent to which a number of this size is shifted. -/
theorem targetExponent_binary64 (total : Int) :
    Format.binary64.targetExponent total = max (total - 53) (-1074) := rfl

/-- The exponent to which a mantissa is shifted, by its own logarithm. -/
theorem targetExponent_eq (mantissa : Nat) (exponent : Int) :
    Format.binary64.targetExponent (totalExponent mantissa exponent) =
      roundingExponent mantissa exponent := by
  rw [targetExponent_binary64, totalExponent, roundingExponent]
  omega

/-- Where there is room, a mantissa is shifted right by the difference of the exponents. -/
theorem shiftToTargetExponent_eq (accuracy : Accuracy)
    (room : exponent ≤ roundingExponent mantissa exponent) :
    shiftToTargetExponent Format.binary64 mantissa exponent accuracy =
      (ExtendedMantissa.ofMantissaAndAccuracy mantissa accuracy >>>
        (roundingExponent mantissa exponent - exponent).toNat,
        roundingExponent mantissa exponent) := by
  rw [shiftToTargetExponent, targetExponent_eq]
  refine Prod.ext rfl ?_
  change exponent + ((roundingExponent mantissa exponent - exponent).toNat : Int) = _
  omega

/-- The shift leaves no more bits than fit. -/
theorem mantissa_shifted_lt (mantissa : Nat) (exponent : Int) :
    mantissa / 2 ^ (roundingExponent mantissa exponent - exponent).toNat < 2 ^ 53 := by
  rw [Nat.div_lt_iff_lt_mul (Nat.two_pow_pos _), ← pow_add]
  refine Nat.lt_log2_self.trans_le (Nat.pow_le_pow_right two_pos ?_)
  unfold roundingExponent
  omega

/-- The shift leaves as many bits as fit, unless the exponent is the least. -/
theorem le_mantissa_shifted (room : exponent ≤ roundingExponent mantissa exponent)
    (normal : -1074 < roundingExponent mantissa exponent) :
    2 ^ 52 ≤ mantissa / 2 ^ (roundingExponent mantissa exponent - exponent).toNat := by
  unfold roundingExponent at room normal ⊢
  have nonzero : mantissa ≠ 0 := by
    rintro rfl
    rw [Nat.log2_zero] at room normal
    omega
  rw [Nat.le_div_iff_mul_le (Nat.two_pow_pos _), ← pow_add]
  refine le_trans (Nat.pow_le_pow_right two_pos ?_) (Nat.log2_self_le nonzero)
  omega

/-- What the first shift leaves: all but the last exponent leave a full mantissa. -/
theorem exists_shifted (holds : Holds (.ofMantissaAndAccuracy mantissa accuracy) exponent magnitude)
    (room : exponent ≤ roundingExponent mantissa exponent) :
    ∃ kept, shiftToTargetExponent Format.binary64 mantissa exponent accuracy =
        (kept, roundingExponent mantissa exponent) ∧
      Holds kept (roundingExponent mantissa exponent) magnitude ∧
      kept.mantissa < 2 ^ 53 ∧
      (-1074 < roundingExponent mantissa exponent → 2 ^ 52 ≤ kept.mantissa) := by
  refine ⟨_, shiftToTargetExponent_eq accuracy room, ?_, ?_, ?_⟩
  · have shifted := holds.shiftRight (roundingExponent mantissa exponent - exponent).toNat
    rwa [Int.toNat_of_nonneg (Int.sub_nonneg_of_le room), add_sub_cancel] at shifted
  · rw [mantissa_shiftRight, mantissa_ofMantissaAndAccuracy]
    exact mantissa_shifted_lt mantissa exponent
  · rw [mantissa_shiftRight, mantissa_ofMantissaAndAccuracy]
    exact le_mantissa_shifted room

/-- A mantissa of 53 bits has a logarithm of at most 52. -/
theorem log2_le_of_lt (narrow : mantissa < 2 ^ 53) : mantissa.log2 ≤ 52 := by
  by_cases zero : mantissa = 0
  · rw [zero]
    decide
  · exact Nat.le_of_lt_succ ((Nat.log2_lt zero).mpr narrow)

/-- A mantissa that fits is not shifted. -/
theorem shiftToTargetExponent_of_lt (narrow : mantissa < 2 ^ 53) (least : -1074 ≤ exponent) :
    shiftToTargetExponent Format.binary64 mantissa exponent .exact =
      (⟨mantissa, false, false⟩, exponent) := by
  have fits := log2_le_of_lt narrow
  have still : (roundingExponent mantissa exponent - exponent).toNat = 0 := by
    unfold roundingExponent
    omega
  rw [shiftToTargetExponent, targetExponent_eq, Float.Model.UnpackedFloat.shiftToExponent, still]
  simp [HShiftRight.hShiftRight, Nat.repeat, ExtendedMantissa.ofMantissaAndAccuracy]

/-- A mantissa that was carried over is shifted by one bit. -/
theorem shiftToTargetExponent_carried (least : -1074 ≤ exponent) :
    shiftToTargetExponent Format.binary64 (2 ^ 53) exponent .exact =
      (⟨2 ^ 52, false, false⟩, exponent + 1) := by
  have next : roundingExponent (2 ^ 53) exponent = exponent + 1 := by
    rw [roundingExponent, Nat.log2_two_pow]
    omega
  have one : (exponent + 1 - exponent).toNat = 1 := by omega
  rw [shiftToTargetExponent_eq .exact (by omega), next, one]
  rfl

/-- How rounding goes on after the first shift. -/
inductive Rounded (sign : Sign) (kept : ExtendedMantissa) (exponent : Int) :
    UnpackedFloat → Prop where
  | zero (none : kept.roundedMantissa = 0) : Rounded sign kept exponent (.zero sign)
  | fits (narrow : kept.roundedMantissa < 2 ^ 53) (positive : 0 < kept.roundedMantissa) :
      Rounded sign kept exponent (.finite sign kept.roundedMantissa exponent positive)
  | carried (full : kept.roundedMantissa = 2 ^ 53) :
      Rounded sign kept exponent (.finite sign (2 ^ 52) (exponent + 1) (Nat.two_pow_pos 52))

/-- What is rounded at its target exponent falls under one of the cases. -/
theorem rounded_roundWithAccuracy {start : Int}
    (shifted : shiftToTargetExponent Format.binary64 mantissa start accuracy = (kept, exponent))
    (narrow : kept.mantissa < 2 ^ 53) (least : -1074 ≤ exponent) :
    Rounded sign kept exponent
      (roundWithAccuracy Format.binary64 sign mantissa start accuracy) := by
  unfold roundWithAccuracy
  rw [shifted]
  dsimp only
  by_cases small : kept.roundedMantissa < 2 ^ 53
  · rw [shiftToTargetExponent_of_lt small least]
    by_cases none : kept.roundedMantissa = 0
    · rw [dif_pos none]
      exact .zero none
    · rw [dif_neg none]
      exact .fits small _
  · have full : kept.roundedMantissa = 2 ^ 53 := by
      have bounds := roundedMantissa_bounds kept
      omega
    rw [full, shiftToTargetExponent_carried least]
    exact .carried full

/-! ### Which results are finite -/

/-- A float is finite exactly if its exponent field is not the top one. -/
theorem isFinite_unpack_iff (bits : BitVec Format.binary64.numBits) :
    (UnpackedFloat.unpack Format.binary64 bits).isFinite = true ↔
      unpackExponent bits ≠ -1#11 := by
  unfold UnpackedFloat.unpack
  by_cases top : unpackExponent bits = -1#11
  · rw [if_pos top]
    refine iff_of_false ?_ (not_not_intro top)
    split_ifs <;> exact Bool.false_ne_true
  · rw [if_neg top]
    refine iff_of_true ?_ top
    by_cases bottom : unpackExponent bits = 0#11
    · rw [if_pos bottom]
      by_cases whole : unpackMantissa bits = 0#52
      · rw [dif_pos whole]
        rfl
      · rw [dif_neg whole]
        rfl
    · rw [if_neg bottom]
      rfl

/-- Packed fields make a finite float exactly if the exponent field is not the top one. -/
theorem isFinite_unpack_packComponents (sign : Sign) (field : BitVec 11) (fraction : BitVec 52) :
    (UnpackedFloat.unpack Format.binary64
        (packComponents Format.binary64 sign field fraction)).isFinite = true ↔
      field ≠ -1#11 := by
  rw [isFinite_unpack_iff, Float.Model.UnpackedFloat.unpackExponent_packComponents]

/-- A packed mantissa is finite up to the greatest exponent. -/
theorem isFinite_pack_finite (positive : 0 < mantissa) :
    (Float.Model.pack (.finite sign mantissa exponent positive)).isFinite = true ↔
      exponent ≤ 971 := by
  change (UnpackedFloat.unpack _ (UnpackedFloat.pack Format.binary64 _)).isFinite = true ↔ _
  unfold UnpackedFloat.pack
  change (UnpackedFloat.unpack _
    (if 2048 ≤ (exponent + 1023 + 52).toNat + 1 then _ else _)).isFinite = true ↔ _
  split_ifs with tooLarge normal
  · refine iff_of_false ?_ (by omega)
    rw [Float.Model.UnpackedFloat.packedInfinity, isFinite_unpack_packComponents]
    exact not_not_intro rfl
  · refine iff_of_true ?_ (by omega)
    rw [isFinite_unpack_packComponents]
    intro top
    have field := congrArg BitVec.toNat top
    change (exponent + 1023 + 52).toNat % 2048 = 2047 at field
    omega
  · refine iff_of_true ?_ (by omega)
    rw [isFinite_unpack_packComponents]
    decide

/-- A packed zero is finite. -/
theorem isFinite_pack_zero : (Float.Model.pack (.zero sign)).isFinite = true := by
  cases sign <;> decide

/-- A rounded result is finite unless the exponent, or a mantissa that carries over, is too large.
-/
theorem Rounded.isFinite_iff {result : UnpackedFloat}
    (rounded : Rounded sign kept exponent result) :
    (Float.Model.pack result).isFinite = true ↔
      kept.roundedMantissa = 0 ∨ exponent ≤ 970 ∨
        exponent = 971 ∧ kept.roundedMantissa < 2 ^ 53 := by
  cases rounded with
  | zero none => exact iff_of_true isFinite_pack_zero (.inl none)
  | fits narrow positive =>
      rw [isFinite_pack_finite]
      omega
  | carried full =>
      rw [isFinite_pack_finite]
      omega

/-- A result is finite after rounding exactly if the exact magnitude is below the bound. -/
theorem isFinite_pack_round_iff (nonneg : 0 ≤ magnitude)
    (holds : Holds (.ofMantissaAndAccuracy mantissa accuracy) exponent magnitude)
    (room : exponent ≤ roundingExponent mantissa exponent) :
    (Float.Model.pack (roundWithAccuracy Format.binary64 sign mantissa exponent
      accuracy)).isFinite = true ↔ magnitude < overflowBound := by
  obtain ⟨kept, shifted, holds, narrow, wide⟩ := exists_shifted holds room
  have rounded : Rounded sign kept (roundingExponent mantissa exponent) _ :=
    rounded_roundWithAccuracy shifted narrow (le_max_right _ _)
  rw [rounded.isFinite_iff]
  have bounds := roundedMantissa_bounds kept
  have units := holds.mantissa_eq
  generalize roundingExponent mantissa exponent = target at holds wide units ⊢
  -- Below the exponent of the largest floats a carry does no harm, and above it nothing is finite.
  -- At it the mantissa may be all ones, and then the first bit that was dropped decides.
  rcases lt_trichotomy target 971 with low | rfl | high
  · have small := (lt_overflowBound_iff (2 ^ 53) 0).mpr (by decide)
    rw [units, floor_div_lt_iff nonneg] at narrow
    refine iff_of_true (by omega) (narrow.trans (lt_of_le_of_lt ?_ small))
    exact mul_le_mul_of_nonneg_left (zpow_le_zpow_right₀ one_le_two (by omega))
      (Nat.cast_nonneg _)
  · have carries := roundedMantissa_lt_iff narrow
    have last : (971 : ℤ) - 1 = 970 := rfl
    rw [holds, last] at carries
    rw [overflowBound_eq, ← floor_div_lt_iff nonneg, ← carries]
    omega
  · have large := (lt_overflowBound_iff (2 ^ 52) 2).not.mpr (by decide)
    have full := wide (by omega)
    rw [units, ← not_lt, floor_div_lt_iff nonneg, not_lt] at full
    refine iff_of_false (by omega) (not_lt_of_ge ((not_lt.mp large).trans (le_trans ?_ full)))
    exact mul_le_mul_of_nonneg_left (zpow_le_zpow_right₀ one_le_two (by omega))
      (Nat.cast_nonneg _)

/-! ### Products and quotients -/

/-- A mantissa stands for itself times its power of two. -/
theorem holds_exact (mantissa : Nat) (exponent : Int) :
    Holds (.ofMantissaAndAccuracy mantissa .exact) exponent (mantissa * 2 ^ exponent) := by
  have half : (mantissa : ℚ) * 2 ^ exponent / 2 ^ (exponent - 1) = (2 * mantissa : ℕ) := by
    rw [mul_div_assoc, ← zpow_sub₀ two_ne_zero, sub_sub_cancel, zpow_one, Nat.cast_mul,
      Nat.cast_ofNat, mul_comm]
  rw [Holds, half, Nat.floor_natCast]
  rfl

/-- The remainder of a division of mantissas says what the next bit of the quotient would be. -/
theorem doubled_quotient (dividend : Nat) {divisor : Nat} (positive : 0 < divisor) :
    doubled (.ofMantissaAndAccuracy (dividend / divisor)
      (accuracyOfFraction (dividend % divisor) divisor)) = 2 * dividend / divisor := by
  have parts : 2 * dividend =
      divisor * (2 * (dividend / divisor)) + 2 * (dividend % divisor) := by
    have parts := Nat.div_add_mod dividend divisor
    linarith
  have small := Nat.mod_lt dividend positive
  rw [parts, Nat.mul_add_div positive]
  unfold accuracyOfFraction
  generalize dividend % divisor = remainder at small ⊢
  generalize dividend / divisor = quotient
  have bit : 2 * remainder / divisor = if 2 * remainder < divisor then 0 else 1 := by
    split_ifs with below
    · exact Nat.div_eq_of_lt below
    · exact Nat.div_eq_of_lt_le (by omega) (by omega)
  rw [bit]
  by_cases exact : remainder = 0
  · rw [if_pos exact, if_pos (by omega)]
    rfl
  · rw [if_neg exact]
    rcases lt_trichotomy (2 * remainder) divisor with below | half | above
    · rw [Nat.compare_eq_lt.mpr below, if_pos below]
      rfl
    · rw [Nat.compare_eq_eq.mpr half, if_neg (by omega)]
      rfl
    · rw [Nat.compare_eq_gt.mpr above, if_neg (by omega)]
      rfl

/-- A whole quotient with the accuracy of its remainder stands for the exact quotient. -/
theorem holds_quotient (dividend : Nat) {divisor : Nat} (positive : 0 < divisor)
    (exponent : Int) :
    Holds (.ofMantissaAndAccuracy (dividend / divisor)
      (accuracyOfFraction (dividend % divisor) divisor)) exponent
      (dividend / divisor * 2 ^ exponent) := by
  have half : (dividend / divisor : ℚ) * 2 ^ exponent / 2 ^ (exponent - 1) =
      ((2 * dividend : ℕ) : ℚ) / (divisor : ℕ) := by
    rw [mul_div_assoc, ← zpow_sub₀ two_ne_zero, sub_sub_cancel, zpow_one, Nat.cast_mul,
      Nat.cast_ofNat]
    ring
  rw [Holds, half, Nat.floor_div_eq_div, doubled_quotient dividend positive]

variable {x y : Float} {xSign ySign : Sign} {first second : Nat}
  {firstExponent secondExponent : Int} {firstPositive : 0 < first} {secondPositive : 0 < second}

/-- The product of two floats, the first with a full mantissa. -/
theorem isFinite_mul_iff (full : 2 ^ 52 ≤ first)
    (left : x.toModel.unpack = .finite xSign first firstExponent firstPositive)
    (right : y.toModel.unpack = .finite ySign second secondExponent secondPositive) :
    (x * y).isFinite = true ↔
      first * 2 ^ firstExponent * (second * 2 ^ secondExponent) < overflowBound := by
  have product : (first : ℚ) * 2 ^ firstExponent * (second * 2 ^ secondExponent) =
      (first * second : ℕ) * 2 ^ (firstExponent + secondExponent) := by
    rw [zpow_add₀ two_ne_zero, Nat.cast_mul]
    ring
  have nonneg : (0 : ℚ) ≤ (first * second : ℕ) * 2 ^ (firstExponent + secondExponent) :=
    mul_nonneg (Nat.cast_nonneg _) (zpow_pos two_pos _).le
  have bits : 52 ≤ (first * second).log2 :=
    (Nat.le_log2 (Nat.mul_pos firstPositive secondPositive).ne').mpr
      (full.trans (Nat.le_mul_of_pos_right first secondPositive))
  change (Float.Model.pack
    (UnpackedFloat.mul _ x.toModel.unpack y.toModel.unpack)).isFinite = true ↔ _
  rw [left, right, product]
  refine isFinite_pack_round_iff nonneg (holds_exact ..) ?_
  unfold roundingExponent
  omega

/-- The dividend is shifted far enough for the quotient to have all bits that matter. -/
theorem exists_divCore (firstPositive : 0 < first) (secondPositive : 0 < second)
    (firstExponent secondExponent : Int) :
    ∃ count : Nat,
      divCore Format.binary64 first firstExponent second secondExponent =
        (first * 2 ^ count / second, firstExponent - secondExponent - count,
          accuracyOfFraction (first * 2 ^ count % second) second) ∧
      firstExponent - secondExponent - count ≤
        roundingExponent (first * 2 ^ count / second) (firstExponent - secondExponent - count) := by
  have target : Format.binary64.targetExponent
        (totalExponent first firstExponent - totalExponent second secondExponent) =
      max (first.log2 + firstExponent - second.log2 - secondExponent - 53) (-1074) := by
    rw [targetExponent_binary64, totalExponent, totalExponent]
    omega
  unfold divCore
  rw [target]
  dsimp only
  generalize shift : min (firstExponent - secondExponent)
    (max (first.log2 + firstExponent - second.log2 - secondExponent - 53) (-1074)) = last
  refine ⟨(firstExponent - secondExponent - last).toNat, ?_, ?_⟩
  · rw [Nat.shiftLeft_eq, Int.toNat_of_nonneg (by omega), sub_sub_cancel]
  · generalize count : (firstExponent - secondExponent - last).toNat = amount
    -- A quotient at the least exponent loses no bit that counts, whatever its size.
    by_cases least : last ≤ -1074
    · unfold roundingExponent
      omega
    · have enough : 2 ^ 52 ≤ first * 2 ^ amount / second := by
        rw [Nat.le_div_iff_mul_le secondPositive]
        calc 2 ^ 52 * second ≤ 2 ^ 52 * 2 ^ (second.log2 + 1) :=
              Nat.mul_le_mul_left _ Nat.lt_log2_self.le
          _ = 2 ^ (52 + (second.log2 + 1)) := (pow_add ..).symm
          _ ≤ 2 ^ (first.log2 + amount) := Nat.pow_le_pow_right two_pos (by omega)
          _ = 2 ^ first.log2 * 2 ^ amount := pow_add ..
          _ ≤ first * 2 ^ amount := Nat.mul_le_mul_right _ (Nat.log2_self_le firstPositive.ne')
      have bits := (Nat.le_log2 (Nat.pos_of_ne_zero (by omega)).ne').mpr enough
      unfold roundingExponent
      omega

/-- A quotient of floats is finite exactly if the exact quotient is below the bound. -/
theorem isFinite_div_iff
    (left : x.toModel.unpack = .finite xSign first firstExponent firstPositive)
    (right : y.toModel.unpack = .finite ySign second secondExponent secondPositive) :
    (x / y).isFinite = true ↔
      first * 2 ^ firstExponent / (second * 2 ^ secondExponent) < overflowBound := by
  obtain ⟨count, core, room⟩ :=
    exists_divCore firstPositive secondPositive firstExponent secondExponent
  have quotient : (first : ℚ) * 2 ^ firstExponent / (second * 2 ^ secondExponent) =
      (first * 2 ^ count : ℕ) / second * 2 ^ (firstExponent - secondExponent - count) := by
    rw [zpow_sub₀ two_ne_zero, zpow_sub₀ two_ne_zero, zpow_natCast, Nat.cast_mul, Nat.cast_pow,
      Nat.cast_ofNat]
    field_simp
  have nonneg : (0 : ℚ) ≤
      (first * 2 ^ count : ℕ) / second * 2 ^ (firstExponent - secondExponent - count) :=
    mul_nonneg (div_nonneg (Nat.cast_nonneg _) (Nat.cast_nonneg _)) (zpow_pos two_pos _).le
  change (Float.Model.pack
    (UnpackedFloat.div _ x.toModel.unpack y.toModel.unpack)).isFinite = true ↔ _
  rw [left, right, quotient]
  change (Float.Model.pack (let core := divCore Format.binary64 first _ second _
    roundWithAccuracy _ _ core.1 core.2.1 core.2.2)).isFinite = true ↔ _
  rw [core]
  exact isFinite_pack_round_iff nonneg (holds_quotient _ secondPositive _) room

end Binary64

end MeterPoll
