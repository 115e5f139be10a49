import Mathlib.Data.List.Forall2
import Mathlib.Data.Nat.Digits.Defs
import Mathlib.Tactic.Common
import Mathlib.Tactic.IntervalCases
import Mathlib.Tactic.Ring
import MeterPoll.Text.Number

/-!
# Numerals

Which texts are numerals of a radix, whatever their length: an optional plus sign and digits of
either case, with any number of zeros in front (`Text.Numeral`). Reading a number accepts exactly
the numerals of the numbers up to the limit (`Text.readNat_eq_ok_iff`).
-/

namespace MeterPoll.Text

/-- The digit of a value below sixteen, in either case. -/
def Digit (c : Char) (value : Nat) : Prop :=
  "0123456789abcdef".toList[value]? = some c ∨ "0123456789ABCDEF".toList[value]? = some c

/-- The digits spell the number in a radix, the most significant first. -/
def Spells (radix : Nat) (digits : List Char) (number : Nat) : Prop :=
  ∃ values, List.Forall₂ Digit digits values ∧ (∀ value ∈ values, value < radix) ∧
    Nat.ofDigits radix values.reverse = number

/-- The texts that stand for a number in a radix. -/
inductive Numeral (radix number : Nat) : List Char → Prop where
  | bare (digits : List Char) (nonempty : digits ≠ []) (spells : Spells radix digits number) :
      Numeral radix number digits
  | signed (digits : List Char) (nonempty : digits ≠ []) (spells : Spells radix digits number) :
      Numeral radix number ('+' :: digits)

variable {radix limit : Nat}

/-- A digit has a value below sixteen. -/
theorem Digit.lt {c : Char} {value : Nat} (digit : Digit c value) : value < 16 := by
  rcases digit with lower | upper
  · exact (List.getElem?_eq_some_iff.mp lower).1
  · exact (List.getElem?_eq_some_iff.mp upper).1

/-- A digit of the radix is read. -/
theorem digitValue?_of_digit {c : Char} {value : Nat} (digit : Digit c value)
    (below : value < radix) : digitValue? radix c = some value := by
  have small := digit.lt
  refine Option.filter_eq_some_iff.mpr ⟨?_, decide_eq_true below⟩
  clear below
  unfold Digit at digit
  interval_cases value <;> rcases digit with same | same <;> cases same <;> rfl

/-- What is not read in hexadecimal is no digit. -/
theorem not_digit_of_unread {c : Char} {value : Nat} (unread : digitValue? 16 c = none) :
    ¬ Digit c value := by
  intro digit
  rw [digitValue?_of_digit digit digit.lt] at unread
  cases unread

/-- What is read is a digit of the radix. -/
theorem digit_of_digitValue? {c : Char} {value : Nat} (read : digitValue? radix c = some value) :
    Digit c value ∧ value < radix := by
  obtain ⟨read, below⟩ := Option.filter_eq_some_iff.mp read
  refine ⟨?_, of_decide_eq_true below⟩
  clear below
  rw [← c.ofNat_toNat]
  generalize c.toNat = code at read ⊢
  unfold Digit
  split_ifs at read with decimal lower upper
  all_goals cases read
  · obtain ⟨low, high⟩ := decimal
    interval_cases code <;> decide
  · obtain ⟨low, high⟩ := lower
    interval_cases code <;> decide
  · obtain ⟨low, high⟩ := upper
    interval_cases code <;> decide

/-! ### Digits -/

/-- No digits spell zero. -/
theorem spells_nil_iff {number : Nat} : Spells radix [] number ↔ number = 0 := by
  constructor
  · rintro ⟨values, spelt, -, rfl⟩
    cases spelt
    rfl
  · rintro rfl
    exact ⟨[], .nil, nofun, rfl⟩

/-- A first digit counts as often as the rest has places for. -/
theorem spells_cons_iff {c : Char} {rest : List Char} {number : Nat} :
    Spells radix (c :: rest) number ↔ ∃ value onward, Digit c value ∧ value < radix ∧
      Spells radix rest onward ∧ value * radix ^ rest.length + onward = number := by
  constructor
  · rintro ⟨values, spelt, below, rfl⟩
    cases spelt with
    | cons digit spelt =>
        obtain ⟨first, below⟩ := List.forall_mem_cons.mp below
        refine ⟨_, _, digit, first, ⟨_, spelt, below, rfl⟩, ?_⟩
        rw [Nat.ofDigits_reverse_cons, spelt.length_eq, Nat.mul_comm, Nat.add_comm]
  · rintro ⟨value, onward, digit, first, ⟨values, spelt, below, rfl⟩, rfl⟩
    refine ⟨value :: values, .cons digit spelt, List.forall_mem_cons.mpr ⟨first, below⟩, ?_⟩
    rw [Nat.ofDigits_reverse_cons, spelt.length_eq, Nat.mul_comm, Nat.add_comm]

/-- A numeral that begins with a digit of known value. -/
theorem spells_cons_of_read {c : Char} {value : Nat} (read : digitValue? radix c = some value)
    {rest : List Char} {number : Nat} : Spells radix (c :: rest) number ↔
      ∃ onward, Spells radix rest onward ∧ value * radix ^ rest.length + onward = number := by
  rw [spells_cons_iff]
  constructor
  · rintro ⟨other, onward, digit, below, spells, same⟩
    cases read.symm.trans (digitValue?_of_digit digit below)
    exact ⟨onward, spells, same⟩
  · rintro ⟨onward, spells, same⟩
    obtain ⟨digit, below⟩ := digit_of_digitValue? read
    exact ⟨value, onward, digit, below, spells, same⟩

/-- Reading digits onto a number accepts what they spell behind it, up to the limit. -/
theorem readDigits_eq_ok_iff {beyond : IntegerFault} (positive : 0 < radix) {digits : List Char}
    {before number : Nat} (within : before ≤ limit) :
    readDigits radix limit beyond before digits = .ok number ↔
      number ≤ limit ∧
        ∃ onward, Spells radix digits onward ∧ before * radix ^ digits.length + onward = number := by
  -- Each digit makes another number of the one before it.
  induction digits generalizing before with
  | nil =>
      simp only [readDigits, spells_nil_iff, Except.ok.injEq]
      constructor
      · rintro rfl
        exact ⟨within, 0, rfl, by simp⟩
      · rintro ⟨-, _, rfl, same⟩
        simpa using same
  | cons c rest ih =>
      rw [readDigits]
      cases read : digitValue? radix c with
      | none =>
          refine iff_of_false nofun ?_
          rintro ⟨-, _, spells, -⟩
          obtain ⟨value, _, digit, below, -, -⟩ := spells_cons_iff.mp spells
          rw [digitValue?_of_digit digit below] at read
          cases read
      | some value =>
          have shifted (onward : Nat) : before * radix ^ (c :: rest).length +
              (value * radix ^ rest.length + onward) =
                (before * radix + value) * radix ^ rest.length + onward := by
            rw [List.length_cons]
            ring
          dsimp only
          split_ifs with fits
          · rw [ih fits]
            refine and_congr_right fun _ => ⟨?_, ?_⟩
            · rintro ⟨onward, rest, rfl⟩
              exact ⟨_, (spells_cons_of_read read).mpr ⟨onward, rest, rfl⟩, shifted onward⟩
            · rintro ⟨_, all, rfl⟩
              obtain ⟨onward, rest, rfl⟩ := (spells_cons_of_read read).mp all
              exact ⟨onward, rest, (shifted onward).symm⟩
          · refine iff_of_false nofun ?_
            rintro ⟨small, _, all, rfl⟩
            obtain ⟨onward, -, rfl⟩ := (spells_cons_of_read read).mp all
            rw [shifted] at small
            -- The digits that follow do not make the number any smaller.
            have grows : before * radix + value ≤
                (before * radix + value) * radix ^ rest.length :=
              Nat.le_mul_of_pos_right _ (Nat.pow_pos positive)
            omega

/-! ### Numerals -/

/-- A sign is no digit. -/
theorem not_spells_plus {digits : List Char} {number : Nat} :
    ¬ Spells radix ('+' :: digits) number := by
  intro spells
  obtain ⟨value, -, digit, -⟩ := spells_cons_iff.mp spells
  exact not_digit_of_unread rfl digit

/-- Digits are read as the number they spell, if that is within the limit. -/
theorem readDigits_zero_eq_ok_iff {beyond : IntegerFault} (positive : 0 < radix)
    {digits : List Char} {number : Nat} :
    readDigits radix limit beyond 0 digits = .ok number ↔
      Spells radix digits number ∧ number ≤ limit := by
  rw [readDigits_eq_ok_iff positive (Nat.zero_le limit)]
  simp [and_comm]

/-- Behind a sign there have to be digits. -/
theorem numeral_plus_iff {digits : List Char} {number : Nat} :
    Numeral radix number ('+' :: digits) ↔ digits ≠ [] ∧ Spells radix digits number := by
  constructor
  · intro numeral
    cases numeral with
    | bare _ _ spells => exact absurd spells not_spells_plus
    | signed _ nonempty spells => exact ⟨nonempty, spells⟩
  · rintro ⟨nonempty, spells⟩
    exact .signed digits nonempty spells

/-- Without a sign there have to be digits alone. -/
theorem numeral_iff_of_unsigned {cs : List Char} {number : Nat}
    (unsigned : ∀ digits, cs ≠ '+' :: digits) :
    Numeral radix number cs ↔ cs ≠ [] ∧ Spells radix cs number := by
  constructor
  · intro numeral
    cases numeral with
    | bare _ nonempty spells => exact ⟨nonempty, spells⟩
    | signed digits => exact absurd rfl (unsigned digits)
  · rintro ⟨nonempty, spells⟩
    exact .bare cs nonempty spells

/-- **Reading a number** accepts the numerals of the numbers up to the limit, and nothing else. -/
theorem readNat_eq_ok_iff (positive : 0 < radix) {cs : List Char} {number : Nat} :
    readNat radix limit cs = .ok number ↔ Numeral radix number cs ∧ number ≤ limit := by
  unfold readNat
  split
  next =>
    rw [numeral_iff_of_unsigned fun _ same => by cases same]
    simp
  next =>
    rw [numeral_plus_iff]
    simp
  next digits nonempty =>
    rw [numeral_plus_iff, readDigits_zero_eq_ok_iff positive, and_iff_right (nonempty : _ ≠ [])]
  next nonempty _ unsigned =>
    rw [numeral_iff_of_unsigned unsigned, readDigits_zero_eq_ok_iff positive,
      and_iff_right (nonempty : _ ≠ [])]

end MeterPoll.Text
