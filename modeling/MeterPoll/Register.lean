import MeterPoll.Decimal.Shortest
import MeterPoll.Frame
import MeterPoll.Quantity

/-!
# Registers and their calibration

A register holds 24 bits, read as an integer with or without sign, and a conversion with a scale
turns the integer into a physical value. A usable scale is a positive number (`usableScale_iff`).
-/

namespace MeterPoll

/-- How a scale turns the integer content of a register into a physical value. -/
inductive Conversion where
  /-- The integer over the scale. -/
  | divide
  /-- The integer times the scale. -/
  | multiply
  /-- The scale over the integer, for registers that count the ticks of a period. -/
  | reciprocal
  deriving DecidableEq, Repr

namespace Conversion

/-- The lower-case name. -/
def name : Conversion → String
  | divide => "divide"
  | multiply => "multiply"
  | reciprocal => "reciprocal"

/-- The conversion with a lower-case name. -/
def ofName? : String → Option Conversion
  | "divide" => some divide
  | "multiply" => some multiply
  | "reciprocal" => some reciprocal
  | _ => none

/-- The capitalised name used in log fields. -/
def title : Conversion → String
  | divide => "Divide"
  | multiply => "Multiply"
  | reciprocal => "Reciprocal"

/-- The physical value of an integer. A period of zero reads as zero. -/
def apply : Conversion → Float → Float → Float
  | divide, value, scale => value / scale
  | multiply, value, scale => value * scale
  | reciprocal, value, scale => if value == 0.0 then 0.0 else scale / value

end Conversion

/-- Whether a scale is finite and positive. -/
def usableScale (scale : Float) : Bool :=
  match Binary64.ofFloat scale with
  | .finite negative significand _ => !negative && significand != 0
  | _ => false

/-- A scale is usable exactly if its bits are those of a positive number. -/
theorem usableScale_iff {scale : Float} : usableScale scale = true ↔
    ∃ significand exponent, Binary64.ofFloat scale = .finite false significand exponent ∧
      0 < significand := by
  unfold usableScale
  split
  case h_1 negative significand exponent value =>
    cases negative <;> simp [value, Nat.pos_iff_ne_zero]
  case h_2 other =>
    simp only [Bool.false_eq_true, false_iff, not_exists, not_and]
    intro significand exponent value
    exact absurd value (other false significand exponent)

/-- Where a quantity is found and how its content is read. The name is for readers of messages and
need not be that of the quantity. -/
structure Register where
  address : UInt8
  scale : Float
  name : String
  quantity : Quantity
  signed : Bool
  conversion : Conversion

namespace Register

/-- An unsigned register, named for its quantity, whose content is divided by the scale. -/
def unsigned (address : UInt8) (quantity : Quantity) (scale : Float) : Register where
  address := address
  scale := scale
  name := quantity.name
  quantity := quantity
  signed := false
  conversion := .divide

/-- Whether the address selects a write instead of a read. -/
def hasWriteBit (register : Register) : Bool :=
  register.address &&& 0x80 != 0

/-- The low 24 bits of a content as an integer: two's complement if the register is signed. -/
def integer (register : Register) (raw : UInt32) : Int64 :=
  if register.signed then (Frame.signExtend raw).toInt64
  else (raw &&& Frame.rawMask).toUInt64.toInt64

/-- The integer of a content outside of any word. -/
def reading (register : Register) (raw : UInt32) : Int :=
  (register.integer raw).toInt

/-- The physical value of a content. Integers of a magnitude up to `noise` read as zero; the
magnitude is taken in an unsigned word, which has one for every signed integer. -/
def value (register : Register) (raw noise : UInt32) : Float :=
  if (register.integer raw).abs.toUInt64 ≤ noise.toUInt64 then 0.0
  else register.conversion.apply (Float.ofInt (register.reading raw)) register.scale

end Register

end MeterPoll
