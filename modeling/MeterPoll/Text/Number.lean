/-!
# Numbers in text

Bytes are written as two hexadecimal digits, in lower case after `0x` inside messages and in upper
case on their own in printed frames. Integers are read as command lines and environment variables
write them: an optional sign and digits of one radix, within the bounds of the wanted type. A text
is read from the left, and the first digit that is no digit of the radix or takes the number out of
bounds decides the fault.
-/

namespace MeterPoll.Text

/-! ## Bytes in hexadecimal -/

/-- The lower-case hexadecimal digit of a number below sixteen. -/
def hexDigit (n : Nat) : Char :=
  if n < 10 then Char.ofNat (0x30 + n) else Char.ofNat (0x57 + n)

/-- The upper-case hexadecimal digit of a number below sixteen. -/
def hexDigitUpper (n : Nat) : Char :=
  if n < 10 then Char.ofNat (0x30 + n) else Char.ofNat (0x37 + n)

/-- A byte as two lower-case digits. -/
def hexByte (b : UInt8) : String :=
  String.ofList [hexDigit (b.toNat / 16), hexDigit (b.toNat % 16)]

/-- A byte as two upper-case digits. -/
def hexByteUpper (b : UInt8) : String :=
  String.ofList [hexDigitUpper (b.toNat / 16), hexDigitUpper (b.toNat % 16)]

/-- A byte as messages write it: `0x` and two lower-case digits. -/
def hexLiteral (b : UInt8) : String :=
  "0x" ++ hexByte b

/-- Bytes in upper case with a space between neighbours, as frames are printed. -/
def hexFrame (bytes : List UInt8) : String :=
  " ".intercalate (bytes.map hexByteUpper)

/-! ## Integers -/

/-- Why a text is not an integer of the wanted type. -/
inductive IntegerFault where
  | empty
  | invalidDigit
  | tooLarge
  | tooSmall
  deriving DecidableEq, Repr

namespace IntegerFault

/-- The wording of a fault. -/
def message : IntegerFault → String
  | empty => "cannot parse integer from empty string"
  | invalidDigit => "invalid digit found in string"
  | tooLarge => "number too large to fit in target type"
  | tooSmall => "number too small to fit in target type"

end IntegerFault

/-- The largest number of a word of `width` bits. -/
def maxWord (width : Nat) : Nat :=
  Nat.pow 2 width - 1

/-- The value of a digit in a radix of at most sixteen, in either case. -/
def digitValue? (radix : Nat) (c : Char) : Option Nat :=
  let n := c.toNat
  let value? :=
    if 0x30 ≤ n ∧ n ≤ 0x39 then some (n - 0x30)
    else if 0x61 ≤ n ∧ n ≤ 0x66 then some (n - 0x57)
    else if 0x41 ≤ n ∧ n ≤ 0x46 then some (n - 0x37)
    else none
  value?.filter (· < radix)

/-- Reads digits onto the value read so far, which must stay at or below `limit`; a larger number
is the fault `beyond`. -/
def readDigits (radix limit : Nat) (beyond : IntegerFault) : Nat → List Char →
    Except IntegerFault Nat
  | value, [] => .ok value
  | value, c :: rest =>
    match digitValue? radix c with
    | none => .error .invalidDigit
    | some digit =>
      if value * radix + digit ≤ limit then
        readDigits radix limit beyond (value * radix + digit) rest
      else .error beyond

/-- Reads an optional plus sign and at least one digit as a number of at most `limit`. -/
def readNat (radix limit : Nat) : List Char → Except IntegerFault Nat
  | [] => .error .empty
  | ['+'] => .error .invalidDigit
  | '+' :: digits => readDigits radix limit .tooLarge 0 digits
  | digits => readDigits radix limit .tooLarge 0 digits

/-- Reads an optional sign and at least one decimal digit as an integer of a signed word of
`width` bits. -/
def readInt (width : Nat) : List Char → Except IntegerFault Int
  | ['-'] => .error .invalidDigit
  | '-' :: digits =>
    (readDigits 10 (maxWord (width - 1) + 1) .tooSmall 0 digits).map fun n => -(n : Int)
  | cs => (readNat 10 (maxWord (width - 1)) cs).map fun n => (n : Int)

end MeterPoll.Text
