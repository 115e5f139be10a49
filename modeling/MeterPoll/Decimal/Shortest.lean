/-!
# Binary64 values and the fewest digits that read back

A `Float` is read as its sign and a natural number times a power of two, so that texts and bounds
can be decided with exact arithmetic on natural numbers. Its decimal is the one with the fewest
digits among those that round to it, and of these the nearest one. A decimal reads back when it lies
in the interval of reals that round to the value; the interval holds its ends exactly when the
significand is even. On each grid of decimals only the two neighbours of the value need a test.
-/

namespace MeterPoll

/-- A binary64 value: a signed multiple of a power of two, an infinity, or no number. -/
inductive Binary64 where
  /-- The value is `significand * 2 ^ exponent`, negated if `negative`. -/
  | finite (negative : Bool) (significand : Nat) (exponent : Int)
  | infinite (negative : Bool)
  | nan
  deriving DecidableEq, Repr

namespace Binary64

/-- The bit above the fraction field, which normal numbers have without storing it. -/
def hiddenBit : Nat := 0x10000000000000

/-- Reads the sign, exponent and fraction fields of a bit pattern. -/
def ofBits (bits : Nat) : Binary64 :=
  let negative := bits / (hiddenBit * 2048) % 2 == 1
  let field : Nat := bits / hiddenBit % 2048
  let fraction : Nat := bits % hiddenBit
  if field = 2047 then
    if fraction = 0 then infinite negative else nan
  else if field = 0 then finite negative fraction (-1074)
  else finite negative (hiddenBit + fraction) ((field : Int) - 1075)

/-- The value of a float. -/
def ofFloat (x : Float) : Binary64 :=
  ofBits x.toBits.toNat

end Binary64

/-- The decimal `digits * 10 ^ exponent`. -/
structure Decimal where
  digits : Nat
  exponent : Int
  deriving DecidableEq, Repr

/-- Which of two decimals at the same distance is taken. -/
inductive Tie where
  | toEven
  | up
  deriving DecidableEq, Repr

namespace Decimal

/-- The number of decimal digits of a natural number; one for zero. -/
def width (n : Nat) : Nat :=
  (Nat.toDigits 10 n).length

/-- The least `j` from `start` on with `den ≤ num * 10 ^ j`, looked for `fuel` times. -/
def shiftFrom (num den : Nat) : Nat → Nat → Nat
  | 0, start => start
  | fuel + 1, start =>
    if den ≤ num * Nat.pow 10 start then start else shiftFrom num den fuel (start + 1)

/-- The exponent of the leading digit of `num / den`. -/
def leadingExponent (num den : Nat) : Int :=
  if den ≤ num then (width (num / den) : Int) - 1
  else
    let start := (den.log2 - num.log2) * 30103 / 100000 - 1
    Int.negOfNat (shiftFrom num den 8 start)

/-- Whether `candidate * 10 ^ k` lies in the interval of reals that round to
`significand * 2 ^ exponent`. The interval reaches half a step up, and half a step down or a
quarter when the significand is the least one of its binade. -/
def readsBack (significand : Nat) (exponent : Int) (candidate : Nat) (k : Int) : Bool :=
  let narrow := significand == Binary64.hiddenBit && exponent > -1074
  let scale := Nat.pow 2 (exponent - 2).toNat * Nat.pow 10 (-k).toNat
  let lower := (4 * significand - if narrow then 1 else 2) * scale
  let upper := (4 * significand + 2) * scale
  let middle := candidate * Nat.pow 10 k.toNat * Nat.pow 2 (2 - exponent).toNat
  if significand % 2 = 0 then lower ≤ middle && middle ≤ upper
  else lower < middle && middle < upper

/-- The neighbour of the value on the grid of multiples of `10 ^ k` that reads back, if one
does. -/
def onGrid? (tie : Tie) (significand : Nat) (exponent : Int) (k : Int) : Option Nat :=
  let num := significand * Nat.pow 2 exponent.toNat * Nat.pow 10 (-k).toNat
  let den := Nat.pow 2 (-exponent).toNat * Nat.pow 10 k.toNat
  let below := num / den
  let back := readsBack significand exponent
  match back below k, back (below + 1) k with
  | false, false => none
  | true, false => some below
  | false, true => some (below + 1)
  | true, true =>
    if 2 * num < (2 * below + 1) * den then some below
    else if (2 * below + 1) * den < 2 * num then some (below + 1)
    else match tie with
      | .up => some (below + 1)
      | .toEven => some (if below % 2 = 0 then below else below + 1)

/-- Tries the grids of `count`, `count + 1`, … digits; seventeen always suffice. -/
def firstGrid (tie : Tie) (significand : Nat) (exponent lead : Int) : Nat → Nat → Decimal
  | 0, count => ⟨0, lead - count⟩
  | fuel + 1, count =>
    let k := lead - count + 1
    match onGrid? tie significand exponent k with
    | some digits => ⟨digits, k⟩
    | none => firstGrid tie significand exponent lead fuel (count + 1)

/-- Moves factors of ten from the digits into the exponent. -/
def stripZeros : Nat → Decimal → Decimal
  | 0, d => d
  | fuel + 1, d =>
    if d.digits ≠ 0 ∧ d.digits % 10 = 0 then stripZeros fuel ⟨d.digits / 10, d.exponent + 1⟩
    else d

/-- The shortest decimal that rounds to `significand * 2 ^ exponent`; zero is its own text. -/
def shortest (tie : Tie) (significand : Nat) (exponent : Int) : Decimal :=
  if significand = 0 then ⟨0, 0⟩
  else
    let num := significand * Nat.pow 2 exponent.toNat
    let den := Nat.pow 2 (-exponent).toNat
    stripZeros 20 (firstGrid tie significand exponent (leadingExponent num den) 17 1)

end Decimal

end MeterPoll
