/-!
# Floats in text

A float literal is an optional sign followed by a name of an infinity or of no number, in any
case, or by decimal digits with at most one point among or around them and an optional exponent.
The value is the binary64 number nearest to the decimal; exponents of any size are allowed.
-/

namespace MeterPoll.Decimal

/-- Why a text is not a float. -/
inductive FloatFault where
  | empty
  | invalid
  deriving DecidableEq, Repr

/-- The wording of a fault. -/
def FloatFault.message : FloatFault → String
  | .empty => "cannot parse float from empty string"
  | .invalid => "invalid float literal"

/-- The binary64 number nearest to `digits * 10 ^ exponent`. Decimals far outside the range of
binary64 are settled by their size alone. -/
def nearestFloat (digits : Nat) (exponent : Int) : Float :=
  let lead := exponent + (Nat.toDigits 10 digits).length
  if digits = 0 ∨ lead < -400 then 0.0
  else if 400 < lead then 1.0 / 0.0
  else Float.ofScientific digits (exponent < 0) exponent.natAbs

/-- The digits at the start of a text, and the rest. -/
def spanDigits (cs : List Char) : List Char × List Char :=
  (cs.takeWhile Char.isDigit, cs.dropWhile Char.isDigit)

/-- The number that decimal digits stand for. -/
def ofDigits (cs : List Char) : Nat :=
  cs.foldl (fun value c => value * 10 + (c.toNat - 0x30)) 0

/-- An optional exponent that ends the text: nothing, or `e`, an optional sign and digits. -/
def readExponent? : List Char → Option Int
  | [] => some 0
  | c :: rest =>
    if c ≠ 'e' ∧ c ≠ 'E' then none
    else
      let (negative, digits) : Bool × List Char := match rest with
        | '-' :: more => (true, more)
        | '+' :: more => (false, more)
        | more => (false, more)
      if digits.isEmpty || !digits.all Char.isDigit then none
      else some (if negative then -(ofDigits digits : Int) else ofDigits digits)

/-- A decimal without sign. -/
def readUnsigned? (cs : List Char) : Option Float := do
  let (whole, rest) := spanDigits cs
  let (fraction, rest) : List Char × List Char := match rest with
    | '.' :: more => spanDigits more
    | more => ([], more)
  if whole.isEmpty && fraction.isEmpty then none
  else
    let exponent ← readExponent? rest
    some (nearestFloat (ofDigits (whole ++ fraction)) (exponent - fraction.length))

/-- An unsigned float: a name or a decimal. -/
def readMagnitude? (cs : List Char) : Option Float :=
  let name := String.ofList (cs.map Char.toLower)
  if name = "inf" ∨ name = "infinity" then some (1.0 / 0.0)
  else if name = "nan" then some (0.0 / 0.0)
  else readUnsigned? cs

/-- Reads a whole text as a float. -/
def readFloat (s : String) : Except FloatFault Float :=
  match s.toList with
  | [] => .error .empty
  | '-' :: cs => ((readMagnitude? cs).map Neg.neg).elim (.error .invalid) .ok
  | '+' :: cs => (readMagnitude? cs).elim (.error .invalid) .ok
  | cs => (readMagnitude? cs).elim (.error .invalid) .ok

end MeterPoll.Decimal
