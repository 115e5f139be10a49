import MeterPoll.Decimal.Shortest

/-!
# Layouts of decimals

How the digits of a float become text. A `Layout` holds the decisions of one output format; a
fixed number of places rounds the exact binary value to the nearest decimal with that many places,
a half going to the even neighbour.
-/

namespace MeterPoll

/-- The decisions of a format that writes floats with the fewest digits. -/
structure Layout where
  /-- Which of two equally near shortest decimals is written. -/
  tie : Tie
  /-- Whether a leading digit of this exponent is written positionally. -/
  positional : Int → Bool
  /-- Whether a whole number still gets a point and a zero. -/
  wholePoint : Bool
  /-- The texts of the infinities, by sign. -/
  infinity : Bool → String
  /-- The text of a value that is no number. -/
  notANumber : String

namespace Decimal

/-- The digits without exponent: `1200`, `1.2`, `0.0012`. -/
def positionalText (wholePoint : Bool) (d : Decimal) : String :=
  let digits := Nat.toDigits 10 d.digits
  let whole := d.exponent.toNat
  let places := (-d.exponent).toNat
  String.ofList <|
    if places = 0 then
      digits ++ List.replicate whole '0' ++ if wholePoint then ['.', '0'] else []
    else if places < digits.length then
      digits.take (digits.length - places) ++ '.' :: digits.drop (digits.length - places)
    else '0' :: '.' :: List.replicate (places - digits.length) '0' ++ digits

/-- One digit before the point and an exponent with a sign: `1.2e+21`, `5e-18`. -/
def scientificText (d : Decimal) : String :=
  let digits := Nat.toDigits 10 d.digits
  let lead := d.exponent + digits.length - 1
  let fraction := digits.drop 1
  String.ofList (digits.take 1 ++ (if fraction.isEmpty then [] else '.' :: fraction)) ++
    "e" ++ (if lead < 0 then "-" else "+") ++ toString lead.natAbs

end Decimal

namespace Layout

/-- A float in this layout. -/
def render (layout : Layout) (x : Float) : String :=
  match Binary64.ofFloat x with
  | .nan => layout.notANumber
  | .infinite negative => layout.infinity negative
  | .finite negative significand exponent =>
    let d := Decimal.shortest layout.tie significand exponent
    let lead := d.exponent + Decimal.width d.digits - 1
    (if negative then "-" else "") ++
      if layout.positional lead then d.positionalText layout.wholePoint else d.scientificText

end Layout

/-- The quotient of two natural numbers rounded to the nearest one, a half to the even one. -/
def roundDiv (num den : Nat) : Nat :=
  let quotient := num / den
  let twice := 2 * (num % den)
  if twice < den then quotient
  else if den < twice then quotient + 1
  else if quotient % 2 = 0 then quotient else quotient + 1

/-- How messages write a float: positionally, a whole number without a point, ties up. -/
def messageLayout : Layout where
  tie := .up
  positional := fun _ => true
  wholePoint := false
  infinity := fun negative => if negative then "-inf" else "inf"
  notANumber := "NaN"

/-- A float with a fixed number of places of at least one. -/
def fixedPlaces (places : Nat) (x : Float) : String :=
  match Binary64.ofFloat x with
  | .nan => messageLayout.notANumber
  | .infinite negative => messageLayout.infinity negative
  | .finite negative significand exponent =>
    let unit := Nat.pow 10 places
    let units :=
      roundDiv (significand * Nat.pow 2 exponent.toNat * unit) (Nat.pow 2 (-exponent).toNat)
    let fraction := Nat.toDigits 10 (units % unit)
    (if negative then "-" else "") ++ toString (units / unit) ++ "." ++
      String.ofList (List.replicate (places - fraction.length) '0' ++ fraction)

end MeterPoll
