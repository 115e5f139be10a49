import MeterPoll.Period.Basic
import MeterPoll.Text.Number
import MeterPoll.Text.Unicode

/-!
# Periods in text

A period is written as a list of numbers with units: `1h 30min`, `2.5s`, `1s500ms`. Blanks may
stand anywhere but inside a unit. A number may have decimal places if the result is a whole number
of nanoseconds, or of seconds for units of an hour and longer. A lone `0` needs no unit. Counts
that do not fit a 64-bit word are refused.
-/

namespace MeterPoll.Period

/-- A unit that a period may be given in. -/
inductive TimeUnit where
  | nanosecond
  | microsecond
  | millisecond
  | second
  | minute
  | hour
  | day
  | week
  | month
  | year
  deriving DecidableEq, Repr

namespace TimeUnit

/-- The unit with a name. -/
def ofName? : String → Option TimeUnit
  | "nanos" | "nsec" | "ns" => some nanosecond
  | "usec" | "us" | "µs" => some microsecond
  | "millis" | "msec" | "ms" => some millisecond
  | "seconds" | "second" | "secs" | "sec" | "s" => some second
  | "minutes" | "minute" | "min" | "mins" | "m" => some minute
  | "hours" | "hour" | "hrs" | "hr" | "h" => some hour
  | "days" | "day" | "d" => some day
  | "weeks" | "week" | "wks" | "wk" | "w" => some week
  | "months" | "month" | "M" => some month
  | "years" | "year" | "yrs" | "yr" | "y" => some year
  | _ => none

/-- Whether whole numbers of the unit are counted in nanoseconds rather than seconds. -/
def belowSecond : TimeUnit → Bool
  | nanosecond | microsecond | millisecond => true
  | _ => false

/-- The length of the unit, in nanoseconds below a second and in seconds from there on. -/
def length : TimeUnit → Nat
  | nanosecond => 1
  | microsecond => nanosPerMicro
  | millisecond => nanosPerMilli
  | second => 1
  | minute => 60
  | hour => 3600
  | day => secondsPerDay
  | week => 7 * secondsPerDay
  | month => secondsPerMonth
  | year => secondsPerYear

/-- The length by which a fraction of the unit is multiplied and whether that counts nanoseconds.
A nanosecond has no fractions. -/
def fractionLength? : TimeUnit → Option (Nat × Bool)
  | nanosecond => none
  | microsecond => some (nanosPerMicro, true)
  | millisecond => some (nanosPerMilli, true)
  | second => some (nanosPerSecond, true)
  | minute => some (60 * nanosPerSecond, true)
  | unit => some (unit.length, false)

end TimeUnit

/-- A number that fits a 64-bit word. -/
def word? (n : Nat) : Option Nat :=
  if n ≤ Text.maxWord 64 then some n else none

/-- A number read from text, with its decimal places if it has some. -/
structure Count where
  whole : Nat
  /-- The decimal places as a numerator over a power of ten. -/
  fraction : Option (Nat × Nat)

/-- Adds seconds or nanoseconds to a period. -/
def add? (period : Period) (amount : Nat) (nanoseconds : Bool) : Option Period := do
  let extra ← if nanoseconds then word? (period.remainder + amount) else some period.remainder
  let whole := if nanoseconds then 0 else amount
  let seconds ← word? (period.seconds + whole + extra / nanosPerSecond)
  some (ofSeconds seconds (extra % nanosPerSecond))

/-- Adds a number of a unit to a period. -/
def addCount? (period : Period) (count : Count) (unit : TimeUnit) : Option Period := do
  let whole ← word? (count.whole * unit.length)
  let period ← period.add? whole unit.belowSecond
  match count.fraction with
  | none => some period
  | some (numerator, denominator) =>
    let (length, nanoseconds) ← unit.fractionLength?
    let scaled ← word? (numerator * length)
    if scaled % denominator = 0 then period.add? (scaled / denominator) nanoseconds else none

/-- A character of a unit's name. -/
def isUnitChar (c : Char) : Bool :=
  c.isAlpha || c == 'µ'

/-- Reads digits, skipping blanks, onto a value and a power of ten that is ten times larger for
every digit; stops before any other character. -/
def readDigits? : Nat → Nat → List Char → Option (Nat × Nat × List Char)
  | value, power, [] => some (value, power, [])
  | value, power, c :: rest =>
    if c.isDigit then do
      let value ← word? (value * 10 + (c.toNat - 0x30))
      readDigits? value (power * 10) rest
    else if Text.isBlank c then readDigits? value power rest
    else some (value, power, c :: rest)

/-- Reads a number with optional decimal places. -/
def readCount? (cs : List Char) : Option (Count × List Char) := do
  let (whole, _, rest) ← readDigits? 0 1 cs
  match rest with
  | '.' :: more =>
    let (numerator, denominator, rest) ← readDigits? 0 1 more
    let denominator ← word? denominator
    if denominator = 1 then none else some (⟨whole, some (numerator, denominator)⟩, rest)
  | _ => some (⟨whole, none⟩, rest)

/-- Reads numbers with units onto a period, at most `fuel` of them. -/
def readCounts? : Nat → Period → List Char → Option Period
  | 0, _, _ => none
  | fuel + 1, period, cs => do
    if !(cs.head?.any Char.isDigit) then none
    let (count, rest) ← readCount? cs
    let unit ← TimeUnit.ofName? (String.ofList (rest.takeWhile isUnitChar))
    let period ← period.addCount? count unit
    match (rest.dropWhile isUnitChar).dropWhile Text.isBlank with
    | [] => some period
    | next => readCounts? fuel period next

/-- The period a text stands for. -/
def ofText? (s : String) : Option Period :=
  if s = "0" then some ⟨0⟩
  else readCounts? (s.length + 1) ⟨0⟩ (s.toList.dropWhile Text.isBlank)

end MeterPoll.Period
