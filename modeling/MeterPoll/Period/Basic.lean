/-!
# Periods of time

A period is a number of nanoseconds. It is written in two ways: as a list of whole numbers of
units, the largest first, and as a decimal number of the largest of four units that it reaches.
-/

namespace MeterPoll

/-- A span of time in whole nanoseconds. -/
structure Period where
  nanoseconds : Nat
  deriving DecidableEq, Repr

namespace Period

/-- The nanoseconds of a second, of a millisecond and of a microsecond. -/
def nanosPerSecond : Nat := 1000000000

@[inherit_doc nanosPerSecond]
def nanosPerMilli : Nat := 1000000

@[inherit_doc nanosPerSecond]
def nanosPerMicro : Nat := 1000

/-- A period of whole seconds and a remainder in nanoseconds. -/
def ofSeconds (seconds nanoseconds : Nat) : Period :=
  ⟨seconds * nanosPerSecond + nanoseconds⟩

/-- A period of whole milliseconds. -/
def ofMilliseconds (milliseconds : Nat) : Period :=
  ⟨milliseconds * nanosPerMilli⟩

/-- The whole seconds of a period. -/
def seconds (period : Period) : Nat :=
  period.nanoseconds / nanosPerSecond

/-- What is left after the whole seconds, in nanoseconds. -/
def remainder (period : Period) : Nat :=
  period.nanoseconds % nanosPerSecond

/-- The seconds of a day, of a month of 30.44 days and of a year of 365.25 days. -/
def secondsPerDay : Nat := 86400

@[inherit_doc secondsPerDay]
def secondsPerMonth : Nat := 2630016

@[inherit_doc secondsPerDay]
def secondsPerYear : Nat := 31557600

/-- A count of a long unit, which is spelled out and has a plural. -/
def longUnit (count : Nat) (unit : String) : Option String :=
  if count = 0 then none
  else some (toString count ++ unit ++ if count = 1 then "" else "s")

/-- A count of a short unit. -/
def shortUnit (count : Nat) (unit : String) : Option String :=
  if count = 0 then none else some (toString count ++ unit)

/-- The period as counts of units: `1day 2h 5ms`, or `0s`. -/
def toUnits (period : Period) : String :=
  let seconds := period.seconds
  let nanoseconds := period.remainder
  let afterYears := seconds % secondsPerYear
  let afterMonths := afterYears % secondsPerMonth
  let afterDays := afterMonths % secondsPerDay
  let parts := [
    longUnit (seconds / secondsPerYear) "year",
    longUnit (afterYears / secondsPerMonth) "month",
    longUnit (afterMonths / secondsPerDay) "day",
    shortUnit (afterDays / 3600) "h",
    shortUnit (afterDays % 3600 / 60) "m",
    shortUnit (afterDays % 60) "s",
    shortUnit (nanoseconds / nanosPerMilli) "ms",
    shortUnit (nanoseconds / nanosPerMicro % 1000) "us",
    shortUnit (nanoseconds % nanosPerMicro) "ns"].filterMap id
  if parts.isEmpty then "0s" else " ".intercalate parts

/-- A whole number and a fraction of `places` digits without the zeros at its end. -/
def trimmedDecimal (whole fraction places : Nat) : String :=
  let digits := Nat.toDigits 10 fraction
  let padded := List.replicate (places - digits.length) '0' ++ digits
  let kept := (padded.reverse.dropWhile (· == '0')).reverse
  toString whole ++ if kept.isEmpty then "" else "." ++ String.ofList kept

/-- The period as a decimal number of one unit: `1.5s`, `999.999999ms`. -/
def toDecimal (period : Period) : String :=
  let nanoseconds := period.remainder
  if 0 < period.seconds then trimmedDecimal period.seconds nanoseconds 9 ++ "s"
  else if nanosPerMilli ≤ nanoseconds then
    trimmedDecimal (nanoseconds / nanosPerMilli) (nanoseconds % nanosPerMilli) 6 ++ "ms"
  else if nanosPerMicro ≤ nanoseconds then
    trimmedDecimal (nanoseconds / nanosPerMicro) (nanoseconds % nanosPerMicro) 3 ++ "µs"
  else toString nanoseconds ++ "ns"

end Period

end MeterPoll
