/-!
# Measured quantities

The four quantities a meter reports, with their names and units.
-/

namespace MeterPoll

/-- A physical quantity measured by one register. -/
inductive Quantity where
  | voltage
  | current
  | power
  | frequency
  deriving DecidableEq, Repr

namespace Quantity

/-- All quantities in the order in which they are reported. -/
def all : List Quantity :=
  [voltage, current, power, frequency]

/-- The lower-case name used in configuration and messages. -/
def name : Quantity → String
  | voltage => "voltage"
  | current => "current"
  | power => "power"
  | frequency => "frequency"

/-- The symbol of the unit. -/
def unit : Quantity → String
  | voltage => "V"
  | current => "A"
  | power => "W"
  | frequency => "Hz"

/-- The quantity that a lower-case name or abbreviation stands for. -/
def ofName? : String → Option Quantity
  | "voltage" | "u" | "v" => some voltage
  | "current" | "i" | "a" => some current
  | "power" | "p" | "w" | "active_power" => some power
  | "frequency" | "freq" | "f" | "hz" => some frequency
  | _ => none

/-- The list of all quantities leaves none out. -/
theorem mem_all (quantity : Quantity) : quantity ∈ all := by
  cases quantity <;> decide

/-- A quantity is read from its own name. -/
theorem ofName?_name (quantity : Quantity) : ofName? quantity.name = some quantity := by
  cases quantity <;> rfl

end Quantity

end MeterPoll
