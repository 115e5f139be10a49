import MeterPoll.Queue

/-!
# Serial settings

How the serial port is opened. Eight data bits and one stop bit are fixed by the device.
-/

namespace MeterPoll

/-- The parity of the serial line. -/
inductive Parity where
  | even
  | none
  deriving DecidableEq, Repr

namespace Parity

/-- The lower-case name. -/
def name : Parity → String
  | even => "even"
  | none => "none"

/-- The parity with a lower-case name. -/
def ofName? : String → Option Parity
  | "even" => some even
  | "none" => some none
  | _ => .none

/-- The capitalised name used in descriptions. -/
def title : Parity → String
  | even => "Even"
  | none => "None"

end Parity

/-- How the serial port is opened. -/
structure SerialSettings where
  port : String
  baudRate : Nat
  parity : Parity
  /-- The capacity of the receive queue. -/
  capacity : Nat
  deriving DecidableEq, Repr

/-- The settings of the device on the usual port. -/
def SerialSettings.standard : SerialSettings :=
  ⟨"/dev/ttyUSB0", 4800, .even, Queue.defaultCapacity⟩

end MeterPoll
