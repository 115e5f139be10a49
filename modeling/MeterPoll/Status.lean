import MeterPoll.Json
import MeterPoll.Poller.Basic

/-!
# Status of a poller

The numbers that a status report needs, as a value, as one line of text and as JSON.
-/

namespace MeterPoll

/-- The calibration of one register. -/
structure Calibration where
  quantity : Quantity
  address : UInt8
  scale : Float
  conversion : Conversion

/-- What a poller has to report. -/
structure Status where
  readings : Readings
  counters : Counters
  calibration : List Calibration
  /-- The address of the register that is being served. -/
  register : UInt8
  awaiting : Bool
  consecutive : Nat
  lastFault : Option Fault

namespace Status

/-- The fraction of requests that brought an accepted reply, once there was a request. -/
def successRate? (status : Status) : Option Float :=
  if status.counters.tx = 0 then none
  else some (Float.ofNat status.counters.good / Float.ofNat status.counters.tx)

/-- The status on one line. -/
def summary (status : Status) : String :=
  let readings := status.readings
  let counters := status.counters
  "V=" ++ fixedPlaces 1 readings.voltage ++ "V I=" ++ fixedPlaces 3 readings.current ++
    "A P=" ++ fixedPlaces 1 readings.power ++ "W F=" ++ fixedPlaces 1 readings.frequency ++
    "Hz (tx=" ++ toString counters.tx ++ " good=" ++ toString counters.good ++
    " bad=" ++ toString counters.bad ++ " miss=" ++ toString counters.misses ++ ")"

end Status

/-- The readings as JSON. -/
def Readings.toJson (readings : Readings) : Json :=
  .object (Quantity.all.map fun quantity => (quantity.name, .real (readings.get quantity)))

/-- The counters as JSON. -/
def Counters.toJson (counters : Counters) : Json :=
  .object [
    ("tx", .nat counters.tx),
    ("good_frames", .nat counters.good),
    ("bad_frames", .nat counters.bad),
    ("misses", .nat counters.misses),
    ("abandoned", .nat counters.abandoned),
    ("discarded_bytes", .nat counters.discarded),
    ("write_enables", .nat counters.unlocks)]

/-- The progress as JSON. -/
def Progress.toJson (progress : Progress) : Json :=
  .object [
    ("current_register_index", .nat progress.index),
    ("consecutive_misses", .nat progress.consecutive),
    ("awaiting_response", .bool progress.awaiting),
    ("counters", progress.counters.toJson)]

/-- The calibration of a register as JSON. -/
def Calibration.toJson (calibration : Calibration) : Json :=
  .object [
    ("quantity", .text calibration.quantity.name),
    ("address", .nat calibration.address.toNat),
    ("scale", .real calibration.scale),
    ("conversion", .text calibration.conversion.name)]

/-- The status as JSON. -/
def Status.toJson (status : Status) : Json :=
  .object [
    ("measurements", status.readings.toJson),
    ("counters", status.counters.toJson),
    ("calibration", .array (status.calibration.map Calibration.toJson)),
    ("current_register", .nat status.register.toNat),
    ("awaiting_response", .bool status.awaiting),
    ("consecutive_misses", .nat status.consecutive),
    ("last_error", (status.lastFault.map fun fault => Json.text fault.message).getD .null)]

/-- A register as JSON. -/
def Register.toJson (register : Register) : Json :=
  .object [
    ("address", .nat register.address.toNat),
    ("scale", .real register.scale),
    ("name", .text register.name),
    ("quantity", .text register.quantity.name),
    ("signed", .bool register.signed),
    ("conversion", .text register.conversion.name)]

/-- A table as JSON. -/
def Table.toJson (table : Table) : Json :=
  .object [("entries", .array (table.entries.map Register.toJson))]

/-- The status of a poller. -/
def Poller.status {σ : Type} (poller : Poller σ) : Status where
  readings := poller.readings
  counters := poller.progress.counters
  calibration := poller.table.entries.map fun register =>
    ⟨register.quantity, register.address, register.scale, register.conversion⟩
  register := poller.register.address
  awaiting := poller.progress.awaiting
  consecutive := poller.progress.consecutive
  lastFault := poller.lastFault

end MeterPoll
