import MeterPoll.Fault
import MeterPoll.Register

/-!
# Events

What the program logs. Each event has a level, a message and named fields.
-/

namespace MeterPoll

/-- How serious an event is, the most serious first. -/
inductive LogLevel where
  | error
  | warn
  | info
  | debug
  | trace
  deriving DecidableEq, Repr

namespace LogLevel

/-- The upper-case name. -/
def name : LogLevel → String
  | error => "ERROR"
  | warn => "WARN"
  | info => "INFO"
  | debug => "DEBUG"
  | trace => "TRACE"

end LogLevel

/-- The value of a field of an event. -/
inductive EventField where
  | count (n : Nat)
  | flag (b : Bool)
  | real (x : Float)
  | text (s : String)

/-- Something that happened while polling. -/
inductive Event where
  /-- Received bytes did not fit the receive queue. -/
  | overrun (dropped capacity : Nat)
  /-- Bytes were waiting when polling started. -/
  | startupDiscarded (bytes : Nat)
  | unlockSent
  | ready (registers maxRetries : Nat)
  | requestSent (register : UInt8) (retry : Bool)
  | accepted (register : UInt8) (quantity : Quantity) (raw : UInt32) (value : Float)
  | rejected (register : UInt8) (reply : Reply) (mismatch : Mismatch)
  /-- A request found no reply and is repeated. -/
  | retrying (register : UInt8) (miss stale : Nat)
  /-- A request found no reply and its register is given up for this round. -/
  | abandoned (register : UInt8) (attempts stale : Nat)
  /-- Fewer bytes than a reply were thrown away before a frame was sent. -/
  | partialDiscarded (length : Nat)
  /-- At least as many bytes as a reply were thrown away before a frame was sent. -/
  | unsolicitedDiscarded (bytes : Nat)
  | scaleSet (quantity : Quantity) (scale : Float)
  | conversionSet (quantity : Quantity) (conversion : Conversion)

namespace Event

/-- How serious an event is. -/
def level : Event → LogLevel
  | overrun .. | rejected .. | retrying .. | abandoned .. => .warn
  | ready .. | scaleSet .. | conversionSet .. => .info
  | _ => .debug

/-- The message of an event. -/
def message : Event → String
  | overrun .. => "RX buffer overrun"
  | startupDiscarded _ => "HT7017: discarded startup bytes"
  | unlockSent => "HT7017: sent write enable"
  | ready .. => "HT7017 initialized"
  | requestSent register _ =>
    "HT7017: sent [" ++ Text.hexByteUpper Frame.head ++ " " ++ Text.hexByteUpper register ++ "]"
  | accepted _ quantity _ value =>
    "HT7017: " ++ quantity.name ++ " = " ++ fixedPlaces 3 value ++ " " ++ quantity.unit
  | rejected register _ mismatch => "HT7017: " ++ (Fault.checksum register mismatch).message
  | retrying .. => "HT7017: no response, retrying"
  | abandoned register attempts _ =>
    "HT7017: " ++ (Fault.noReply register attempts).message ++ ", skipping"
  | partialDiscarded length => "HT7017: " ++ (Fault.partialReply length).message
  | unsolicitedDiscarded _ => "HT7017: discarded unsolicited bytes"
  | scaleSet quantity scale =>
    "HT7017: " ++ quantity.name ++ " calibration set to " ++ messageLayout.render scale
  | conversionSet quantity _ => "HT7017: " ++ quantity.name ++ " conversion changed"

/-- Bytes as a field lists them: decimal numbers in brackets. -/
def byteList (bytes : List UInt8) : String :=
  "[" ++ ", ".intercalate (bytes.map fun b => toString b.toNat) ++ "]"

/-- The fields of an event. -/
def fields : Event → List (String × EventField)
  | overrun dropped capacity => [("dropped", .count dropped), ("capacity", .count capacity)]
  | startupDiscarded bytes | unsolicitedDiscarded bytes => [("bytes", .count bytes)]
  | ready registers maxRetries =>
    [("registers", .count registers), ("max_retries", .count maxRetries)]
  | requestSent register retry => [("register", .count register.toNat), ("retry", .flag retry)]
  | accepted register _ raw value =>
    [("register", .count register.toNat), ("raw", .count raw.toNat), ("value", .real value)]
  | rejected _ reply _ => [("frame", .text (byteList reply.toList))]
  | retrying register miss stale =>
    [("register", .count register.toNat), ("miss", .count miss), ("stale", .count stale)]
  | abandoned register _ stale =>
    [("register", .count register.toNat), ("stale", .count stale)]
  | conversionSet _ conversion => [("conversion", .text conversion.title)]
  | unlockSent | partialDiscarded _ | scaleSet .. => []

end Event

end MeterPoll
