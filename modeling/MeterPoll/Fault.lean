import MeterPoll.Decimal.Layout
import MeterPoll.Frame
import MeterPoll.Period.Basic
import MeterPoll.Quantity
import MeterPoll.Text.Number

/-!
# Faults

Everything that can go wrong, as causes, and the wording of each cause. Faults of the protocol
leave one measurement stale for a cycle and are recoverable; faults of the configuration, the
calibration and the transport need an operator.
-/

namespace MeterPoll

/-- Why a list of registers is not a table. -/
inductive TableFault where
  | noEntries
  | writeBit (name : String) (address : UInt8)
  | duplicateAddress (address : UInt8)
  | duplicateQuantity (quantity : Quantity)
  /-- A reason given by the host program. -/
  | stated (reason : String)
  deriving DecidableEq, Repr

/-- Why a configuration that could be read cannot work. -/
inductive ConfigFault where
  | unknownLogLevel (text : String)
  | blankPort
  | zeroBaudRate
  | queueTooSmall (capacity : Nat)
  | zeroRetries
  | zeroRequestTicks
  | zeroPeriod
  | fastLongerThanSlow (fast slow : Period)
  | unlockWriteBit (register : UInt8)
  /-- A reason given by the host program. -/
  | stated (reason : String)
  deriving DecidableEq, Repr

/-- Why a serial port cannot be used. -/
inductive PortFault where
  | notOpened (path : String) (baudRate : Nat) (reason : String)
  /-- A reason given by the host program. -/
  | stated (reason : String)
  deriving DecidableEq, Repr

/-- A failure of any part of the program. -/
inductive Fault where
  /-- A reply whose check byte is not right for the requested register. -/
  | checksum (register : UInt8) (mismatch : Mismatch)
  /-- A register that was given up on after so many requests. -/
  | noReply (register : UInt8) (attempts : Nat)
  /-- Fewer bytes than a reply were found before a request and thrown away. -/
  | partialReply (length : Nat)
  | table (cause : TableFault)
  | scale (quantity : String) (value : Float)
  | unknownQuantity (text : String)
  /-- Settings that could not be read; the path leads to the offending key. -/
  | settings (path : List String)
  | configuration (cause : ConfigFault)
  /-- The host could not move bytes. -/
  | transfer (reason : String)
  | port (cause : PortFault)

/-- The wording of a wrong check byte. -/
def Mismatch.message (mismatch : Mismatch) : String :=
  "checksum mismatch: expected " ++ Text.hexLiteral mismatch.expected ++ ", got " ++
    Text.hexLiteral mismatch.actual

/-- The wording of a table fault. -/
def TableFault.message : TableFault → String
  | noEntries => "table must contain at least one register"
  | writeBit name address =>
    name ++ " register address " ++ Text.hexLiteral address ++ " has the write bit set"
  | duplicateAddress address => "duplicate register address " ++ Text.hexLiteral address
  | duplicateQuantity quantity => "quantity " ++ quantity.name ++ " appears twice"
  | stated reason => reason

/-- The wording of a configuration fault. -/
def ConfigFault.message : ConfigFault → String
  | unknownLogLevel text =>
    "Invalid log level '" ++ text ++ "'. Must be one of: trace, debug, info, warn, error"
  | blankPort => "serial.port must not be empty"
  | zeroBaudRate => "serial.baud_rate must be greater than 0"
  | queueTooSmall capacity =>
    "serial.rx_capacity " ++ toString capacity ++ " cannot hold a " ++
      toString Frame.replyLength ++ "-byte response"
  | zeroRetries => "scheduler.max_retries must be at least 1"
  | zeroRequestTicks => "scheduler.request_every_ticks must be at least 1"
  | zeroPeriod => "scheduler tick periods must be non-zero"
  | fastLongerThanSlow fast slow =>
    "scheduler.fast_tick (" ++ fast.toDecimal ++ ") is longer than scheduler.slow_tick (" ++
      slow.toDecimal ++ ")"
  | unlockWriteBit register =>
    "write_enable.register " ++ Text.hexLiteral register ++ " has bit 7 set"
  | stated reason => reason

/-- The wording of a port fault. -/
def PortFault.message : PortFault → String
  | notOpened path baudRate reason =>
    "Failed to open serial port '" ++ path ++ "' at " ++ toString baudRate ++ " baud: " ++ reason
  | stated reason => reason

namespace Fault

/-- The wording of a fault. -/
def message : Fault → String
  | checksum register mismatch =>
    "Register " ++ Text.hexLiteral register ++ ": " ++ mismatch.message
  | noReply register attempts =>
    "Register " ++ Text.hexLiteral register ++ " did not answer after " ++ toString attempts ++
      " attempts"
  | partialReply length =>
    "Discarded " ++ toString length ++ " stale byte(s) that did not form a frame"
  | table cause => "Invalid register table: " ++ cause.message
  | scale quantity value =>
    "Invalid scale " ++ messageLayout.render value ++ " for " ++ quantity ++
      ": must be finite and positive"
  | unknownQuantity text =>
    "Unknown quantity '" ++ text ++ "' (expected voltage, current, power or frequency)"
  | settings path =>
    if path.isEmpty then "Configuration error: the settings are malformed"
    else "Configuration error: invalid setting " ++ ".".intercalate path
  | configuration cause => "Configuration validation error: " ++ cause.message
  | transfer reason => "I/O error: " ++ reason
  | port cause => "Serial port error: " ++ cause.message

/-- Whether polling goes on as before after the fault. -/
def recoverable : Fault → Bool
  | checksum .. | noReply .. | partialReply .. => true
  | _ => false

/-- The fault of the frame behind this one, if there is one. -/
def mismatch? : Fault → Option Mismatch
  | checksum _ mismatch => some mismatch
  | _ => none

end Fault

end MeterPoll
