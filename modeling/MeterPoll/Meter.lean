import MeterPoll.Line
import MeterPoll.Queue

/-!
# The simulated meter

A meter on the far end of a line. Bytes sent to it are searched for frames: a read request is
answered from its registers in the way the register's mode or the next scripted mode says, and an
unlock frame is counted. Answers wait until they are delivered, at once or by hand, into the queue
the poller reads from.
-/

namespace MeterPoll

/-- How a meter answers a read request. -/
inductive ReplyMode where
  /-- With a valid reply. -/
  | respond
  /-- Not at all. -/
  | silent
  /-- With the check byte complemented. -/
  | corrupt
  /-- With the first bytes of the reply only. -/
  | truncate (length : Nat)
  /-- With these bytes, whatever the register holds. -/
  | raw (bytes : List UInt8)
  deriving DecidableEq, Repr

namespace ReplyMode

/-- The bytes of an answer in this mode, given the content of the register if it has one. All modes
but `raw` are silent on a register without content. -/
def answer (mode : ReplyMode) (register : UInt8) (content? : Option UInt32) : List UInt8 :=
  match mode with
  | raw bytes => bytes
  | silent => []
  | respond => (content?.map fun raw => (Reply.encode register raw).toList).getD []
  | corrupt => (content?.map fun raw => (Reply.encode register raw).corrupt.toList).getD []
  | truncate length =>
    (content?.map fun raw => (Reply.encode register raw).toList.take length).getD []

end ReplyMode

/-- What a meter is told by a frame. -/
inductive Command where
  | read (register : UInt8)
  | unlock
  deriving DecidableEq, Repr

namespace Command

/-- Splits received bytes into the commands they hold and the start of a frame that is not yet
complete. Bytes before the head of a frame mean nothing, and an unlock frame is known by its
register alone. -/
def scan : List UInt8 → List Command × List UInt8
  | [] => ([], [])
  | byte :: rest =>
    if byte ≠ Frame.head then scan rest
    else
      match rest with
      | [] => ([], [byte])
      | register :: more =>
        if register = Frame.unlockRegister then
          match more with
          | _ :: _ :: _ :: _ :: next =>
            let (commands, left) := scan next
            (unlock :: commands, left)
          | _ => ([], byte :: rest)
        else
          let (commands, left) := scan more
          (read (Frame.readAddress register) :: commands, left)

end Command

/-- A simulated meter and the receive queue of the line it hangs on. -/
structure Meter where
  /-- The contents of the registers it has. -/
  registers : UInt8 → Option UInt32
  /-- The lasting mode of each register. -/
  modes : UInt8 → ReplyMode
  /-- Modes for the next requests, used before the lasting ones. -/
  script : List ReplyMode
  /-- Bytes that are the start of a frame. -/
  inbox : List UInt8
  /-- Bytes of answers that are not delivered. -/
  pending : List UInt8
  queue : Queue
  /-- Whether answers are delivered at once. -/
  immediate : Bool
  /-- Every byte that was sent to the meter, the latest first. -/
  sent : List UInt8
  /-- Every register that was requested, the latest first. -/
  requests : List UInt8
  /-- The number of unlock frames. -/
  unlocks : Nat

namespace Meter

/-- A meter without registers. -/
def bare : Meter where
  registers := fun _ => none
  modes := fun _ => .respond
  script := []
  inbox := []
  pending := []
  queue := .empty Queue.defaultCapacity
  immediate := true
  sent := []
  requests := []
  unlocks := 0

/-- Sets the content of a register. -/
def setRegister (meter : Meter) (address : UInt8) (content : UInt32) : Meter :=
  { meter with
    registers := fun other => if other = address then some content else meter.registers other }

/-- Sets the lasting mode of a register. -/
def setMode (meter : Meter) (address : UInt8) (mode : ReplyMode) : Meter :=
  { meter with modes := fun other => if other = address then mode else meter.modes other }

/-- A meter on a plausible supply: about 244 V, 1.5 A, 50 Hz and 366 W with the reference
calibration. -/
def reference : Meter :=
  bare |>.setRegister 0x08 0x291000 |>.setRegister 0x06 15000 |>.setRegister 0x09 5000
    |>.setRegister 0x0A 73200

/-- Holds answers back until they are delivered by hand. -/
def withManualDelivery (meter : Meter) : Meter :=
  { meter with immediate := false }

/-- Adds a mode for one request. -/
def addScript (meter : Meter) (mode : ReplyMode) : Meter :=
  { meter with script := meter.script ++ [mode] }

/-- An outcome of an operation on a meter that has no answer. -/
abbrev Done := Served Meter Unit

/-- Puts bytes into the receive queue. -/
def inject (meter : Meter) (bytes : List UInt8) : Done :=
  ⟨(), { meter with queue := meter.queue.push bytes }, meter.queue.pushEvents bytes⟩

/-- Delivers up to `count` waiting bytes. -/
def deliverBytes (meter : Meter) (count : Nat) : Done :=
  { meter with pending := meter.pending.drop count }.inject (meter.pending.take count)

/-- Delivers all waiting bytes. -/
def deliver (meter : Meter) : Done :=
  meter.deliverBytes meter.pending.length

/-- Drops the answers that are not delivered. -/
def dropPending (meter : Meter) : Meter :=
  { meter with pending := [] }

/-- Forgets which bytes were sent and which registers were requested. -/
def clearHistory (meter : Meter) : Meter :=
  { meter with sent := [], requests := [] }

/-- The mode of the next request for a register. -/
def modeFor (meter : Meter) (register : UInt8) : ReplyMode :=
  meter.script.head?.getD (meter.modes register)

/-- Does what a frame says. -/
def obey (meter : Meter) : Command → Done
  | .unlock => ⟨(), { meter with unlocks := meter.unlocks + 1 }, []⟩
  | .read register =>
    let reply := (meter.modeFor register).answer register (meter.registers register)
    let asked := { meter with
      requests := register :: meter.requests
      script := meter.script.tail }
    if meter.immediate then asked.inject reply
    else ⟨(), { asked with pending := asked.pending ++ reply }, []⟩

/-- Does what each of several frames says. -/
def obeyAll (meter : Meter) : List Command → Done
  | [] => ⟨(), meter, []⟩
  | command :: rest =>
    let first := meter.obey command
    let others := first.line.obeyAll rest
    ⟨(), others.line, first.events ++ others.events⟩

/-- Takes in a byte that was sent to the meter. -/
def receive (meter : Meter) (byte : UInt8) : Done :=
  let scanned := Command.scan (meter.inbox ++ [byte])
  { meter with sent := byte :: meter.sent, inbox := scanned.2 }.obeyAll scanned.1

instance : Line Meter where
  sendByte meter byte :=
    let done := meter.receive byte
    ⟨.ok (), done.line, done.events⟩
  available meter := ⟨meter.queue.length, meter, []⟩
  peek? meter offset := meter.queue.peek? offset
  consume meter count := { meter with queue := meter.queue.consume count }

end Meter

end MeterPoll
