import MeterPoll.Event
import MeterPoll.Line
import MeterPoll.Table

/-!
# The state of a poller

What a poller knows between two ticks: the line, the table, its options, where it is in the
rotation, the latest readings, and what it has logged. Everything that is counted is a natural
number. The counters that grow by one with an event would outgrow a word of 64 bits only after
2 ^ 64 events. The bytes thrown away grow by whatever counts the line answers, so a line that
answers very large ones could take a word past its end, where this sum just goes on. The requests
since the last unlock frame are only ever compared with an interval of 32 bits, so a count that
stays at the end of such a word once it is there compares in the same way.
-/

namespace MeterPoll

/-- When and how writes are unlocked. -/
structure UnlockPolicy where
  /-- Whether polling starts with an unlock frame. -/
  onStartup : Bool
  /-- After how many requests the frame is sent again; never if zero. -/
  interval : Nat
  register : UInt8
  key : UInt8
  deriving DecidableEq, Repr

/-- The policy of the reference device: unlock once, on startup. -/
def UnlockPolicy.standard : UnlockPolicy :=
  ⟨true, 0, Frame.unlockRegister, Frame.unlockKey⟩

/-- How a poller schedules requests and reads replies. -/
structure Options where
  /-- Misses on one register before it is given up for a round. -/
  maxRetries : Nat
  /-- The scheduler acts on every so many ticks. -/
  requestEvery : Nat
  /-- Integers of a magnitude up to this read as zero. -/
  noise : UInt32
  unlock : UnlockPolicy
  deriving DecidableEq, Repr

namespace Options

/-- Three tries, a request on every tick, no noise threshold. -/
def standard : Options :=
  ⟨3, 1, 0, .standard⟩

/-- Options with which a poller can work: at least one try and one tick. -/
def atLeastOne (options : Options) : Options :=
  { options with
    maxRetries := max options.maxRetries 1
    requestEvery := max options.requestEvery 1 }

end Options

/-- How often things happened. -/
structure Counters where
  /-- Requests sent. -/
  tx : Nat
  /-- Replies accepted. -/
  good : Nat
  /-- Replies rejected. -/
  bad : Nat
  /-- Requests found without a reply by the scheduler. -/
  misses : Nat
  /-- Registers given up for a round. -/
  abandoned : Nat
  /-- Received bytes thrown away. -/
  discarded : Nat
  /-- Unlock frames sent. -/
  unlocks : Nat
  deriving DecidableEq, Repr

/-- Nothing has happened. -/
def Counters.zero : Counters := ⟨0, 0, 0, 0, 0, 0, 0⟩

/-- Where a poller is in the rotation. -/
structure Progress where
  /-- The position of the register that is being served. -/
  index : Nat
  /-- Misses in a row on that register. -/
  consecutive : Nat
  /-- Whether a request is neither answered nor given up. -/
  awaiting : Bool
  counters : Counters
  deriving DecidableEq, Repr

namespace Progress

/-- The start of a rotation. It stands on the last position so that the first request is for the
first register. -/
def start (table : Table) : Progress :=
  ⟨table.length - 1, 0, false, .zero⟩

/-- Moves on to the next register, which has no misses yet. -/
def advance (progress : Progress) (table : Table) : Progress :=
  { progress with index := table.next progress.index, consecutive := 0 }

end Progress

/-- The latest value of each quantity. -/
structure Readings where
  voltage : Float
  current : Float
  power : Float
  frequency : Float

namespace Readings

/-- Nothing has been read. -/
def zero : Readings := ⟨0.0, 0.0, 0.0, 0.0⟩

/-- The value of a quantity. -/
def get (readings : Readings) : Quantity → Float
  | .voltage => readings.voltage
  | .current => readings.current
  | .power => readings.power
  | .frequency => readings.frequency

/-- Replaces the value of a quantity. -/
def set (readings : Readings) (quantity : Quantity) (value : Float) : Readings :=
  match quantity with
  | .voltage => { readings with voltage := value }
  | .current => { readings with current := value }
  | .power => { readings with power := value }
  | .frequency => { readings with frequency := value }

/-- A stored value is the one that is read again. -/
@[simp] theorem get_set_self (readings : Readings) (quantity : Quantity) (value : Float) :
    (readings.set quantity value).get quantity = value := by
  cases quantity <;> rfl

/-- Storing the value of one quantity leaves the others as they are. -/
theorem get_set_of_ne (readings : Readings) {quantity other : Quantity} (value : Float)
    (different : other ≠ quantity) :
    (readings.set quantity value).get other = readings.get other := by
  cases quantity <;> cases other <;> first | rfl | exact absurd rfl different

end Readings

/-- What one look for a reply came to. -/
inductive Collected where
  /-- No request is out. -/
  | idle
  /-- The reply is not complete. -/
  | waiting (available : Nat)
  | accepted (quantity : Quantity) (raw : UInt32) (value : Float)
  | rejected (fault : Fault)

/-- What the scheduler did on one tick. -/
inductive Tick where
  /-- The tick is not one to act on. -/
  | skipped
  /-- An unlock frame took the place of a request. -/
  | unlocked
  | requested (register : UInt8) (retry : Bool) (abandoned : Option UInt8)
  deriving DecidableEq, Repr

/-- A poller over a line. -/
structure Poller (σ : Type) where
  line : σ
  table : Table
  options : Options
  progress : Progress
  readings : Readings
  /-- Scheduler ticks so far. -/
  ticks : Nat
  /-- Requests sent since writes were last unlocked. -/
  sinceUnlock : Nat
  /-- Whether the chosen register lost its turn to an unlock frame. -/
  resume : Bool
  lastFault : Option Fault
  /-- What was logged, the latest first. -/
  log : List Event

namespace Poller

variable {σ : Type}

/-- A poller that has done nothing yet. -/
def new (line : σ) (table : Table) (options : Options) : Poller σ where
  line
  table
  options := options.atLeastOne
  progress := .start table
  readings := .zero
  ticks := 0
  sinceUnlock := 0
  resume := false
  lastFault := none
  log := []

/-- The register that is being served. -/
def register (poller : Poller σ) : Register :=
  poller.table.get poller.progress.index

/-- Logs an event. -/
def note (poller : Poller σ) (event : Event) : Poller σ :=
  { poller with log := event :: poller.log }

/-- Goes on with the line that an operation left, and logs what the line logged. -/
def goOn {α : Type} (poller : Poller σ) (served : Served σ α) : Poller σ :=
  { poller with line := served.line, log := served.events.reverse ++ poller.log }

/-- Calibrates a quantity with a new scale; values already read stay as they are. -/
def setScale (poller : Poller σ) (quantity : Quantity) (scale : Float) :
    Except Fault Unit × Poller σ :=
  match poller.table.setScale quantity scale with
  | .ok table => (.ok (), { poller with table }.note (.scaleSet quantity scale))
  | .error fault => (.error fault, poller)

/-- Calibrates a quantity with a new conversion; values already read stay as they are. -/
def setConversion (poller : Poller σ) (quantity : Quantity) (conversion : Conversion) :
    Except Fault Unit × Poller σ :=
  match poller.table.setConversion quantity conversion with
  | .ok table => (.ok (), { poller with table }.note (.conversionSet quantity conversion))
  | .error fault => (.error fault, poller)

end Poller

end MeterPoll
