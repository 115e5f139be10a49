import MeterPoll.Bench
import MeterPoll.Proofs.Meter.Answers
import MeterPoll.Proofs.Poller.Mirror

/-!
# A journal of received bytes

A simulated meter on faulty wires together with every byte that its receive queue ever stored
(`Journaled`). Nothing but taking bytes does anything to the queue other than adding to its end
(`Bench.prefix_sendByte`, `Bench.prefix_apply`), so that what an operation stored is what stands
behind the bytes it found. A poller cannot tell whether a journal is kept (`Journaled.view`).
-/

namespace MeterPoll

namespace Bench

/-- What may be done to a meter on faulty wires while it is polled. -/
inductive Handling where
  | meter (handling : MeterPoll.Handling)
  | failSending (failure : Option SendFailure)
  | limitPeeks (limit : Option Nat)

def Handling.apply : Handling → Bench → Served Bench Unit
  | meter handling, bench =>
    let done := handling.apply bench.meter
    ⟨(), { bench with meter := done.line }, done.events⟩
  | failSending sendFailure, bench => ⟨(), { bench with sendFailure }, []⟩
  | limitPeeks peekLimit, bench => ⟨(), { bench with peekLimit }, []⟩

/-- The received bytes that nobody has taken, the oldest first. -/
def waiting (bench : Bench) : List UInt8 :=
  bench.meter.queue.bytes

/-- A meter that gets a byte keeps everything that waits in its queue. -/
theorem prefix_receive (meter : Meter) (byte : UInt8) :
    meter.queue.bytes <+: (meter.receive byte).line.queue.bytes := by
  have received := meter.receive_withQueue meter.queue byte
  have queue := congrArg (·.queue.bytes) received
  exact ⟨_, queue.symm⟩

/-- A byte on the wires leaves everything that waits for the poller in front. -/
theorem prefix_sendByte (bench : Bench) (byte : UInt8) :
    bench.waiting <+: (Line.sendByte bench byte).line.waiting := by
  obtain ⟨meter, sendFailure, peekLimit⟩ := bench
  cases sendFailure with
  | none => exact prefix_receive meter byte
  | some failure =>
      obtain ⟨after, fault⟩ := failure
      cases after with
      | zero => exact List.prefix_rfl
      | succ after => exact prefix_receive meter byte

/-- Handling the meter or the wires leaves everything that waits in front. -/
theorem prefix_apply (handling : Handling) (bench : Bench) :
    bench.waiting <+: (handling.apply bench).line.waiting := by
  cases handling with
  | meter handling =>
      have queue := congrArg (·.bytes) (handling.queue_apply bench.meter)
      exact ⟨_, queue.symm⟩
  | failSending failure => exact List.prefix_rfl
  | limitPeeks limit => exact List.prefix_rfl

end Bench

/-- A meter on faulty wires and all the bytes that its receive queue stored, the oldest first. -/
structure Journaled where
  bench : Bench
  received : List UInt8

namespace Journaled

/-- A journal that is begun with the bytes that wait in the queue. -/
def begun (bench : Bench) : Journaled :=
  ⟨bench, bench.waiting⟩

/-- Writes down what an operation on the wires stored. -/
def record {α : Type} (journaled : Journaled) (served : Served Bench α) : Served Journaled α where
  answer := served.answer
  line :=
    { bench := served.line
      received := journaled.received ++ served.line.waiting.drop journaled.bench.waiting.length }
  events := served.events

instance : Line Journaled where
  sendByte journaled byte := journaled.record (Line.sendByte journaled.bench byte)
  available journaled := journaled.record (Line.available journaled.bench)
  peek? journaled offset := Line.peek? journaled.bench offset
  consume journaled count := { journaled with bench := Line.consume journaled.bench count }

def handle (handling : Bench.Handling) (journaled : Journaled) : Served Journaled Unit :=
  journaled.record (handling.apply journaled.bench)

/-- A journaled bench sends as the bench does. -/
theorem shows_sendByte (journaled : Journaled) (byte : UInt8) :
    (Line.sendByte journaled byte).Shows bench (Line.sendByte journaled.bench byte) :=
  ⟨rfl, rfl⟩

/-- A poller sees of a journaled line what it sees of the meter on its wires. -/
theorem view : Line.View Journaled.bench where
  send := Served.shows_sendEach shows_sendByte
  available _ := ⟨rfl, rfl⟩
  discardAll _ := ⟨rfl, rfl⟩
  peek? _ _ := rfl
  consume _ _ := rfl

end Journaled

end MeterPoll
