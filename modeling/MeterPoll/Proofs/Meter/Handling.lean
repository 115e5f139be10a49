import MeterPoll.Meter

/-!
# Handling a meter

What may be done to a simulated meter while it is polled. However it is handled, the bytes that
reach the receive queue depend on the rest of the meter alone and are pushed all at once
(`Handling.apply_withQueue`), so that bytes which fit can as well be pushed after older ones were
taken (`Queue.consume_push`). Nothing a meter does takes back the count of the bytes that were lost.
-/

namespace MeterPoll

namespace Queue

/-- No bytes change nothing when they arrive. -/
@[simp] theorem push_nil (queue : Queue) : queue.push [] = queue := by
  ext1
  · rw [bytes_push, List.take_nil, List.append_nil]
  · rfl
  · simp only [overruns_push, excess, List.length_nil, Nat.zero_sub, Nat.add_zero]

@[simp] theorem pushEvents_nil (queue : Queue) : queue.pushEvents [] = [] := by
  simp only [pushEvents, excess, List.length_nil, Nat.zero_sub, if_true]

/-- Bytes that fit the queue are not logged. -/
theorem pushEvents_of_fits {queue : Queue} {arriving : List UInt8}
    (fits : queue.excess arriving = 0) : queue.pushEvents arriving = [] :=
  if_pos fits

/-- Bytes that fit a queue fit it after some of its own were consumed. -/
theorem excess_consume {queue : Queue} {arriving : List UInt8} (fits : queue.excess arriving = 0)
    (count : Nat) : (queue.consume count).excess arriving = 0 := by
  simp only [excess, room, bytes_consume, capacity_consume, List.length_drop] at fits ⊢
  omega

/-- Bytes that fit may arrive before or after older ones are taken. -/
theorem consume_push {queue : Queue} {arriving : List UInt8} {count : Nat}
    (fits : queue.excess arriving = 0) (enough : count ≤ queue.length) :
    (queue.push arriving).consume count = (queue.consume count).push arriving := by
  have all : arriving.length ≤ queue.room := Nat.le_of_sub_eq_zero fits
  have allAfter : arriving.length ≤ (queue.consume count).room :=
    Nat.le_of_sub_eq_zero (excess_consume fits count)
  ext1
  · rw [bytes_consume, bytes_push, bytes_push, bytes_consume, List.take_of_length_le all,
      List.take_of_length_le allAfter, List.drop_append_of_le_length enough]
  · rfl
  · rw [overruns_consume, overruns_push, overruns_push, overruns_consume, fits,
      excess_consume fits]

/-- Arriving bytes do not change what is seen of the waiting ones. -/
theorem peek?_push {queue : Queue} {offset : Nat} (there : offset < queue.length)
    (arriving : List UInt8) : (queue.push arriving).peek? offset = queue.peek? offset :=
  List.getElem?_append_left there

/-- Arriving bytes do not make a queue shorter. -/
theorem length_le_push (queue : Queue) (arriving : List UInt8) :
    queue.length ≤ (queue.push arriving).length := by
  simp only [length, bytes_push, List.length_append]
  exact Nat.le_add_right _ _

end Queue

/-- What may be done to a meter while it is polled. -/
inductive Handling where
  | setRegister (address : UInt8) (content : UInt32)
  | setMode (address : UInt8) (mode : ReplyMode)
  | addScript (mode : ReplyMode)
  | inject (bytes : List UInt8)
  | deliver
  | deliverBytes (count : Nat)
  | dropPending
  deriving DecidableEq, Repr

namespace Handling

def apply : Handling → Meter → Meter.Done
  | setRegister address content, meter => ⟨(), meter.setRegister address content, []⟩
  | setMode address mode, meter => ⟨(), meter.setMode address mode, []⟩
  | addScript mode, meter => ⟨(), meter.addScript mode, []⟩
  | inject bytes, meter => meter.inject bytes
  | deliver, meter => meter.deliver
  | deliverBytes count, meter => meter.deliverBytes count
  | dropPending, meter => ⟨(), meter.dropPending, []⟩

/-- The bytes that reach the receive queue. -/
def arriving : Handling → Meter → List UInt8
  | inject bytes, _ => bytes
  | deliver, meter => meter.pending.take meter.pending.length
  | deliverBytes count, meter => meter.pending.take count
  | setRegister .., _ | setMode .., _ | addScript _, _ | dropPending, _ => []

/-- A meter is handled in the same way whatever its receive queue holds. -/
theorem apply_withQueue (handling : Handling) (meter : Meter) (queue : Queue) :
    handling.apply { meter with queue } =
      ⟨(), { (handling.apply meter).line with queue := queue.push (handling.arriving meter) },
        queue.pushEvents (handling.arriving meter)⟩ := by
  cases handling with
  | setRegister => simp only [arriving, Queue.push_nil, Queue.pushEvents_nil]; rfl
  | setMode => simp only [arriving, Queue.push_nil, Queue.pushEvents_nil]; rfl
  | addScript => simp only [arriving, Queue.push_nil, Queue.pushEvents_nil]; rfl
  | inject => rfl
  | deliver => rfl
  | deliverBytes => rfl
  | dropPending => simp only [arriving, Queue.push_nil, Queue.pushEvents_nil]; rfl

/-- Handling a meter queues what it makes arrive. -/
theorem queue_apply (handling : Handling) (meter : Meter) :
    (handling.apply meter).line.queue = meter.queue.push (handling.arriving meter) :=
  congrArg (·.line.queue) (handling.apply_withQueue meter meter.queue)

/-- Handling a meter logs what is lost of the bytes it makes arrive. -/
theorem events_apply (handling : Handling) (meter : Meter) :
    (handling.apply meter).events = meter.queue.pushEvents (handling.arriving meter) :=
  congrArg (·.events) (handling.apply_withQueue meter meter.queue)

end Handling

namespace Meter

/-- Losses are never taken back by injected bytes. -/
theorem overruns_le_inject (meter : Meter) (bytes : List UInt8) :
    meter.queue.overruns ≤ (meter.inject bytes).line.queue.overruns :=
  Nat.le_add_right _ _

theorem overruns_le_obey (meter : Meter) (command : Command) :
    meter.queue.overruns ≤ (meter.obey command).line.queue.overruns := by
  cases command with
  | unlock => exact Nat.le_refl _
  | read register =>
      unfold obey
      by_cases immediate : meter.immediate = true
      · simp only [immediate, if_true]
        exact overruns_le_inject _ _
      · simp only [immediate]
        exact Nat.le_refl _

theorem overruns_le_obeyAll (meter : Meter) (commands : List Command) :
    meter.queue.overruns ≤ (meter.obeyAll commands).line.queue.overruns := by
  induction commands generalizing meter with
  | nil => exact Nat.le_refl _
  | cons command rest ih =>
      calc meter.queue.overruns
        _ ≤ (meter.obey command).line.queue.overruns := meter.overruns_le_obey command
        _ ≤ _ := ih _

theorem overruns_le_receive (meter : Meter) (byte : UInt8) :
    meter.queue.overruns ≤ (meter.receive byte).line.queue.overruns :=
  overruns_le_obeyAll
    { meter with
      sent := byte :: meter.sent
      inbox := (Command.scan (meter.inbox ++ [byte])).2 } _

theorem overruns_le_send (meter : Meter) (bytes : List UInt8) :
    meter.queue.overruns ≤ (Line.send meter bytes).line.queue.overruns := by
  change _ ≤ (sendEach Line.sendByte meter bytes).line.queue.overruns
  induction bytes generalizing meter with
  | nil => exact Nat.le_refl _
  | cons byte rest ih =>
      calc meter.queue.overruns
        _ ≤ (meter.receive byte).line.queue.overruns := meter.overruns_le_receive byte
        _ ≤ _ := ih _

end Meter

end MeterPoll
