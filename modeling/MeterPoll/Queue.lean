import MeterPoll.Event

/-!
# The receive queue

A bounded queue of received bytes, looked at and taken from the front. Bytes that arrive while it
is full are lost and counted. Main facts: a push appends the longest part that fits
(`bytes_push`), pushing in pieces is pushing at once (`push_append`), and taking drops from the
front (`bytes_consume`).
-/

namespace MeterPoll

/-- Received bytes, the oldest first, at most `capacity` of them. -/
structure Queue where
  bytes : List UInt8
  capacity : Nat
  /-- Bytes lost because the queue was full. -/
  overruns : Nat
  bounded : bytes.length ≤ capacity

namespace Queue

/-- The usual capacity, that of the device's own buffer. -/
def defaultCapacity : Nat := 256

/-- An empty queue. -/
def empty (capacity : Nat) : Queue :=
  ⟨[], capacity, 0, Nat.zero_le _⟩

instance : Inhabited Queue := ⟨empty defaultCapacity⟩

/-- How many more bytes fit. -/
def room (queue : Queue) : Nat :=
  queue.capacity - queue.bytes.length

/-- How many of the arriving bytes are stored. -/
def storable (queue : Queue) (arriving : List UInt8) : Nat :=
  min arriving.length queue.room

/-- How many of the arriving bytes are lost. -/
def excess (queue : Queue) (arriving : List UInt8) : Nat :=
  arriving.length - queue.room

/-- Appends the arriving bytes that fit and counts the others as lost. -/
def push (queue : Queue) (arriving : List UInt8) : Queue where
  bytes := queue.bytes ++ arriving.take queue.room
  capacity := queue.capacity
  overruns := queue.overruns + queue.excess arriving
  bounded := by
    have bounded := queue.bounded
    simp only [List.length_append, List.length_take, room]
    omega

/-- What a push logs: the lost bytes, if there are any. -/
def pushEvents (queue : Queue) (arriving : List UInt8) : List Event :=
  if queue.excess arriving = 0 then []
  else [.overrun (queue.excess arriving) queue.capacity]

/-- The number of bytes in the queue. -/
def length (queue : Queue) : Nat :=
  queue.bytes.length

/-- The byte at a distance from the oldest one. -/
def peek? (queue : Queue) (offset : Nat) : Option UInt8 :=
  queue.bytes[offset]?

/-- Drops up to `count` of the oldest bytes. -/
def consume (queue : Queue) (count : Nat) : Queue where
  bytes := queue.bytes.drop count
  capacity := queue.capacity
  overruns := queue.overruns
  bounded := by
    have bounded := queue.bounded
    simp only [List.length_drop]
    omega

/-- How many bytes `consume` drops. -/
def consumable (queue : Queue) (count : Nat) : Nat :=
  min count queue.length

/-- Drops everything. -/
def clear (queue : Queue) : Queue :=
  { queue with bytes := [], bounded := Nat.zero_le _ }

/-- Queues with the same bytes, capacity and losses are the same. -/
@[ext] theorem ext {first second : Queue} (bytes : first.bytes = second.bytes)
    (capacity : first.capacity = second.capacity) (overruns : first.overruns = second.overruns) :
    first = second := by
  cases first; cases second; cases bytes; cases capacity; cases overruns; rfl

/-- Arriving bytes are queued behind the waiting ones as far as there is room. -/
@[simp] theorem bytes_push (queue : Queue) (arriving : List UInt8) :
    (queue.push arriving).bytes = queue.bytes ++ arriving.take queue.room := rfl

@[simp] theorem capacity_push (queue : Queue) (arriving : List UInt8) :
    (queue.push arriving).capacity = queue.capacity := rfl

/-- Arriving bytes without room are counted. -/
@[simp] theorem overruns_push (queue : Queue) (arriving : List UInt8) :
    (queue.push arriving).overruns = queue.overruns + queue.excess arriving := rfl

/-- The oldest bytes are consumed first. -/
@[simp] theorem bytes_consume (queue : Queue) (count : Nat) :
    (queue.consume count).bytes = queue.bytes.drop count := rfl

@[simp] theorem capacity_consume (queue : Queue) (count : Nat) :
    (queue.consume count).capacity = queue.capacity := rfl

@[simp] theorem overruns_consume (queue : Queue) (count : Nat) :
    (queue.consume count).overruns = queue.overruns := rfl

/-- Arriving bytes take up room until none is left. -/
theorem room_push (queue : Queue) (arriving : List UInt8) :
    (queue.push arriving).room = queue.room - arriving.length := by
  have bounded := queue.bounded
  simp only [room, bytes_push, capacity_push, List.length_append, List.length_take]
  omega

/-- Bytes that arrive in two pieces leave the queue that they leave at once. -/
theorem push_append (queue : Queue) (first second : List UInt8) :
    queue.push (first ++ second) = (queue.push first).push second := by
  ext1
  · simp [room_push, List.take_append]
  · rfl
  · simp only [overruns_push, excess, room_push, List.length_append]
    omega

end Queue

end MeterPoll
