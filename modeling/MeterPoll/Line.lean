import MeterPoll.Event

/-!
# Lines

What a poller needs of a serial line: to send a byte, to count the received bytes, to look at one
of them without removing it, and to remove them. Sending a frame and discarding everything have
usual forms made of these, which a line may replace by forms of its own.
-/

namespace MeterPoll

/-- The outcome of an operation on a line: the answer, the line afterwards and what was logged. -/
structure Served (σ α : Type) where
  answer : α
  line : σ
  events : List Event

/-- Sends bytes one by one up to the first that the line does not take. -/
def sendEach {σ : Type} (sendByte : σ → UInt8 → Served σ (Except Fault Unit)) :
    σ → List UInt8 → Served σ (Except Fault Unit)
  | line, [] => ⟨.ok (), line, []⟩
  | line, byte :: rest =>
    let sent := sendByte line byte
    match sent.answer with
    | .error fault => ⟨.error fault, sent.line, sent.events⟩
    | .ok () =>
      let others := sendEach sendByte sent.line rest
      ⟨others.answer, others.line, sent.events ++ others.events⟩

/-- A serial line whose state is a value of type `σ`. -/
class Line (σ : Type) where
  /-- Sends one byte. -/
  sendByte : σ → UInt8 → Served σ (Except Fault Unit)
  /-- Counts the received bytes. A line may take in waiting bytes on this occasion. -/
  available : σ → Served σ Nat
  /-- The received byte at a distance from the oldest one. -/
  peek? : σ → Nat → Option UInt8
  /-- Drops up to a number of the oldest received bytes. -/
  consume : σ → Nat → σ
  /-- Sends a whole frame. -/
  send : σ → List UInt8 → Served σ (Except Fault Unit) := sendEach sendByte
  /-- Drops all received bytes and counts them. -/
  discardAll : σ → Served σ Nat := fun line =>
    let counted := available line
    ⟨counted.answer, consume counted.line counted.answer, counted.events⟩

/-- A line handed on behind a box. The box passes on everything but `discardAll`, which takes its
usual form. -/
structure Boxed (σ : Type) where
  line : σ

namespace Boxed

/-- Puts the line of an outcome into a box. -/
def serve {σ α : Type} (served : Served σ α) : Served (Boxed σ) α :=
  ⟨served.answer, ⟨served.line⟩, served.events⟩

instance {σ : Type} [Line σ] : Line (Boxed σ) where
  sendByte boxed byte := serve (Line.sendByte boxed.line byte)
  available boxed := serve (Line.available boxed.line)
  peek? boxed offset := Line.peek? boxed.line offset
  consume boxed count := ⟨Line.consume boxed.line count⟩
  send boxed bytes := serve (Line.send boxed.line bytes)

end Boxed

end MeterPoll
