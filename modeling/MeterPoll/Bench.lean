import MeterPoll.Meter

/-!
# A meter on faulty wires

A simulated meter behind wires that can be made to fail: after some more bytes every byte is
refused, and bytes beyond an offset cannot be looked at. Bytes that are refused do not reach the
meter, and the number of received bytes is not affected.
-/

namespace MeterPoll

/-- Wires that fail: after `after` more bytes every byte is refused with `fault`. -/
structure SendFailure where
  after : Nat
  fault : Fault

/-- A simulated meter and the failures of its wires. -/
structure Bench where
  meter : Meter
  sendFailure : Option SendFailure
  /-- Bytes from this offset on cannot be seen. -/
  peekLimit : Option Nat

namespace Bench

/-- A meter on sound wires. -/
def ofMeter (meter : Meter) : Bench :=
  ⟨meter, none, none⟩

/-- Sends a byte to the meter. -/
def pass (bench : Bench) (byte : UInt8) : Served Bench (Except Fault Unit) :=
  let done := bench.meter.receive byte
  ⟨.ok (), { bench with meter := done.line }, done.events⟩

/-- Sends a byte unless the wires fail. -/
def sendByte (bench : Bench) (byte : UInt8) : Served Bench (Except Fault Unit) :=
  match bench.sendFailure with
  | none => bench.pass byte
  | some ⟨0, fault⟩ => ⟨.error fault, bench, []⟩
  | some ⟨after + 1, fault⟩ =>
    { bench with sendFailure := some ⟨after, fault⟩ }.pass byte

/-- The received byte at an offset, if it can be seen. -/
def peek? (bench : Bench) (offset : Nat) : Option UInt8 :=
  if bench.peekLimit.all (offset < ·) then bench.meter.queue.peek? offset else none

instance : Line Bench where
  sendByte := sendByte
  available bench := ⟨bench.meter.queue.length, bench, []⟩
  peek? := peek?
  consume bench count :=
    { bench with meter.queue := bench.meter.queue.consume count }

end Bench

end MeterPoll
