import MeterPoll.Meter
import MeterPoll.SerialPort

/-!
# Installations

A serial port with a simulated meter at its far end. Every byte that is sent reaches the meter, and
what the meter answers arrives at the port.
-/

namespace MeterPoll

/-- A serial port and the meter at its far end. -/
structure Installation where
  port : SerialPort
  meter : Meter

namespace Installation

/-- The bytes that the meter has delivered go to the port. -/
def forward (installation : Installation) : Installation :=
  let meter := installation.meter
  ⟨installation.port.arrive meter.queue.bytes, { meter with queue := meter.queue.clear }⟩

/-- Bytes that the port has sent reach the meter one by one. -/
def feed : Installation → List UInt8 → Installation
  | installation, [] => installation
  | installation, byte :: rest =>
    feed { installation with meter := (installation.meter.receive byte).line }.forward rest

/-- The outcome of sending bytes through the port. -/
def serve (installation : Installation) (bytes : List UInt8)
    (sent : Served SerialPort (Except Fault Unit)) : Served Installation (Except Fault Unit) :=
  let onward := { installation with port := sent.line }
  match sent.answer with
  | .ok () => ⟨.ok (), onward.feed bytes, sent.events⟩
  | .error fault => ⟨.error fault, onward, sent.events⟩

/-- The far end goes. -/
def hangUp (installation : Installation) : Installation :=
  { installation with port := installation.port.hangUp }

instance : Line Installation where
  sendByte installation byte :=
    installation.serve [byte] (Line.sendByte installation.port byte)
  send installation bytes := installation.serve bytes (Line.send installation.port bytes)
  available installation :=
    let counted := Line.available installation.port
    ⟨counted.answer, { installation with port := counted.line }, counted.events⟩
  peek? installation offset := Line.peek? installation.port offset
  consume installation count :=
    { installation with port := Line.consume installation.port count }

end Installation

end MeterPoll
