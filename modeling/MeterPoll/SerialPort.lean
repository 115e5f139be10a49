import MeterPoll.Line
import MeterPoll.Obstacle
import MeterPoll.SerialSettings

/-!
# Serial ports

A line over a serial port of the host. Arriving bytes wait in the host without limit; the line
moves all of them into its receive queue whenever it counts the received bytes, and looks at
nothing but the queue otherwise. When the far end is gone the waiting bytes are lost, the queue
stays, and nothing can be sent.
-/

namespace MeterPoll

/-- The fault of a port that cannot be opened. -/
def SerialSettings.notOpened (settings : SerialSettings) (obstacle : Obstacle) : Fault :=
  .port (.notOpened settings.port settings.baudRate obstacle.reason)

/-- An open serial port. -/
structure SerialPort where
  settings : SerialSettings
  queue : Queue
  /-- Bytes that wait in the host. -/
  waiting : List UInt8
  /-- Whether there is a far end. -/
  connected : Bool
  /-- Every byte that was sent, the latest first. -/
  sent : List UInt8

namespace SerialPort

/-- A port that was just opened. -/
def opened (settings : SerialSettings) : SerialPort :=
  ⟨settings, .empty settings.capacity, [], true, []⟩

/-- Bytes arrive from the far end. -/
def arrive (port : SerialPort) (bytes : List UInt8) : SerialPort :=
  { port with waiting := port.waiting ++ bytes }

/-- The far end goes. -/
def hangUp (port : SerialPort) : SerialPort :=
  { port with waiting := [], connected := false }

/-- Forgets which bytes were sent. -/
def clearSent (port : SerialPort) : SerialPort :=
  { port with sent := [] }

/-- Moves the waiting bytes into the queue. -/
def pump (port : SerialPort) : SerialPort :=
  { port with queue := port.queue.push port.waiting, waiting := [] }

/-- Sends bytes, all or none. -/
def transmit (port : SerialPort) (bytes : List UInt8) (failure : String) :
    Served SerialPort (Except Fault Unit) :=
  if port.connected then ⟨.ok (), { port with sent := bytes.reverse ++ port.sent }, []⟩
  else ⟨.error (.transfer failure), port, []⟩

/-- What the host says when it cannot write. -/
def brokenPipe : String := "Broken pipe"

/-- What the host says when it has nothing to write and cannot wait for the end of it. -/
def flushFailed : String := "flush failed"

instance : Line SerialPort where
  sendByte port byte := port.transmit [byte] brokenPipe
  send port bytes := port.transmit bytes (if bytes.isEmpty then flushFailed else brokenPipe)
  available port := ⟨port.pump.queue.length, port.pump, port.queue.pushEvents port.waiting⟩
  peek? port offset := port.queue.peek? offset
  consume port count := { port with queue := port.queue.consume count }

/-- A port as log lines describe it. -/
def description (port : SerialPort) : String :=
  "SerialPortLink \x7b settings: SerialSettings \x7b port: \"" ++ port.settings.port ++
    "\", baud_rate: " ++ toString port.settings.baudRate ++ ", parity: " ++
    port.settings.parity.title ++ ", rx_capacity: " ++ toString port.settings.capacity ++
    " \x7d, buffered: " ++ toString port.queue.length ++ " \x7d"

end SerialPort

end MeterPoll
