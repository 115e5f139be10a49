import MeterPoll.CommandLine.Plan

/-!
# The program

Reads the files and variables that a plan needs, carries the plan out and ends with its code. A
port is expected to be set up for raw bytes already. Polling goes on until the process is
interrupted, which ends it without a report.
-/

namespace MeterPoll.CommandLine

/-- The content of a file, if it can be read. -/
def readFile? (path : String) : IO (Option String) := do
  try
    return some (← IO.FS.readFile path)
  catch _ =>
    return none

/-- A directory and those around it, from the inside out. -/
def enclosing (directory : String) : List String :=
  let steps := directory.splitOn "/"
  (List.range steps.length).map fun outer => "/".intercalate (steps.take (steps.length - outer))

/-- The content of a file, which is looked for in the working directory and in those around it
unless its path begins at the root. -/
def findFile? (path : String) : IO (Option String) := do
  if path.startsWith "/" then return ← readFile? path
  for directory in enclosing (← IO.currentDir).toString do
    if let some content ← readFile? (directory ++ "/" ++ path) then return some content
  return none

/-- The variables of the process in the order of their names. -/
def readVariables : IO (List (String × String)) := do
  let text := (← readFile? "/proc/self/environ").getD ""
  let entries := (text.splitOn "\x00").filterMap fun entry =>
    match entry.splitOn "=" with
    | name :: value :: more => some (name, "=".intercalate (value :: more))
    | _ => none
  return entries.mergeSort (fun first second => first.1 ≤ second.1)

/-- What the host offers a command line. -/
def readHost (words : List String) : IO Host := do
  let file? ← match Request.ofWords words with
    | .ok (.job path _) => findFile? path
    | _ => pure none
  return ⟨fun _ => file?, ← readVariables⟩

/-- Writes what a run has to say and gives its code. -/
def finish (ending : Ending) : IO UInt32 := do
  IO.print ending.output
  IO.eprint ending.errors
  return UInt32.ofNat ending.code

/-- Opens a port for reading or writing. -/
def openPort (path : String) : IO (Except Obstacle IO.FS.Handle) := do
  try
    let handle ← IO.FS.Handle.mk path .readWrite
    if ← handle.isTty then return .ok handle else return .error .notTerminal
  catch
    | .permissionDenied .. => return .error .forbidden
    | .inappropriateType _ 20 _ => return .error .notDirectory
    | .inappropriateType .. => return .error .directory
    | .invalidArgument _ 36 _ => return .error .nameTooLong
    | .invalidArgument .. => return .error .invalid
    | .noSuchThing .. => return .error .noDevice
    | _ => return .error .missing

/-- Moves arriving bytes into a mailbox until there are no more. -/
partial def listen (handle : IO.FS.Handle) (mailbox : IO.Ref (List UInt8)) : IO Unit := do
  let bytes ← handle.read 1
  unless bytes.isEmpty do
    mailbox.modify (· ++ bytes.toList)
    listen handle mailbox

/-- Writes what a poller has sent and logged since it was last asked. -/
def release (handle : IO.FS.Handle) (poller : Poller SerialPort) : IO (Poller SerialPort) := do
  handle.write (ByteArray.mk poller.line.sent.reverse.toArray)
  handle.flush
  for event in poller.log.reverse do
    IO.eprintln (event.level.name ++ " " ++ event.message)
  return { poller with line := poller.line.clearSent, log := [] }

/-- Polls with the periods of a configuration. -/
partial def poll (polling : Polling) (mailbox : IO.Ref (List UInt8)) (handle : IO.FS.Handle)
    (ticks nextTick : Nat) (poller : Poller SerialPort) : IO Unit := do
  IO.sleep (UInt32.ofNat (polling.config.scheduler.fastTick.nanoseconds / 1000000))
  let arrived ← mailbox.modifyGet fun bytes => (bytes, [])
  let poller := { poller with line := poller.line.arrive arrived }.fastTick.2
  let now ← IO.monoNanosNow
  if now < nextTick then
    poll polling mailbox handle ticks nextTick (← release handle poller)
  else
    let (tick, poller) := poller.slowTick
    if let .error fault := tick then
      IO.eprintln ("WARN HT7017: request not sent: " ++ fault.message)
    let ticks := ticks + 1
    if 0 < polling.statusEvery && ticks % polling.statusEvery == 0 then
      IO.eprintln ("INFO " ++ poller.status.summary)
    let nextTick := now + polling.config.scheduler.slowTick.nanoseconds
    poll polling mailbox handle ticks nextTick (← release handle poller)

/-- Polls the meter on the configured port. -/
def pollPort (polling : Polling) : IO UInt32 := do
  let settings := polling.config.serial
  match ← openPort settings.port, ← openPort settings.port with
  | .ok input, .ok output =>
    match polling.poller (SerialPort.opened settings) with
    | .error failure => finish (.failed "" failure)
    | .ok poller =>
      let mailbox ← IO.mkRef []
      let _ ← IO.asTask (listen input mailbox) .dedicated
      match Polling.start poller with
      | (.error failure, _) => finish (.failed "" failure)
      | (.ok (), started) =>
        let now ← IO.monoNanosNow
        let nextTick := now + polling.config.scheduler.slowTick.nanoseconds
        poll polling mailbox output 0 nextTick (← release output started)
        return 0
  | .error obstacle, _ | _, .error obstacle => finish (polling.blocked obstacle)

end MeterPoll.CommandLine

open MeterPoll.CommandLine in
/-- Runs the program on its arguments. -/
def main (args : List String) : IO UInt32 := do
  match plan (← readHost args) args with
  | .finished ending => finish ending
  | .polling polling => pollPort polling
