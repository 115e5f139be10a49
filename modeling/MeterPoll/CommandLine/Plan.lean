import MeterPoll.CommandLine.Ending
import MeterPoll.CommandLine.Job
import MeterPoll.Poller.Schedule
import MeterPoll.SerialPort
import MeterPoll.Status
import MeterPoll.Meter

/-!
# Plans

What a command line comes to on a host. Reading the arguments, loading and checking the
configuration, printing frames and simulating a meter need nothing but the host's files and
variables and are carried out at once; what is left is polling a real port.
-/

namespace MeterPoll.CommandLine

/-- What a run sees of the host. -/
structure Host where
  /-- The content of a file, if there is one at the path. -/
  readFile : String → Option String
  /-- The environment variables with their values. -/
  environment : List (String × String)

/-- A run of the poller on a serial port, ready to be started. -/
structure Polling where
  config : Config
  table : Table
  scales : List ScaleOverride
  /-- After how many ticks of the scheduler the status is logged; never if zero. -/
  statusEvery : Nat

/-- What is left to do. -/
inductive Plan where
  | finished (ending : Ending)
  | polling (polling : Polling)

/-- Loads and checks a configuration. -/
def configure (host : Host) (path : String) : Except Failure Config := do
  let config ← (Config.load (host.readFile path) host.environment).mapError
    (.during ("Failed to load " ++ path))
  config.validate.mapError (.during "Invalid configuration")
  return config

/-- The report on the status of a poller. -/
def statusReport {σ : Type} (poller : Poller σ) : String :=
  poller.status.toJson.pretty ++ "\n"

/-- Calibrates a poller with scales, up to the first that cannot be used. -/
def applyScales {σ : Type} (poller : Poller σ) : List ScaleOverride → Except Failure (Poller σ)
  | [] => .ok poller
  | ⟨quantity, scale⟩ :: rest =>
    match poller.setScale quantity scale with
    | (.ok (), calibrated) => applyScales calibrated rest
    | (.error fault, _) =>
      .error (.during ("Cannot apply --scale " ++ quantity.name ++ "=" ++
        messageLayout.render scale) fault)

/-- The simulated meter with the registers of some quantities in another mode; the later mode of a
register counts. -/
def simulatedMeter (table : Table) (modes : List (Option Quantity × ReplyMode)) : Meter :=
  modes.foldl (fun meter (quantity?, mode) =>
    match quantity?.bind table.byQuantity? with
    | some register => meter.setMode register.address mode
    | none => meter) .reference

/-- Polls the simulated meter. -/
def runSimulation (config : Config) (job : SimulationJob) : Except Failure (Poller Meter) := do
  let table ← config.table.mapError .ofFault
  let meter := simulatedMeter table [(job.silent, .silent), (job.corrupt, .corrupt)]
  let poller ← applyScales (.new meter table config.options) job.scales
  match poller.start with
  | (.error fault, _) => throw (.ofFault fault)
  | (.ok (), started) => (started.rounds job.ticks).mapError .ofFault

/-- Prints the request for a register and, given its three data bytes, the reply. -/
def printFrames (register : UInt8) (data : List UInt8) : Ending :=
  let request := "request:  " ++ Text.hexFrame (Frame.request register) ++ "\n"
  match data with
  | [] => .success request
  | [high, middle, low] =>
    let reply := Reply.encode register (Frame.compose high middle low)
    .success (request ++ "response: " ++ Text.hexFrame reply.toList ++ "\n")
  | _ =>
    .failed request ⟨"expected exactly three data bytes (D2 D1 D0), got " ++ toString data.length,
      []⟩

/-- The plan of a job. -/
def Job.plan (config : Config) : Job → Plan
  | .frame register data => .finished (printFrames register data)
  | .simulate job =>
    .finished (match runSimulation config job with
      | .ok poller => .success (statusReport poller)
      | .error failure => .failed "" failure)
  | .poll job =>
    match config.table with
    | .error fault => .finished (.failed "" (.ofFault fault))
    | .ok table =>
      let config := { config with serial.port := job.port.getD config.serial.port }
      .polling ⟨config, table, job.scales, job.statusEvery⟩

/-- The plan of a command line. -/
def plan (host : Host) (words : List String) : Plan :=
  match Request.ofWords words with
  | .error fault => .finished (.refused fault (wantsColour host.environment))
  | .ok .help => .finished (.success usage)
  | .ok (.job path job) =>
    match configure host path with
    | .error failure => .finished (.failed "" failure)
    | .ok config => job.plan config

namespace Polling

/-- The end of a run whose port cannot be opened. -/
def blocked (polling : Polling) (obstacle : Obstacle) : Ending :=
  .failed "" (.ofFault (polling.config.serial.notOpened obstacle))

/-- The calibrated poller over a line. -/
def poller {σ : Type} (polling : Polling) (line : σ) : Except Failure (Poller σ) :=
  applyScales (.new line polling.table polling.config.options) polling.scales

/-- Starts a poller. -/
def start {σ : Type} [Line σ] (poller : Poller σ) : Except Failure Unit × Poller σ :=
  let (started, onward) := poller.start
  (started.mapError (.during "Failed to initialize meter"), onward)

end Polling

end MeterPoll.CommandLine
