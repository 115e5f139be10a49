import MeterPoll.CommandLine.Argument
import MeterPoll.Config
import MeterPoll.Text.Unicode

/-!
# Jobs

What the program can be asked to do, and the command lines that ask for it.
-/

namespace MeterPoll

/-- The quantity that a text names or abbreviates, in any case and with blanks around it. The fault
shows the text as it was looked up. -/
def Quantity.ofText (s : String) : Except Fault Quantity :=
  let name := Text.lowercase (Text.trim s)
  match ofName? name with
  | some quantity => .ok quantity
  | none => .error (.unknownQuantity name)

namespace CommandLine

/-- A scale that takes the place of the configured one. -/
structure ScaleOverride where
  quantity : Quantity
  scale : Float

/-- Polling a meter on a serial port. -/
structure PollJob where
  /-- The port that takes the place of the configured one. -/
  port : Option String
  scales : List ScaleOverride
  /-- After how many ticks of the scheduler the status is logged; never if zero. -/
  statusEvery : Nat

/-- Polling the simulated meter. -/
structure SimulationJob where
  ticks : Nat
  scales : List ScaleOverride
  /-- The quantity whose register does not answer. -/
  silent : Option Quantity
  /-- The quantity whose register answers with a wrong check byte. -/
  corrupt : Option Quantity

/-- Printing frames of a register. -/
structure FrameJob where
  register : Option UInt8
  data : List UInt8

/-- What the program is asked to do. -/
inductive Job where
  | poll (job : PollJob)
  | simulate (job : SimulationJob)
  | frame (register : UInt8) (data : List UInt8)

/-- What a command line asks for. -/
inductive Request where
  | help
  | job (configPath : String) (job : Job)

/-! ## Values -/

/-- Reads a byte, in decimal or behind `0x` in hexadecimal. -/
def readByte (s : String) : Except String UInt8 :=
  let number := match s.toList with
    | '0' :: 'x' :: digits | '0' :: 'X' :: digits => Text.readNat 16 255 digits
    | digits => Text.readNat 10 255 digits
  match number with
  | .ok n => .ok (UInt8.ofNat n)
  | .error fault => .error ("'" ++ s ++ "' is not a byte: " ++ fault.message)

/-- Reads a quantity. -/
def readQuantity (s : String) : Except String Quantity :=
  (Quantity.ofText s).mapError Fault.message

/-- Reads a quantity and a scale with an equals sign between them. -/
def readScale (s : String) : Except String ScaleOverride :=
  match s.toList.dropWhile (· != '=') with
  | [] => .error ("expected QUANTITY=SCALE, got '" ++ s ++ "'")
  | _ :: value => do
    let quantity ← readQuantity (String.ofList (s.toList.takeWhile (· != '=')))
    match Decimal.readFloat (Text.trim (String.ofList value)) with
    | .ok scale => return ⟨quantity, scale⟩
    | .error fault =>
      throw ("'" ++ String.ofList value ++ "' is not a number: " ++ fault.message)

/-- Reads a number of ticks. -/
def readTicks (s : String) : Except String Nat :=
  match Text.readInt 64 s.toList with
  | .error fault => .error fault.message
  | .ok n =>
    if 0 ≤ n ∧ n ≤ Text.maxWord 32 then .ok n.toNat
    else .error (toString n ++ " is not in 0..=" ++ toString (Text.maxWord 32))

/-- Reads a number that fits 64 bits. -/
def readCount (s : String) : Except String Nat :=
  (Text.readNat 10 (Text.maxWord 64) s.toList).mapError (·.message)

/-! ## Forms -/

/-- An option that takes one value and is given once. -/
def single {α : Type} (title : String) (store : α → String → Except String α) : Argument α :=
  ⟨title, 1, false, false, store⟩

/-- An option that takes one value and may be given again. -/
def repeated {α : Type} (title : String) (store : α → String → Except String α) : Argument α :=
  ⟨title, 1, true, false, store⟩

/-- What is collected for a job and for the program as a whole. -/
structure Draft (α : Type) where
  configPath : Option String
  job : α

/-- The option that names the file of the configuration. -/
def configOption {α : Type} : Argument (Draft α) where
  title := "--config <CONFIG>"
  limit := 1
  repeatable := false
  filled := true
  store draft value := .ok { draft with configPath := some value }

/-- The form of a job together with the options that all jobs have. -/
def Form.ofJob {α : Type} (form : Form α) : Form (Draft α) :=
  let focus (argument : Argument α) : Argument (Draft α) :=
    argument.focus Draft.job fun draft job => { draft with job }
  ⟨("config", configOption) :: form.options.map fun (name, argument) => (name, focus argument),
    form.places.map focus, form.commands⟩

/-- The form of `run`. -/
def pollForm : Form PollJob where
  options := [
    ("port", single "--port <PORT>" fun job value => .ok { job with port := some value }),
    ("scale", repeated "--scale <SCALES>" fun job value =>
      return { job with scales := job.scales ++ [← readScale value] }),
    ("status-every", single "--status-every <STATUS_EVERY>" fun job value =>
      return { job with statusEvery := ← readCount value })]
  places := []
  commands := []

/-- The form of `simulate`. -/
def simulationForm : Form SimulationJob where
  options := [
    ("ticks", single "--ticks <TICKS>" fun job value =>
      return { job with ticks := ← readTicks value }),
    ("scale", repeated "--scale <SCALES>" fun job value =>
      return { job with scales := job.scales ++ [← readScale value] }),
    ("silent", single "--silent <SILENT>" fun job value =>
      return { job with silent := some (← readQuantity value) }),
    ("corrupt", single "--corrupt <CORRUPT>" fun job value =>
      return { job with corrupt := some (← readQuantity value) })]
  places := []
  commands := []

/-- What messages call the register of a frame. -/
def registerTitle : String := "<REGISTER>"

/-- The form of `frame`. -/
def frameForm : Form FrameJob where
  options := []
  places := [
    single registerTitle fun job value => return { job with register := some (← readByte value) },
    ⟨"[DATA]...", 3, true, false, fun job value =>
      return { job with data := job.data ++ [← readByte value] }⟩]
  commands := []

/-- The form of the program as a whole. -/
def programForm : Form Unit where
  options := []
  places := []
  commands := ["run", "simulate", "frame", "help"]

/-! ## Command lines -/

/-- What the words behind a command hold: nothing if they ask for help. -/
def Form.read {α : Type} (form : Form α) (stored : α) (words : List String) :
    Except ArgumentFault (Option (Draft α)) := do
  match ← form.ofJob.scan (.start form.ofJob ⟨none, stored⟩) words with
  | .complete scan | .command _ _ scan => return some scan.stored
  | .help => return none

/-- Checks the words behind `help`, which name a command. -/
def readHelp : List String → Except ArgumentFault Unit
  | [] => .ok ()
  | name :: rest =>
    if programForm.commands.contains name then
      match rest with
      | [] => .ok ()
      | word :: _ => .error (.unknownCommand word)
    else .error (.unknownCommand name)

/-- The job that a command and the words behind it ask for: none if they ask for help. -/
def readJob (command : String) (words : List String) :
    Except ArgumentFault (Option (Draft Job)) := do
  match command with
  | "run" =>
    return (← pollForm.read ⟨none, [], 10⟩ words).map fun draft =>
      ⟨draft.configPath, .poll draft.job⟩
  | "simulate" =>
    return (← simulationForm.read ⟨8, [], none, none⟩ words).map fun draft =>
      ⟨draft.configPath, .simulate draft.job⟩
  | "frame" =>
    match ← frameForm.read ⟨none, []⟩ words with
    | none => return none
    | some ⟨configPath, register?, data⟩ =>
      match register? with
      | some register => return some ⟨configPath, .frame register data⟩
      | none => throw (.missingPlace registerTitle)
  | _ => do readHelp words; return none

/-- What a command line asks for. A path of the configuration behind the command counts before one
in front of it. -/
def Request.ofWords (words : List String) : Except ArgumentFault Request := do
  let form := programForm.ofJob
  match ← form.scan (.start form ⟨none, ()⟩) words with
  | .help => return .help
  | .complete scan => throw (if scan.given.isEmpty then .noArguments else .noCommand)
  | .command name rest scan =>
    match ← readJob name rest with
    | none => return .help
    | some draft =>
      let outer ← scan.settle
      return .job ((draft.configPath <|> outer.stored.configPath).getD Config.defaultPath) draft.job

end CommandLine

end MeterPoll
