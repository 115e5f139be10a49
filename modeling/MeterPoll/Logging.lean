import MeterPoll.Event
import MeterPoll.Text.Unicode

/-!
# Logging options

The names of log levels and the options of the log.
-/

namespace MeterPoll

/-- The level with a name in any case. -/
def LogLevel.ofText (s : String) : Except Fault LogLevel :=
  match Text.lowercase s with
  | "trace" => .ok .trace
  | "debug" => .ok .debug
  | "info" => .ok .info
  | "warn" => .ok .warn
  | "error" => .ok .error
  | _ => .error (.configuration (.unknownLogLevel s))

/-- How lines of the log are laid out. -/
inductive LogFormat where
  | pretty
  | compact
  | json
  deriving DecidableEq, Repr

namespace LogFormat

/-- The lower-case name. -/
def name : LogFormat → String
  | pretty => "pretty"
  | compact => "compact"
  | json => "json"

/-- The format with a lower-case name. -/
def ofName? : String → Option LogFormat
  | "pretty" => some pretty
  | "compact" => some compact
  | "json" => some json
  | _ => none

end LogFormat

/-- The options of the log. -/
structure LogOptions where
  level : LogLevel
  format : LogFormat
  /-- Whether the beginning and end of operations are logged. -/
  spanEvents : Bool
  fileAndLine : Bool
  threadNames : Bool
  /-- Whether colours are used. -/
  colours : Bool
  deriving DecidableEq, Repr

namespace LogOptions

/-- The usual options at a level. -/
def atLevel (level : LogLevel) : LogOptions :=
  ⟨level, .compact, false, false, false, true⟩

end LogOptions

/-- Whether a log is installed. -/
inductive LogState where
  | absent
  | installed (options : LogOptions)
  deriving DecidableEq, Repr

/-- Installs a log. One that is installed already is kept. -/
def LogState.install (state : LogState) (options : LogOptions) : LogState :=
  match state with
  | absent => installed options
  | installed _ => state

end MeterPoll
