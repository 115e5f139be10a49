import MeterPoll.Logging
import MeterPoll.Period.Reading
import MeterPoll.Poller.Basic
import MeterPoll.SerialSettings
import MeterPoll.Settings.Environment
import MeterPoll.Settings.Toml.Document
import MeterPoll.Settings.Typed
import MeterPoll.Text.Number
import MeterPoll.Text.Unicode

/-!
# Configuration

What can be configured, the defaults, how a configuration is put together from the defaults, a file
and the environment, and the checks it has to pass before it is used. The checks are made in a
fixed order and the first that fails decides the fault.
-/

namespace MeterPoll

/-- The settings of the program as a whole. -/
structure Application where
  name : String
  logLevel : String
  logFormat : LogFormat

/-- The periods of the ticks and the retry policy. -/
structure Scheduler where
  maxRetries : Nat
  /-- The period of the collector. -/
  fastTick : Period
  /-- The period of the scheduler. -/
  slowTick : Period
  requestEvery : Nat

/-- The calibration of one quantity. -/
structure Channel where
  conversion : Conversion
  scale : Float

/-- The calibration of all quantities. -/
structure Channels where
  voltage : Channel
  current : Channel
  power : Channel
  frequency : Channel
  /-- Integers of a magnitude up to this read as zero. -/
  noise : UInt32

/-- The channel of a quantity. -/
def Channels.get (channels : Channels) : Quantity → Channel
  | .voltage => channels.voltage
  | .current => channels.current
  | .power => channels.power
  | .frequency => channels.frequency

/-- A configuration. -/
structure Config where
  application : Application
  serial : SerialSettings
  scheduler : Scheduler
  unlock : UnlockPolicy
  channels : Channels

namespace Config

/-- The configuration of the reference device. -/
def standard : Config where
  application := ⟨"ht7017", "info", .compact⟩
  serial := .standard
  scheduler := ⟨3, .ofMilliseconds 50, .ofSeconds 1 0, 1⟩
  unlock := .standard
  channels :=
    ⟨⟨.divide, 11015.3⟩, ⟨.divide, 10000.0⟩, ⟨.multiply, 0.005⟩, ⟨.divide, 100.0⟩, 0⟩

/-- The file a configuration is read from unless another one is named. -/
def defaultPath : String := "config/ht7017.toml"

/-! ## Configurations as settings -/

/-- The calibration of a quantity as a setting. -/
def channelSetting (channel : Channel) : Setting :=
  .ofEntries [("conversion", .text channel.conversion.name), ("scale", .real channel.scale)]

/-- A configuration as a setting. -/
def toSetting (config : Config) : Setting :=
  .ofEntries [
    ("application", .ofEntries [
      ("name", .text config.application.name),
      ("log_level", .text config.application.logLevel),
      ("log_format", .text config.application.logFormat.name)]),
    ("serial", .ofEntries [
      ("port", .text config.serial.port),
      ("baud_rate", .integer config.serial.baudRate),
      ("parity", .text config.serial.parity.name),
      ("rx_capacity", .integer config.serial.capacity)]),
    ("scheduler", .ofEntries [
      ("max_retries", .integer config.scheduler.maxRetries),
      ("fast_tick", .text config.scheduler.fastTick.toUnits),
      ("slow_tick", .text config.scheduler.slowTick.toUnits),
      ("request_every_ticks", .integer config.scheduler.requestEvery)]),
    ("write_enable", .ofEntries [
      ("on_startup", .flag config.unlock.onStartup),
      ("interval_requests", .integer config.unlock.interval),
      ("register", .integer config.unlock.register.toNat),
      ("key", .integer config.unlock.key.toNat)]),
    ("calibration", .ofEntries [
      ("voltage", channelSetting config.channels.voltage),
      ("current", channelSetting config.channels.current),
      ("power", channelSetting config.channels.power),
      ("frequency", channelSetting config.channels.frequency),
      ("noise_threshold", .integer config.channels.noise.toNat)])]

open Setting (Outcome readNat readByte readReal readFlag readText readName readVariant
  readSection)

/-- The fields of the section `application`. -/
def applicationFields : List (Setting.Field Application) := [
  ⟨"name", fun stored setting => return { stored with name := ← readText setting }⟩,
  ⟨"log_level", fun stored setting => return { stored with logLevel := ← readText setting }⟩,
  ⟨"log_format", fun stored setting =>
    return { stored with logFormat := ← readVariant LogFormat.ofName? setting }⟩]

/-- The fields of the section `serial`. -/
def serialFields : List (Setting.Field SerialSettings) := [
  ⟨"port", fun stored setting => return { stored with port := ← readText setting }⟩,
  ⟨"baud_rate", fun stored setting =>
    return { stored with baudRate := ← readNat (Text.maxWord 32) setting }⟩,
  ⟨"parity", fun stored setting =>
    return { stored with parity := ← readVariant Parity.ofName? setting }⟩,
  ⟨"rx_capacity", fun stored setting =>
    return { stored with capacity := ← readNat (Text.maxWord 64) setting }⟩]

/-- The fields of the section `scheduler`. -/
def schedulerFields : List (Setting.Field Scheduler) := [
  ⟨"max_retries", fun stored setting =>
    return { stored with maxRetries := ← readNat (Text.maxWord 32) setting }⟩,
  ⟨"fast_tick", fun stored setting =>
    return { stored with fastTick := ← readName Period.ofText? setting }⟩,
  ⟨"slow_tick", fun stored setting =>
    return { stored with slowTick := ← readName Period.ofText? setting }⟩,
  ⟨"request_every_ticks", fun stored setting =>
    return { stored with requestEvery := ← readNat (Text.maxWord 32) setting }⟩]

/-- The fields of the section `write_enable`. -/
def unlockFields : List (Setting.Field UnlockPolicy) := [
  ⟨"on_startup", fun stored setting => return { stored with onStartup := ← readFlag setting }⟩,
  ⟨"interval_requests", fun stored setting =>
    return { stored with interval := ← readNat (Text.maxWord 32) setting }⟩,
  ⟨"register", fun stored setting => return { stored with register := ← readByte setting }⟩,
  ⟨"key", fun stored setting => return { stored with key := ← readByte setting }⟩]

/-- The fields of the calibration of a quantity: a conversion, and a scale that must be given. -/
def channelFields : List (Setting.Field (Conversion × Option Float)) := [
  ⟨"conversion", fun stored setting =>
    return (← readVariant Conversion.ofName? setting, stored.2)⟩,
  ⟨"scale", fun stored setting => return (stored.1, some (← readReal setting))⟩]

/-- Reads the calibration of a quantity. -/
def readChannel (setting : Setting) : Outcome Channel := do
  match ← readSection channelFields (.divide, none) setting with
  | (conversion, some scale) => return ⟨conversion, scale⟩
  | (_, none) => throw []

/-- The fields of the section `calibration`. -/
def channelsFields : List (Setting.Field Channels) := [
  ⟨"voltage", fun stored setting => return { stored with voltage := ← readChannel setting }⟩,
  ⟨"current", fun stored setting => return { stored with current := ← readChannel setting }⟩,
  ⟨"power", fun stored setting => return { stored with power := ← readChannel setting }⟩,
  ⟨"frequency", fun stored setting => return { stored with frequency := ← readChannel setting }⟩,
  ⟨"noise_threshold", fun stored setting =>
    return { stored with noise := .ofNat (← readNat (Text.maxWord 32) setting) }⟩]

/-- The sections of a configuration. A section that is read starts from its defaults. -/
def sections : List (Setting.Field Config) := [
  ⟨"application", fun stored setting =>
    return { stored with
      application := ← readSection applicationFields standard.application setting }⟩,
  ⟨"serial", fun stored setting =>
    return { stored with serial := ← readSection serialFields standard.serial setting }⟩,
  ⟨"scheduler", fun stored setting =>
    return { stored with
      scheduler := ← readSection schedulerFields standard.scheduler setting }⟩,
  ⟨"write_enable", fun stored setting =>
    return { stored with unlock := ← readSection unlockFields standard.unlock setting }⟩,
  ⟨"calibration", fun stored setting =>
    return { stored with channels := ← readSection channelsFields standard.channels setting }⟩]

/-- The configuration that settings stand for. -/
def ofSetting (setting : Setting) : Outcome Config :=
  readSection sections standard setting

/-- The configuration of a file, if there is one, and of environment variables: the file is laid
over the defaults and the variables over both. -/
def load (file : Option String) (environment : List (String × String)) : Except Fault Config := do
  let written ← match file with
    | none => pure (Setting.group [])
    | some text => ((Toml.parse text).elim (.error (.settings [])) .ok)
  let setting := (standard.toSetting.overlay written).overlay (Environment.settings environment)
  (ofSetting setting).mapError .settings

/-! ## Checks -/

/-- Calibrates a table with the channels of quantities. -/
def calibrate (channels : Channels) : List Quantity → Table → Except Fault Table
  | [], table => .ok table
  | quantity :: rest, table => do
    let table ← table.setConversion quantity (channels.get quantity).conversion
    let table ← table.setScale quantity (channels.get quantity).scale
    calibrate channels rest table

/-- The table of the reference device with this calibration. -/
def table (config : Config) : Except Fault Table :=
  calibrate config.channels Quantity.all .reference

/-- The options of a poller. -/
def options (config : Config) : Options where
  maxRetries := config.scheduler.maxRetries
  requestEvery := config.scheduler.requestEvery
  noise := config.channels.noise
  unlock := config.unlock

/-- The options of the log. -/
def logOptions (config : Config) : Except Fault LogOptions := do
  let level ← LogLevel.ofText config.application.logLevel
  return { LogOptions.atLevel level with format := config.application.logFormat }

/-- The first of the settings of the port and the scheduler that cannot work. -/
def fault? (config : Config) : Option ConfigFault :=
  let serial := config.serial
  let scheduler := config.scheduler
  if Text.isBlankText serial.port then some .blankPort
  else if serial.baudRate = 0 then some .zeroBaudRate
  else if serial.capacity < Frame.replyLength then some (.queueTooSmall serial.capacity)
  else if scheduler.maxRetries = 0 then some .zeroRetries
  else if scheduler.requestEvery = 0 then some .zeroRequestTicks
  else if scheduler.fastTick.nanoseconds = 0 ∨ scheduler.slowTick.nanoseconds = 0 then
    some .zeroPeriod
  else if scheduler.slowTick.nanoseconds < scheduler.fastTick.nanoseconds then
    some (.fastLongerThanSlow scheduler.fastTick scheduler.slowTick)
  else if config.unlock.register &&& 0x80 ≠ 0 then
    some (.unlockWriteBit config.unlock.register)
  else none

/-- Checks that a configuration can work: the log level first, the calibration last. -/
def validate (config : Config) : Except Fault Unit := do
  let _ ← LogLevel.ofText config.application.logLevel
  match config.fault? with
  | some fault => throw (.configuration fault)
  | none => let _ ← config.table

end Config

end MeterPoll
