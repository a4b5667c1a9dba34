import HostedStreams.Stream.Config
import HostedStreams.Text.Blank
import HostedStreams.Text.Decimal

/-! Settings of a plugin: how long its queue is, what streams ask for when they
are made from a bare address, and how it logs. -/
namespace HostedStreams

/-- How log lines are written. -/
inductive LogOutput where
  | pretty
  | json
  deriving DecidableEq

namespace LogOutput

def all : List LogOutput := [.pretty, .json]

def name : LogOutput → String
  | .pretty => "pretty"
  | .json => "json"

/-- Reads a name without regard to blanks around it and to the case of ASCII letters. -/
def ofText? (text : String) : Option LogOutput :=
  all.find? (·.name == Text.lower (Text.trim text))

end LogOutput

structure DispatchSettings where
  /-- How many notifications may wait. -/
  queueCapacity : UInt64 := 256
  deriving DecidableEq

structure StreamDefaults where
  bufferSize : UInt64 := StreamConfig.defaultBufferSize
  cache : Bool := false
  seekable : Bool := false
  deriving DecidableEq

/-- What a stream of the address asks for by default. -/
def StreamDefaults.config (d : StreamDefaults) (url : String) : StreamConfig :=
  { url, cache := d.cache, seekable := d.seekable, bufferSize := d.bufferSize }

structure TelemetrySettings where
  level : String := "info"
  /-- Nothing said leaves the choice to the build. -/
  format : Option LogOutput := none
  deriving DecidableEq

structure Settings where
  dispatch : DispatchSettings := {}
  streams : StreamDefaults := {}
  telemetry : TelemetrySettings := {}
  deriving DecidableEq

/-- Why settings cannot be used. -/
inductive SettingsError where
  | invalidField (section_ field : String) (value : Option String) (reason : String)
  | invalidLogFormat (value : String)
  /-- The document is not a document of settings. -/
  | parse
  /-- The file could not be read; `kind` names what was wrong with it. -/
  | io (operation kind : String)
  deriving DecidableEq

namespace SettingsError

def message : SettingsError → String
  | .invalidField _ _ _ _ => "invalid configuration field"
  | .invalidLogFormat _ => "invalid log format"
  | .parse => "failed to parse configuration document"
  | .io _ _ => "filesystem operation failed"

end SettingsError

/-- Reads a name; what is no name is given back as it was. -/
def LogOutput.ofText (text : String) : Except SettingsError LogOutput :=
  match ofText? text with
  | some output => .ok output
  | none => .error (.invalidLogFormat text)

namespace Settings

/-- The largest buffer a stream may ask for by default. -/
def maxBufferSize : UInt64 := 67108864

def ensurePositive (section_ field : String) (value : UInt64) : Except SettingsError Unit :=
  if value = 0 then .error (.invalidField section_ field (some "0") "must be greater than zero")
  else .ok ()

/-- Reads a size that is written as a numeral, with blanks around it or not. -/
def parsePositive (section_ field text : String) : Except SettingsError UInt64 :=
  match Text.word? (Text.trimmed text.toList) with
  | none => .error (.invalidField section_ field (some text) "must be an unsigned integer")
  | some n => do
    ensurePositive section_ field n
    return n

/-- The first field that cannot be honoured, if any. -/
def validate (s : Settings) : Except SettingsError Unit := do
  ensurePositive "runtime" "queue_capacity" s.dispatch.queueCapacity
  ensurePositive "streams" "internal_buffer_size" s.streams.bufferSize
  if s.streams.bufferSize > maxBufferSize then
    throw (.invalidField "streams" "internal_buffer_size"
      (some (toString s.streams.bufferSize.toNat)) "exceeds maximum buffer size")
  if Text.blank s.telemetry.level then
    throw (.invalidField "telemetry" "level" none "must not be empty")

end Settings
end HostedStreams
