import HostedStreams.Settings

/-! Environment variables that override settings. -/
namespace HostedStreams.Settings

/-- The overriding variables, in the order in which they are applied. -/
def overriding : List String :=
  ["HOSTSTREAM_QUEUE_CAPACITY", "HOSTSTREAM_BUFFER_SIZE", "HOSTSTREAM_LOG_LEVEL",
    "HOSTSTREAM_LOG_FORMAT"]

/-- Applies the variables one after the other and then validates what has become
of the settings. The settings are the second part of the result; a variable that
cannot be used ends the work, and the ones before it stay applied. -/
def applyEnvironment (lookup : String → Option String) (s : Settings) :
    Except SettingsError Unit × Settings :=
  (do
    if let some text := lookup "HOSTSTREAM_QUEUE_CAPACITY" then
      let n ← liftM (parsePositive "runtime" "queue_capacity" text)
      modify fun s => { s with dispatch := { s.dispatch with queueCapacity := n } }
    if let some text := lookup "HOSTSTREAM_BUFFER_SIZE" then
      let n ← liftM (parsePositive "streams" "internal_buffer_size" text)
      modify fun s => { s with streams := { s.streams with bufferSize := n } }
    if let some text := lookup "HOSTSTREAM_LOG_LEVEL" then
      modify fun s => { s with telemetry := { s.telemetry with level := text } }
    if let some text := lookup "HOSTSTREAM_LOG_FORMAT" then
      match LogOutput.ofText? text with
      | some format => modify fun s => { s with telemetry := { s.telemetry with format } }
      | none => throw (.invalidLogFormat text)
    liftM (validate (← get)) : ExceptT SettingsError (StateM Settings) Unit).run.run s

end HostedStreams.Settings
