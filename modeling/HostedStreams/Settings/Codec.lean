import HostedStreams.Settings
import HostedStreams.Json.Record
import HostedStreams.Json.Reader

/-! Documents of settings. Every section and every field may be left out and then
has its default. -/
namespace HostedStreams

open Json

namespace LogOutput

def fromJson? (v : Json) : Option LogOutput :=
  choice? (fun s => all.find? (·.name == s)) v

def toJson (o : LogOutput) : Json := .str o.name

end LogOutput

namespace DispatchSettings

def fromJson? (v : Json) : Option DispatchSettings := do
  match ← v.slots? ["queue_capacity"] with
  | [queueCapacity] => return { queueCapacity := ← queueCapacity.withDefault 256 word? }
  | _ => none

def toJson (s : DispatchSettings) : Json :=
  .obj [("queue_capacity", .ofWord s.queueCapacity)]

end DispatchSettings

namespace StreamDefaults

def fromJson? (v : Json) : Option StreamDefaults := do
  match ← v.slots? ["internal_buffer_size", "cache", "seekable"] with
  | [bufferSize, cache, seekable] =>
    return {
      bufferSize := ← bufferSize.withDefault StreamConfig.defaultBufferSize word?
      cache := ← cache.withDefault false bool?
      seekable := ← seekable.withDefault false bool? }
  | _ => none

def toJson (s : StreamDefaults) : Json :=
  .obj [("internal_buffer_size", .ofWord s.bufferSize), ("cache", .bool s.cache),
    ("seekable", .bool s.seekable)]

end StreamDefaults

namespace TelemetrySettings

def fromJson? (v : Json) : Option TelemetrySettings := do
  match ← v.slots? ["level", "format"] with
  | [level, format] =>
    return {
      level := ← level.withDefault "info" str?
      format := ← format.withDefault none (nullable? LogOutput.fromJson?) }
  | _ => none

def toJson (s : TelemetrySettings) : Json :=
  .obj [("level", .str s.level), ("format", .ofOption LogOutput.toJson s.format)]

end TelemetrySettings

namespace Settings

def fromJson? (v : Json) : Option Settings := do
  match ← v.slots? ["runtime", "streams", "telemetry"] with
  | [dispatch, streams, telemetry] =>
    return {
      dispatch := ← dispatch.withDefault {} DispatchSettings.fromJson?
      streams := ← streams.withDefault {} StreamDefaults.fromJson?
      telemetry := ← telemetry.withDefault {} TelemetrySettings.fromJson? }
  | _ => none

def toJson (s : Settings) : Json :=
  .obj [("runtime", s.dispatch.toJson), ("streams", s.streams.toJson),
    ("telemetry", s.telemetry.toJson)]

/-- The settings that a document writes, whether they can be honoured or not. -/
def ofDocument? (document : String) : Option Settings :=
  (read? document).bind fromJson?

/-- The settings that a document writes, if they can be honoured. -/
def load (document : String) : Except SettingsError Settings :=
  match ofDocument? document with
  | none => .error .parse
  | some s => do
    s.validate
    return s

/-- What may be found under a path. -/
inductive File where
  | missing
  | directory
  | bytes (content : List UInt8)

/-- The text of a file, which has to be UTF-8. -/
def File.text : File → Except SettingsError String
  | .missing => .error (.io "config.read" "NotFound")
  | .directory => .error (.io "config.read" "IsADirectory")
  | .bytes content =>
    match String.fromUTF8? ⟨content.toArray⟩ with
    | some s => .ok s
    | none => .error (.io "config.read" "InvalidData")

def loadFile (file : File) : Except SettingsError Settings := do
  load (← file.text)

end Settings
end HostedStreams
