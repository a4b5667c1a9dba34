import HostedStreams.Settings

/-! How the logger writes its lines. -/
namespace HostedStreams

inductive LogFormat where
  /-- One JSON object a line. -/
  | json
  /-- Lines for people. -/
  | pretty
  deriving DecidableEq

namespace LogFormat

def name : LogFormat → String
  | .json => "json"
  | .pretty => "pretty"

/-- The format of builds that say nothing: this is a build for development. -/
def ofBuild : LogFormat := .pretty

/-- Reads a name without regard to blanks around it and to the case of ASCII
letters; what is no name is given back in words. -/
def ofText (text : String) : Except String LogFormat :=
  let word := Text.lower (Text.trim text)
  if word = "json" then .ok .json
  else if word = "pretty" then .ok .pretty
  else .error ("invalid log format '" ++ text ++ "'")

/-- The format that settings choose. -/
def ofOutput : Option LogOutput → LogFormat
  | some .json => .json
  | some .pretty => .pretty
  | none => ofBuild

end LogFormat

/-- The identifier of the build; development builds have no other. -/
def buildSha : String := "dev"

/-- What a logger is installed with. -/
structure LoggingConfig where
  level : String := "info"
  format : LogFormat := .ofBuild
  buildSha : String := HostedStreams.buildSha
  /-- Whether a line is written when a span closes. -/
  spanEvents : Bool := false

/-- The logger that settings ask for. -/
def TelemetrySettings.logging (s : TelemetrySettings) : LoggingConfig :=
  { level := s.level, format := .ofOutput s.format }

end HostedStreams
