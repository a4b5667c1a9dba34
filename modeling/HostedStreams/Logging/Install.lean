import HostedStreams.Logging.Format
import HostedStreams.Logging.Filter

/-! Installing a logger for a process that has one already, which never succeeds:
what can be told is the first reason why. -/
namespace HostedStreams

/-- Why a logger was not installed. -/
inductive LoggingError where
  | blankLevel
  | invalidLevel (level : String) (reason : FilterError)
  | alreadyInstalled
  /-- Reading a filter went wrong before it could be told whether it is well formed. -/
  | broken (reason : Text.CutError)
  deriving DecidableEq

namespace LoggingError

def message : LoggingError → String
  | .blankLevel => "log level must not be blank"
  | .invalidLevel level reason => "invalid log level '" ++ level ++ "': " ++ reason.message
  | .alreadyInstalled =>
    "tracing subscriber already installed: " ++
      "a global default trace dispatcher has already been set"
  | .broken reason => reason.message

end LoggingError

/-- Why the logger is not installed. A filter of the process's environment takes
the place of the configured level if it is well formed, but the configured level
must not be blank in any case. -/
def LoggingConfig.install (config : LoggingConfig) (environment : Option String) : LoggingError :=
  if Text.blank config.level then .blankLevel
  else
    match environment.map LogFilter.check with
    | some (.ok ()) => .alreadyInstalled
    | some (.error (.cut reason)) => .broken reason
    | _ =>
      match LogFilter.check config.level with
      | .ok () => .alreadyInstalled
      | .error (.cut reason) => .broken reason
      | .error reason => .invalidLevel config.level reason

end HostedStreams
