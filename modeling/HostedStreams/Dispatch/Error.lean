import HostedStreams.Identifier

/-! How calls on a dispatcher fail. -/
namespace HostedStreams

inductive DispatchError where
  /-- The queue has no room for a notification of the stream. -/
  | queueFull (id : StreamId) (capacity : Nat)
  | stopped
  /-- Nothing is there that could run the worker. -/
  | noExecutor
  | invalidQueueCapacity (capacity : Nat)
  | jobPanicked
  /-- The worker did not end of its own accord; it was cancelled or it panicked. -/
  | worker (cancelled : Bool)
  /-- No logger could be installed; `source` words why. -/
  | telemetry (operation source : String)
  deriving DecidableEq

namespace DispatchError

def message : DispatchError → String
  | .queueFull _ _ => "notification queue full"
  | .stopped => "runtime stopped"
  | .noExecutor => "no async executor available"
  | .invalidQueueCapacity _ => "invalid queue capacity"
  | .jobPanicked => "invoked job panicked"
  | .worker _ => "runtime worker failed"
  | .telemetry _ _ => "telemetry operation failed"

end DispatchError
end HostedStreams
