import HostedStreams.Event
import HostedStreams.Stream.State

/-! What a recording sink remembers. -/
namespace HostedStreams

/-- One delivery, with the state in which the stream was. -/
structure Received where
  state : StreamState
  event : Event
  deriving DecidableEq

/-- Deliveries, oldest first. -/
abbrev Deliveries := List Received

namespace Deliveries

def kinds (d : Deliveries) : List EventKind :=
  d.map (·.event.kind)

/-- How many events of the kind were received. -/
def count (kind : EventKind) (d : Deliveries) : Nat :=
  (d.kinds.filter (· == kind)).length

end Deliveries
end HostedStreams
