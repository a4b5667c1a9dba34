import HostedStreams.Event
import HostedStreams.Stream.Lifecycle

/-! Streams and events for trials. -/
namespace HostedStreams

variable {κ : Client}

namespace Fixture

/-- The configuration of streams that are given no address. -/
def config : StreamConfig :=
  { url := "http://x/y", cache := true, seekable := true, bufferSize := 4096 }

def opened (length : UInt64) : Event :=
  .opened { length := some length }

def failedOpen (reason : String) : Event :=
  .failedOpen { reason := some reason }

def completed (success : Bool) : Event :=
  .completed { success }

/-- A chunk in which every byte is the lowest byte of its own offset. There is none
that reaches the end of all offsets. -/
def data? (offset length : UInt64) (request : Option RequestId) : Option Event :=
  if offset.toNat + length.toNat < UInt64.size then
    some (.dataArrived
      { offset, request
        data := (List.range length.toNat).map fun i => UInt8.ofNat (offset.toNat + i) })
  else none

/-- A stream that could not be opened, in words. -/
def failure (url : String) : String :=
  "failed to open stream for " ++ url

/-- Makes a stream and starts its transfer. -/
def openStream (env : Surroundings κ) (config : StreamConfig) :
    Act κ (Except StreamError StreamRef) := do
  let r ← makeStream (← drawId) config .free
  match ← tryCatch (r.start env) fun h => do r.release env; throw h with
  | .ok () => return .ok r
  | .error e =>
    r.release env
    return .error e

end Fixture
end HostedStreams
