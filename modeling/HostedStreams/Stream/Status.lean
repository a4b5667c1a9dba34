import HostedStreams.Stream.State
import HostedStreams.Stream.Error
import HostedStreams.Stream.PendingReads

/-! Everything about a stream that changes, and what an event of the host does to it. -/
namespace HostedStreams

structure Status where
  state : StreamState := .created
  /-- Whether the host was asked to start the transfer. -/
  requested : Bool := false
  /-- Whether a close is under way or was accepted; it stays set once the stream is
  torn down. -/
  closing : Bool := false
  seekable : Bool
  opened : Bool := false
  completed : Bool := false
  length : Option UInt64 := none
  mimeType : Option String := none
  headers : Option String := none
  cacheFilename : Option String := none
  nextRequest : RequestId := ⟨1⟩
  pending : PendingReads := []
  deriving DecidableEq

/-- What is to be done about an event once the status is updated. -/
inductive Reaction where
  | fire (event : Event)
  | destroy
  | ignore
  deriving DecidableEq

namespace Status

/-- The reason reported when the host ends a transfer that never opened. -/
def completedBeforeOpen : String := "transfer completed before it was opened"

def applyOpened (payload : Opened) (s : Status) : Status :=
  { s with
    state := .opened
    opened := true
    length := payload.length
    mimeType := payload.mimeType
    headers := payload.headers
    cacheFilename := payload.cacheFilename
    seekable := payload.seekable.getD s.seekable }

def applyFailedOpen (s : Status) : Status :=
  { s with state := .failedOpen, opened := false, completed := true, pending := [] }

def applyCompleted (s : Status) : Status :=
  { s with state := .completed, completed := true, pending := [] }

/-- Whether a close is under way or was accepted and the teardown is still to come. -/
def isClosing (s : Status) : Bool :=
  s.closing && s.state ≠ .destroyed

/-- How the stream takes an event of the host. An event that does not fit the
state is ignored, and so is everything but the end once a close was accepted. -/
def react (s : Status) (event : Event) : Status × Reaction :=
  if s.isClosing && event ≠ .destroyed then (s, .ignore)
  else
    match event, s.state with
    | .created, .created => ({ s with state := .opening }, .fire .created)
    | .opened p, .opening => (s.applyOpened p, .fire (.opened p))
    | .failedOpen p, .opening => (s.applyFailedOpen, .fire (.failedOpen p))
    | .completed _, .opening =>
      (s.applyFailedOpen, .fire (.failedOpen ⟨some completedBeforeOpen⟩))
    | .dataArrived p, .opened =>
      ({ s with pending := s.pending.retire p }, .fire (.dataArrived p))
    | .completed p, .opened => (s.applyCompleted, .fire (.completed p))
    | .destroyed, .destroyed => (s, .ignore)
    | .destroyed, _ => (s, .destroy)
    | _, _ => (s, .ignore)

/-- Whether data may be asked for or handed over. -/
def usable (s : Status) : Bool :=
  s.state = .opened && !s.closing

/-- Why a read may not be made, if it may not. -/
def readBarrier? (s : Status) (operation : String) : Option StreamError :=
  if !s.usable then some (.notOpen operation)
  else if !s.seekable then some (.notSeekable operation)
  else none

/-- Whether the host has a transfer to cancel: it was asked for one that can still
make progress, and no close was accepted. -/
def cancellable (s : Status) : Bool :=
  s.requested && !s.closing && !s.state.terminal

/-- Registers a read under the next number. -/
def register (s : Status) (ranges : List Range) : Status :=
  { s with
    nextRequest := s.nextRequest.next
    pending := s.pending.insert s.nextRequest ranges }

/-- Forgets a read that the host refused. -/
def withdraw (s : Status) (id : RequestId) : Status :=
  { s with pending := s.pending.erase id }

/-- The state of a stream whose teardown begins. -/
def tornDown (s : Status) : Status :=
  { s with state := .destroyed, pending := [] }

end Status
end HostedStreams
