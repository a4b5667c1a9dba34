import HostedStreams.Identifier

/-! What happens to a stream, as the host reports it and as sinks receive it. -/
namespace HostedStreams

/-- What the host tells about a transfer that it opened. -/
structure Opened where
  length : Option UInt64 := none
  mimeType : Option String := none
  headers : Option String := none
  cacheFilename : Option String := none
  /-- Whether the host can seek; nothing said keeps what was configured. -/
  seekable : Option Bool := none
  deriving DecidableEq

structure FailedOpen where
  reason : Option String := none
  deriving DecidableEq

/-- A chunk of the resource. -/
structure DataArrived where
  offset : UInt64
  data : List UInt8
  /-- The read request that the chunk answers; sequential delivery answers none. -/
  request : Option RequestId := none
  deriving DecidableEq

namespace DataArrived

/-- The offset behind the last byte; the largest offset bounds it. -/
def stop (d : DataArrived) : UInt64 :=
  if d.offset.toNat + d.data.length < UInt64.size then d.offset + UInt64.ofNat d.data.length
  else 0xffffffffffffffff

end DataArrived

structure Completed where
  success : Bool
  deriving DecidableEq

inductive Event where
  | created
  | destroyed
  | failedOpen (payload : FailedOpen)
  | opened (payload : Opened)
  | dataArrived (payload : DataArrived)
  | completed (payload : Completed)
  deriving DecidableEq

inductive EventKind where
  | created
  | destroyed
  | failedOpen
  | opened
  | dataArrived
  | completed
  deriving DecidableEq

namespace EventKind

/-- Every kind, in the order of their declaration. -/
def all : List EventKind :=
  [.created, .destroyed, .failedOpen, .opened, .dataArrived, .completed]

/-- The place of the kind among all kinds. -/
def index : EventKind → Nat
  | .created => 0
  | .destroyed => 1
  | .failedOpen => 2
  | .opened => 3
  | .dataArrived => 4
  | .completed => 5

/-- The name in logs, metric labels and documents. -/
def name : EventKind → String
  | .created => "stream_created"
  | .destroyed => "stream_destroyed"
  | .failedOpen => "stream_failed_open"
  | .opened => "stream_opened"
  | .dataArrived => "stream_data_arrived"
  | .completed => "stream_completed"

def ofName? (s : String) : Option EventKind :=
  all.find? (·.name == s)

end EventKind

namespace Event

def kind : Event → EventKind
  | .created => .created
  | .destroyed => .destroyed
  | .failedOpen _ => .failedOpen
  | .opened _ => .opened
  | .dataArrived _ => .dataArrived
  | .completed _ => .completed

/-- Whether the host can report the event only after it has acknowledged the
request, so that the acknowledgement is understood when it was left out. -/
def impliesCreated : Event → Bool
  | .opened _ | .failedOpen _ | .completed _ => true
  | _ => false

end Event
end HostedStreams
