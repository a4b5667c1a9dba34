import HostedStreams.Json.Record

/-! Where a stream stands in its life. -/
namespace HostedStreams

inductive StreamState where
  /-- Made; the host has not acknowledged the request yet. -/
  | created
  /-- Acknowledged; the host is opening the transfer. -/
  | opening
  | opened
  | completed
  | failedOpen
  /-- Torn down; nothing is delivered any more. -/
  | destroyed
  deriving DecidableEq

namespace StreamState

def all : List StreamState :=
  [.created, .opening, .opened, .completed, .failedOpen, .destroyed]

def name : StreamState → String
  | .created => "created"
  | .opening => "opening"
  | .opened => "opened"
  | .completed => "completed"
  | .failedOpen => "failed_open"
  | .destroyed => "destroyed"

/-- The name in descriptions of a stream. -/
def title : StreamState → String
  | .created => "Created"
  | .opening => "Opening"
  | .opened => "Opened"
  | .completed => "Completed"
  | .failedOpen => "FailedOpen"
  | .destroyed => "Destroyed"

/-- Whether the transfer can make no further progress. -/
def terminal : StreamState → Bool
  | .completed | .failedOpen | .destroyed => true
  | .created | .opening | .opened => false

def fromJson? (v : Json) : Option StreamState :=
  Json.choice? (fun s => all.find? (·.name == s)) v

end StreamState
end HostedStreams
