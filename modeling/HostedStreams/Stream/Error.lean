import HostedStreams.Identifier
import HostedStreams.Range

/-! How requests to the host and operations on streams fail. An error is a
cause; its wording is kept apart and does not vary with the details. -/
namespace HostedStreams

/-- Why the host did not serve a request. -/
inductive HostError where
  /-- The host does not implement the operation. -/
  | unsupported (operation : String)
  /-- The host knows no such stream. -/
  | unknownStream (id : StreamId)
  | rejected (operation reason : String)
  /-- The host failed while it served the request; `source` words what went wrong. -/
  | failed (operation source : String)
  deriving DecidableEq

namespace HostError

def message : HostError → String
  | .unsupported _ => "host operation not supported"
  | .unknownStream _ => "stream unknown to host"
  | .rejected _ _ => "host rejected request"
  | .failed _ _ => "host operation failed"

/-- The error's text and the text of what caused it, outermost first. -/
def chain : HostError → List String
  | .failed operation source => [message (.failed operation source), source]
  | e => [e.message]

end HostError

/-- Why an operation on a stream did not succeed. -/
inductive StreamError where
  | notOpen (operation : String)
  | notSeekable (operation : String)
  /-- A range that holds no byte was asked for. -/
  | invalidRange (start stop : UInt64)
  /-- A read named no range at all. -/
  | emptyRequest
  | host (operation : String) (source : HostError)
  /-- No stream could be made; `source` words why. -/
  | factory (source : String)
  deriving DecidableEq

namespace StreamError

def message : StreamError → String
  | .notOpen _ => "stream is not open"
  | .notSeekable _ => "stream is not seekable"
  | .invalidRange _ _ => "invalid byte range"
  | .emptyRequest => "no ranges requested"
  | .host _ _ => "host transport failed"
  | .factory _ => "stream creation failed"

/-- Whether the operation was refused before the host was asked. -/
def precondition : StreamError → Bool
  | .notOpen _ | .notSeekable _ | .invalidRange _ _ | .emptyRequest => true
  | .host _ _ | .factory _ => false

def chain : StreamError → List String
  | .host operation source => message (.host operation source) :: source.chain
  | .factory source => [message (.factory source), source]
  | e => [e.message]

/-- The text of the innermost cause. -/
def innermost (e : StreamError) : String :=
  e.chain.getLast?.getD e.message

end StreamError

/-- The interval, if it holds a byte. -/
def Range.ofBounds? (start stop : UInt64) : Except StreamError Range :=
  if start < stop then .ok ⟨start, stop⟩ else .error (.invalidRange start stop)

end HostedStreams
