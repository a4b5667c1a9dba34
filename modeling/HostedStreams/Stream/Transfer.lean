import HostedStreams.Stream.Lifecycle

/-! Reading and writing. A request that the stream's state or its own arguments rule
out is refused before the host is asked. -/
namespace HostedStreams.StreamRef

variable {κ : Client}

/-- Registers a read and asks the host for it. A read that the host refuses is
forgotten, its number is not used again. -/
def request (env : Surroundings κ) (r : StreamRef) (operation : String) (ranges : List Range) :
    Act κ (Except StreamError RequestId) := do
  let s := (← get).stream r
  let id := s.status.nextRequest
  modify (·.updateStatus r (·.register ranges))
  match ← askHost env r s.id (.requestRanges id ranges) (·.requestRanges s.id id ranges) with
  | .ok () => return .ok id
  | .error e =>
    modify (·.updateStatus r (·.withdraw id))
    return .error (.host operation e)

/-- Asks for the bytes from `start` up to `stop`. -/
def readRange (env : Surroundings κ) (r : StreamRef) (start stop : UInt64) :
    Act κ (Except StreamError RequestId) := do
  match ((← get).status r).readBarrier? "read_range" with
  | some e => return .error e
  | none =>
    match Range.ofBounds? start stop with
    | .error e => return .error e
    | .ok range => r.request env "read_range" [range]

/-- Asks for several ranges as one request, which fails as a whole. -/
def readRanges (env : Surroundings κ) (r : StreamRef) (ranges : List Range) :
    Act κ (Except StreamError RequestId) := do
  match ((← get).status r).readBarrier? "read_ranges" with
  | some e => return .error e
  | none =>
    if ranges.isEmpty then return .error .emptyRequest
    match ranges.find? (!·.valid) with
    | some range => return .error (.invalidRange range.start range.stop)
    | none => r.request env "read_ranges" ranges

/-- Hands bytes to the host and tells how many it took, which may be fewer. -/
def write (env : Surroundings κ) (r : StreamRef) (data : List UInt8) :
    Act κ (Except StreamError Nat) := do
  let s := (← get).stream r
  if !s.status.usable then return .error (.notOpen "write")
  if data.isEmpty then return .ok 0
  match ← askHost env r s.id (.write data) (·.write s.id data) with
  | .ok n => return .ok (min n data.length)
  | .error e => return .error (.host "write" e)

end HostedStreams.StreamRef
