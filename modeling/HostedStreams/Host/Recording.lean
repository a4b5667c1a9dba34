import HostedStreams.Host

/-! A host that serves nothing and remembers every request it accepted. Requests
can be made to fail by name, and the host can be made to forget streams. -/
namespace HostedStreams

/-- How a request that is made to fail does so. -/
inductive Fault where
  | reject
  | breakDown
  deriving DecidableEq

/-- One accepted request. A write is remembered with the bytes that were taken and
the number that were offered. -/
inductive Recorded where
  | start (config : StreamConfig)
  | requestRanges (request : RequestId) (ranges : List Range)
  | write (taken : List UInt8) (offered : Nat)
  | cancel
  deriving DecidableEq

def Recorded.name : Recorded → String
  | .start _ => "open"
  | .requestRanges _ _ => "request_ranges"
  | .write _ _ => "write"
  | .cancel => "close"

structure RecordingHost where
  /-- The accepted requests, oldest first. -/
  calls : List (StreamId × Recorded) := []
  /-- The streams with a transfer. -/
  known : List StreamId := []
  /-- The requests that are made to fail. -/
  faults : List (String × Fault) := []
  /-- How many bytes one write takes at most. -/
  writeCap : Option Nat := none

namespace RecordingHost

def injected : String := "injected failure"

/-- Makes every request of the name fail, in one way or the other. -/
def setFault (call : String) (fault : Fault) (h : RecordingHost) : RecordingHost :=
  { h with faults := (call, fault) :: h.faults.filter (·.1 != call) }

def recover (call : String) (h : RecordingHost) : RecordingHost :=
  { h with faults := h.faults.filter (·.1 != call) }

def forget (id : StreamId) (h : RecordingHost) : RecordingHost :=
  { h with known := h.known.filter (· != id) }

def setWriteCap (cap : Option Nat) (h : RecordingHost) : RecordingHost :=
  { h with writeCap := cap }

/-- The failure that is injected into requests of the name, if any. -/
def faultOf? (call : String) (h : RecordingHost) : Option HostError :=
  (h.faults.find? (·.1 == call)).map fun (_, fault) =>
    match fault with
    | .reject => .rejected call injected
    | .breakDown => .failed call injected

/-- Why a request about a stream is refused, if it is. An injected failure is told
before the host looks for the stream. -/
def barrier? (call : String) (id : StreamId) (h : RecordingHost) : Option HostError :=
  match h.faultOf? call with
  | some e => some e
  | none => if h.known.contains id then none else some (.unknownStream id)

def note (id : StreamId) (call : Recorded) (h : RecordingHost) : RecordingHost :=
  { h with calls := h.calls ++ [(id, call)] }

def start (id : StreamId) (config : StreamConfig) (h : RecordingHost) :
    Except HostError Unit × RecordingHost :=
  match h.faultOf? "open" with
  | some e => (.error e, h)
  | none =>
    (.ok (), { h with known := id :: h.known.filter (· != id) }.note id (.start config))

def requestRanges (id : StreamId) (request : RequestId) (ranges : List Range) (h : RecordingHost) :
    Except HostError Unit × RecordingHost :=
  match h.barrier? "request_ranges" id with
  | some e => (.error e, h)
  | none => (.ok (), h.note id (.requestRanges request ranges))

/-- The part of the bytes that one write takes. -/
def accepted (data : List UInt8) (h : RecordingHost) : List UInt8 :=
  match h.writeCap with
  | some cap => data.take cap
  | none => data

def write (id : StreamId) (data : List UInt8) (h : RecordingHost) :
    Except HostError Nat × RecordingHost :=
  match h.barrier? "write" id with
  | some e => (.error e, h)
  | none => (.ok (h.accepted data).length, h.note id (.write (h.accepted data) data.length))

def cancel (id : StreamId) (h : RecordingHost) : Except HostError Unit × RecordingHost :=
  match h.barrier? "close" id with
  | some e => (.error e, h)
  | none => (.ok (), (h.forget id).note id .cancel)

/-- The names of the accepted requests. -/
def operations (h : RecordingHost) : List String :=
  h.calls.map (·.2.name)

/-- All bytes taken, in order. -/
def written (h : RecordingHost) : List UInt8 :=
  h.calls.flatMap fun (_, call) =>
    match call with
    | .write taken _ => taken
    | _ => []

end RecordingHost
end HostedStreams
