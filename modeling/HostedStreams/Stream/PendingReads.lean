import HostedStreams.Identifier
import HostedStreams.Range
import HostedStreams.Event

/-! Read requests that the host has not answered completely. Each keeps the parts
of its ranges that have not arrived, in the order of the request, and is
forgotten once nothing is left. -/
namespace HostedStreams

/-- What is left of each read, in ascending order of the requests. -/
abbrev PendingReads := List (RequestId × List Range)

namespace PendingReads

/-- Takes the bytes from `start` up to `stop` out of every range. -/
def consume (start stop : UInt64) (ranges : List Range) : List Range :=
  ranges.flatMap (Range.without start stop)

/-- Puts a request in its place. One that is already there is replaced. -/
def insert (id : RequestId) (ranges : List Range) : PendingReads → PendingReads
  | [] => [(id, ranges)]
  | (other, left) :: rest =>
    if other.number < id.number then (other, left) :: insert id ranges rest
    else if other = id then (id, ranges) :: rest
    else (id, ranges) :: (other, left) :: rest

def erase (id : RequestId) (pending : PendingReads) : PendingReads :=
  pending.filter (·.1 ≠ id)

def ids (pending : PendingReads) : List RequestId :=
  pending.map (·.1)

/-- Whether a chunk answers the request: it names that request or none. -/
def answers (chunk : DataArrived) (id : RequestId) : Bool :=
  match chunk.request with
  | none => true
  | some request => request == id

/-- Takes a chunk's bytes out of the reads it answers and forgets those that are
thereby complete. A chunk without bytes changes nothing. -/
def retire (chunk : DataArrived) (pending : PendingReads) : PendingReads :=
  if chunk.offset < chunk.stop then
    pending.filterMap fun (id, left) =>
      if answers chunk id then
        let left := consume chunk.offset chunk.stop left
        if left.isEmpty then none else some (id, left)
      else some (id, left)
  else pending

end PendingReads
end HostedStreams
