import HostedStreams.Stream.Config
import HostedStreams.Stream.Error

/-! What a host does for streams. Every request returns at once; what comes of it
is reported later by events. -/
namespace HostedStreams

structure Host (m : Type → Type) [Pure m] where
  /-- Starts the transfer. -/
  start : StreamId → StreamConfig → m (Except HostError Unit)
  /-- Asks for ranges; the data will name the request. Hosts need not support it. -/
  requestRanges : StreamId → RequestId → List Range → m (Except HostError Unit) :=
    fun _ _ _ => pure (.error (.unsupported "request_ranges"))
  /-- Takes bytes and tells how many of them; hosts need not support it. -/
  write : StreamId → List UInt8 → m (Except HostError Nat) :=
    fun _ _ => pure (.error (.unsupported "write"))
  /-- Cancels the transfer. -/
  cancel : StreamId → m (Except HostError Unit)

/-- One request to a host. -/
inductive HostCall where
  | start (config : StreamConfig)
  | requestRanges (request : RequestId) (ranges : List Range)
  | write (data : List UInt8)
  | cancel
  deriving DecidableEq

namespace HostCall

def name : HostCall → String
  | .start _ => "open"
  | .requestRanges _ _ => "request_ranges"
  | .write _ => "write"
  | .cancel => "close"

/-- Whether the transfer is asked for. -/
def starts : HostCall → Bool
  | .start _ => true
  | _ => false

end HostCall
end HostedStreams
