import HostedStreams.Firing

/-! The life of a stream: how it takes events, how a transfer is started and
closed, and how the stream ends. No operation holds on to what it read across a
call of the client, because the client may call any operation meanwhile. -/
namespace HostedStreams

variable {κ : Client}

/-- Asks the host for a stream, and writes down that it is asked and that it has answered. -/
def askHost {α : Type} (env : Surroundings κ) (r : StreamRef) (id : StreamId) (call : HostCall)
    (ask : Host (Act κ) → Act κ (Except HostError α)) : Act κ (Except HostError α) := do
  modify (·.record (@Entry.hostCall _ id call r))
  let answer ← ask env.host
  modify (·.record (@Entry.hostAnswer _ id call answer.isOk r))
  return answer

/-- Makes a stream, which has one handle. -/
def makeStream (id : StreamId) (config : StreamConfig) (binding : Binding) : Act κ StreamRef := do
  let w ← get
  let made : Stream := { id, config, binding, status := { seekable := config.seekable } }
  set { w with streams := w.streams ++ [made] }
  return ⟨w.streams.length⟩

/-- An identifier that no stream has. -/
def drawId : Act κ StreamId :=
  modifyGet fun w => (.drawn w.drawn, { w with drawn := w.drawn + 1 })

namespace StreamRef

/-- Tears the stream down: its sinks receive the end and are detached. -/
def destroy (env : Surroundings κ) (r : StreamRef) : Act κ Unit := do
  if ((← get).status r).state ≠ .destroyed then
    modify (·.updateStatus r Status.tornDown)
    let _ ← fire env (.stream r) .destroyed
    (Origin.stream r).clear

/-- Takes one event of the host as the stream's state has it. -/
def apply (env : Surroundings κ) (r : StreamRef) (event : Event) : Act κ Bool := do
  let (status, reaction) := ((← get).status r).react event
  modify (·.updateStatus r fun _ => status)
  match reaction with
  | .fire event => fire env (.stream r) event
  | .destroy =>
    r.destroy env
    return false
  | .ignore => return false

/-- Takes an event of the host. One that can only follow the acknowledgement of the
request stands for the acknowledgement too, if that is missing. Tells whether a
sink handled the event itself. -/
def receive (env : Surroundings κ) (r : StreamRef) (event : Event) : Act κ Bool := do
  if event.impliesCreated && ((← get).status r).state = .created then
    let _ ← r.apply env .created
  r.apply env event

/-- Asks the host to start the transfer, once. A stream whose request is refused is
torn down. -/
def start (env : Surroundings κ) (r : StreamRef) : Act κ (Except StreamError Unit) := do
  let s := (← get).stream r
  if s.status.requested || s.status.state ≠ .created then
    return .ok ()
  modify (·.updateStatus r fun f => { f with requested := true })
  let config := { s.config with seekable := s.status.seekable }
  match ← askHost env r s.id (.start config) (·.start s.id config) with
  | .ok () => return .ok ()
  | .error e =>
    r.destroy env
    return .error (.host "open" e)

/-- Attaches a sink, unless the stream is torn down. Tells whether it was added. -/
def attach (r : StreamRef) (sink : SinkRef) : Act κ Bool := do
  if ((← get).status r).state = .destroyed then return false
  (Origin.stream r).attach sink

/-- Detaches a sink. Tells whether it was attached. -/
def detach (r : StreamRef) (sink : SinkRef) : Act κ Bool :=
  (Origin.stream r).detach sink

/-- Whether the stream has a context and what runs now runs outside it. -/
def isForeign (env : Surroundings κ) (r : StreamRef) : Act κ Bool := do
  match ((← get).stream r).binding with
  | .free => return false
  | .client => return !(← env.isCurrent)
  | .worker => return !(← get).dispatcher.inContext

/-- Queues the teardown in the stream's context. A context that has stopped takes none. -/
def scheduleTeardown (env : Surroundings κ) (r : StreamRef) : Act κ Bool := do
  let s := (← get).stream r
  match s.binding with
  | .free => return false
  | .client => env.scheduleTeardown s.id
  | .worker =>
    if (← get).dispatcher.phase = .running then
      modify (·.updateDispatcher fun d => { d with teardowns := d.teardowns ++ [s.id] })
      return true
    else return false

/-- The end of a close that the host has agreed to or need not agree to. Outside the
stream's context the teardown is queued there, once; inside it, and if it takes no
teardown, the stream is torn down at once. -/
def closeDown (env : Surroundings κ) (r : StreamRef) (already : Bool) : Act κ Unit := do
  if ← r.isForeign env then
    if already then return ()
    if ← r.scheduleTeardown env then return ()
  r.destroy env

/-- Ends the transfer and tears the stream down. The host is asked to cancel what it
can cancel, and the stream stays as it was if the host refuses. -/
def close (env : Surroundings κ) (r : StreamRef) : Act κ (Except StreamError Unit) := do
  let s := (← get).stream r
  if s.status.state = .destroyed then
    return .ok ()
  modify (·.updateStatus r fun f => { f with closing := true })
  if s.status.cancellable then
    if let .error e ← askHost env r s.id .cancel (·.cancel s.id) then
      modify (·.updateStatus r fun f => { f with closing := false })
      return .error (.host "close" e)
  r.closeDown env s.status.closing
  return .ok ()

/-- What happens to a stream without handles: an unfinished transfer is cancelled,
whatever the host says to it, and the stream is torn down. -/
def drop (env : Surroundings κ) (r : StreamRef) : Act κ Unit := do
  let s := (← get).stream r
  if s.status.state ≠ .destroyed then
    if s.status.cancellable then
      let _ ← askHost env r s.id .cancel (·.cancel s.id)
    r.destroy env

/-- One more handle. -/
def acquire (r : StreamRef) : Act κ Unit :=
  modify (·.updateStream r fun s => { s with handles := s.handles + 1 })

/-- One handle less. -/
def release (env : Surroundings κ) (r : StreamRef) : Act κ Unit := do
  modify (·.updateStream r fun s => { s with handles := s.handles - 1 })
  if ((← get).stream r).handles = 0 then r.drop env

/-- A call in progress keeps the stream. -/
def holding {α : Type} (env : Surroundings κ) (r : StreamRef) (act : Act κ α) : Act κ α := do
  r.acquire
  act.after (r.release env)

end StreamRef
end HostedStreams
