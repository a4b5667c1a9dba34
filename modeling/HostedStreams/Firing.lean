import HostedStreams.System

/-! Firing: an origin hands an event to its sinks in the order of attachment. A
pass goes by the list at its start. Who was detached since is passed over, even if
attached again, and who was attached since waits for the next pass. The list can
change at every delivery, for sinks may attach, detach and fire. -/
namespace HostedStreams

variable {κ : Client}

/-- Hands the event to one sink, which is kept until it is done with it. -/
def deliverTo (env : Surroundings κ) (o : Origin) (event : Event) (sink : SinkRef) :
    Act κ Bool := do
  modify (·.updateSink sink fun life => { life with busy := life.busy + 1 })
  modify fun w => w.record (.delivery sink o event (w.standing o) w.dispatcher.inContext)
  (env.deliver sink o event).after
    (modify (·.updateSink sink fun life => { life with busy := life.busy - 1 }))

/-- The rest of a pass. Tells whether a sink handled the event, and whether one was
met that is gone. -/
def visit (env : Surroundings κ) (o : Origin) (event : Event) :
    List Attachment → Act κ (Bool × Bool)
  | [] => pure (false, false)
  | a :: rest => do
    let w ← get
    if !w.alive a.sink then
      let (handled, _) ← visit env o event rest
      return (handled, true)
    else if !(w.source o).holds a then
      visit env o event rest
    else
      let here ← deliverTo env o event a.sink
      let (handled, stale) ← visit env o event rest
      return (here || handled, stale)

/-- One pass. Tells whether a sink handled the event. Sinks that are gone are
forgotten afterwards; a panic leaves that to a later pass. -/
def fire (env : Surroundings κ) (o : Origin) (event : Event) : Act κ Bool := do
  let w ← get
  modify (·.record (.pass o event (w.standing o)))
  let (handled, stale) ← visit env o event (w.source o).attachments
  if stale then
    modify fun w => w.updateSource o (·.prune w.alive)
  return handled

/-- Makes a sink that its owner keeps. -/
def makeSink : Act κ SinkRef := do
  let w ← get
  set { w with sinks := w.sinks ++ [({} : SinkLife)] }
  return ⟨w.sinks.length⟩

/-- The owner gives the sink up. -/
def abandonSink (sink : SinkRef) : Act κ Unit :=
  modify (·.updateSink sink fun life => { life with owned := false })

def makeHub : Act κ HubRef := do
  let w ← get
  set { w with hubs := w.hubs ++ [Source.empty] }
  return ⟨w.hubs.length⟩

namespace Origin

/-- Attaches the sink and tells whether it was added. -/
def attach (o : Origin) (sink : SinkRef) : Act κ Bool :=
  modifyGet fun w =>
    let (added, s) := (w.source o).attach w.alive sink
    (added, w.updateSource o fun _ => s)

/-- Detaches the sink and tells whether it was attached. -/
def detach (o : Origin) (sink : SinkRef) : Act κ Bool :=
  modifyGet fun w =>
    let (removed, s) := (w.source o).detach w.alive sink
    (removed, w.updateSource o fun _ => s)

def clear (o : Origin) : Act κ Unit :=
  modify (·.updateSource o Source.clear)

def isAttached (o : Origin) (sink : SinkRef) : Act κ Bool :=
  return ((← get).source o).isAttached (← get).alive sink

def size (o : Origin) : Act κ Nat :=
  return ((← get).source o).size (← get).alive

end Origin
end HostedStreams
