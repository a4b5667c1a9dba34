import HostedStreams.Dispatch.Worker

/-! What can be asked of a dispatcher from outside its worker. A call that has to
wait is begun once and then polled between turns of the worker. -/
namespace HostedStreams

variable {κ : Client}

namespace Dispatcher

/-- The largest capacity that a queue can be made with. -/
def maxCapacity : Nat := 2305843009213693951

/-- Starts the worker, if there is something that can run it. -/
def start (settings : Settings) (executor : Bool) : Act κ (Except DispatchError Unit) := do
  let capacity := settings.dispatch.queueCapacity.toNat
  if capacity = 0 then return .error (.invalidQueueCapacity capacity)
  if !executor then return .error .noExecutor
  if capacity > maxCapacity then
    Act.panic ("a semaphore may not have more than MAX_PERMITS permits (" ++
      toString maxCapacity ++ ")")
  modify (·.updateDispatcher fun _ =>
    { phase := .running, mailbox := { capacity }, defaults := settings.streams
      held := true, notifierHeld := true })
  return .ok ()

/-- Counts a notification that is not queued. -/
def refuse (id : StreamId) (event : Event) (reason : DispatchError) (label : String) :
    Act κ (Except DispatchError Unit) := do
  modify fun w =>
    (w.record (.refused id event reason)).updateMetrics (Metrics.countRejected label)
  return .error reason

/-- Queues a notification if there is room. Every notification is either refused,
and counted so, or dispatched or dropped later. -/
def notify (id : StreamId) (event : Event) : Act κ (Except DispatchError Unit) := do
  let d := (← get).dispatcher
  if d.stopped then
    refuse id event .stopped "stopped"
  else
    match d.mailbox.trySend (.notify id event) with
    | (.accepted, mailbox) =>
      modify fun w =>
        (w.record (.accepted id event)).updateDispatcher fun d =>
          { d with mailbox, metrics := d.metrics.raiseDepth }
      return .ok ()
    | (.full, _) => refuse id event (.queueFull id d.mailbox.capacity) "queue_full"
    | (.closed, _) => refuse id event .stopped "stopped"

/-- Makes a stream that the worker serves and starts its transfer. A stream whose
transfer cannot be started is forgotten. -/
def createStream (env : Surroundings κ) (config : StreamConfig) :
    Act κ (Except StreamError StreamRef) := do
  if (← get).dispatcher.stopped then
    return .error (.factory DispatchError.stopped.message)
  let id ← drawId
  let r ← makeStream id config .worker
  Registry.enroll id r
  match ← tryCatch (r.start env) fun h => do r.release env; throw h with
  | .ok () => return .ok r
  | .error e =>
    Registry.forget env id
    r.release env
    return .error e

/-- Makes a stream with the configured defaults. -/
def openUrl (env : Surroundings κ) (url : String) : Act κ (Except StreamError StreamRef) := do
  createStream env ((← get).dispatcher.defaults.config url)

def drawTicket : Act κ Ticket :=
  modifyGet fun w =>
    (⟨w.dispatcher.nextTicket⟩,
      w.updateDispatcher fun d => { d with nextTicket := d.nextTicket + 1 })

/-- Sends a command, or lets it wait for room. -/
def send (ticket : Ticket) (command : Command κ.Job) : Act κ Mailbox.Sent :=
  modifyGet fun w =>
    let (sent, mailbox) := w.dispatcher.mailbox.send ticket command
    (sent, w.updateDispatcher fun d => { d with mailbox })

/-- What has become of a command that was sent. -/
def poll (ticket : Ticket) : Act κ Mailbox.Sent :=
  modifyGet fun w =>
    let (sent, mailbox) := w.dispatcher.mailbox.poll ticket
    (sent, w.updateDispatcher fun d => { d with mailbox })

/-- Hands a job in. -/
def beginInvoke (job : κ.Job) : Act κ (Except DispatchError Ticket) := do
  if (← get).dispatcher.stopped then return .error .stopped
  let ticket ← drawTicket
  match ← send ticket (.invoke ticket job) with
  | .closed => return .error .stopped
  | _ => return .ok ticket

/-- What a job answered, once that is settled. -/
def pollInvoke (ticket : Ticket) : Act κ (Option (Except DispatchError κ.Value)) := do
  match ← poll ticket with
  | .closed => return some (.error .stopped)
  | .full => return none
  | .accepted =>
    let d := (← get).dispatcher
    match d.replies.find? (·.1 == ticket) with
    | none => return none
    | some (_, .answered v) => return some (.ok v)
    | some (_, .lost) =>
      return some (.error (if d.stopped then .stopped else .jobPanicked))

/-- Tells the worker to end. Only the first call does so and has to wait. -/
def beginShutdown : Act κ (Option Ticket) := do
  if (← get).dispatcher.stopped then return none
  modify (·.updateDispatcher fun d => { d with stopped := true })
  let ticket ← drawTicket
  let _ ← send ticket .shutdown
  return some ticket

/-- How the worker ended, once it has. -/
def pollShutdown (ticket : Ticket) : Act κ (Option (Except DispatchError Unit)) := do
  match ← poll ticket with
  | .full => return none
  | _ =>
    match (← get).dispatcher.phase with
    | .running | .finishing => return none
    | .cancelled => return some (.error (.worker true))
    | _ => return some (.ok ())

/-- Lets the worker have turns until a call is settled, at most as many as the bound
says. -/
def await {α : Type} (env : Surroundings κ) (call : Act κ (Option α)) : Nat → Act κ α
  | 0 => throw .exhausted
  | n + 1 => do
    match ← call with
    | some a => return a
    | none =>
      Worker.turn env
      await env call n

/-- Runs a job on the worker and waits for its answer. -/
def invoke (env : Surroundings κ) (bound : Nat) (job : κ.Job) :
    Act κ (Except DispatchError κ.Value) := do
  match ← beginInvoke job with
  | .error e => return .error e
  | .ok ticket => await env (pollInvoke ticket) bound

/-- Ends the worker and waits until it has ended. -/
def shutdown (env : Surroundings κ) (bound : Nat) : Act κ (Except DispatchError Unit) := do
  match ← beginShutdown with
  | none => return .ok ()
  | some ticket => await env (pollShutdown ticket) bound

/-- Takes away what runs the worker. A worker that alone had the registry gives up
its streams first, while its queues still take what is sent to them, and a panic on
the way is not heard of. Then its queues are lost uncounted, and so are the answers
of queued jobs. -/
def kill (env : Surroundings κ) : Act κ Unit := do
  if (← get).dispatcher.phase = .running then
    if !(← get).dispatcher.held then
      let _ ← (Registry.abandon env).contain
    modify (·.updateDispatcher fun d =>
      let lost := d.mailbox.items.filterMap fun
        | .invoke ticket _ => some (ticket, Reply.lost)
        | _ => none
      { d with
        phase := .cancelled
        mailbox := d.mailbox.close
        teardowns := []
        replies := lost ++ d.replies })

/-- The owner gives the dispatcher up, and the notifier too if told so. The registry
lasts as long as the dispatcher or its worker. -/
def giveUp (env : Surroundings κ) (keepNotifier : Bool) : Act κ Unit := do
  modify (·.updateDispatcher fun d =>
    { d with held := false, notifierHeld := d.notifierHeld && keepNotifier })
  if !(← get).dispatcher.phase.working then Registry.abandon env

end Dispatcher
end HostedStreams
