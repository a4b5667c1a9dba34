import HostedStreams.Dispatch.Registry

/-! The worker. It takes teardowns before commands and commands in the order of
their arrival, and whatever it runs it runs in its own context. A panic of what it
runs is counted and goes no further. -/
namespace HostedStreams

variable {κ : Client}

namespace Worker

/-- Runs the action in the worker's context, which is left again however it ends. -/
def inContext {α : Type} (act : Act κ α) : Act κ α := do
  let before := (← get).dispatcher.inContext
  modify (·.updateDispatcher fun d => { d with inContext := true })
  act.after (modify (·.updateDispatcher fun d => { d with inContext := before }))

/-- Counts a panic of the action and holds it back. -/
def contained {α : Type} (act : Act κ α) : Act κ Unit := do
  match ← act.contain with
  | .ok _ => return ()
  | .error _ => modify (·.updateMetrics Metrics.countPanic)

/-- Hands one notification to its stream. It is counted by its kind, or as dropped
if there is no such stream. -/
def dispatch (env : Surroundings κ) (id : StreamId) (event : Event) : Act κ Unit := do
  modify (·.updateMetrics Metrics.lowerDepth)
  match ← Registry.find? env id with
  | none =>
    modify fun w => (w.record (.dropped id event)).updateMetrics Metrics.countDropped
  | some r =>
    r.holding env do
      modify (·.record (.dispatched id event))
      contained (r.receive env event)
      modify (·.updateMetrics (Metrics.countEvent event.kind.name))
      if ((← get).status r).state = .destroyed then
        Registry.forget env id

/-- Settles what a job answers. -/
def reply (ticket : Ticket) (r : Reply κ.Value) : Act κ Unit :=
  modify (·.updateDispatcher fun d => { d with replies := (ticket, r) :: d.replies })

/-- Runs one job. Streams that it tore down are forgotten afterwards. -/
def runJob (env : Surroundings κ) (ticket : Ticket) (job : κ.Job) : Act κ Unit := do
  modify (·.record (.jobBegan ticket))
  match ← (env.work job).contain with
  | .ok v =>
    modify (·.record (.jobEnded ticket true))
    reply ticket (.answered v)
  | .error _ =>
    modify fun w => (w.record (.jobEnded ticket false)).updateMetrics Metrics.countPanic
    reply ticket .lost
  Registry.prune env

/-- Tears a registered stream down and forgets it. -/
def tearDown (env : Surroundings κ) (id : StreamId) : Act κ Unit := do
  if let some r ← Registry.remove id then
    contained (r.destroy env)
    r.release env

/-- Gives up a command that will not be carried out. -/
def discard : Command κ.Job → Act κ Unit
  | .notify id event =>
    modify fun w =>
      (w.record (.dropped id event)).updateMetrics fun m => m.lowerDepth.countDropped
  | .invoke ticket _ => reply ticket .lost
  | .shutdown => return ()

/-- Closes a registered stream and tears it down, whether the host agrees or not. -/
def close (env : Surroundings κ) (id : StreamId) (r : StreamRef) : Act κ Unit :=
  r.holding env do
    contained (r.close env)
    tearDown env id

/-- The end of the worker: the queue is given up, and queued teardowns and all
registered streams are seen to, these in the order that the registry is assumed to have. -/
def finish (env : Surroundings κ) : Act κ Unit := do
  let left := (← get).dispatcher.mailbox.items
  modify (·.updateDispatcher fun d => { d with phase := .finishing, mailbox := d.mailbox.close })
  left.forM discard
  inContext do
    let teardowns := (← get).dispatcher.teardowns
    modify (·.updateDispatcher fun d => { d with teardowns := [] })
    teardowns.forM (tearDown env)
    (← get).dispatcher.registry.forM fun (id, r) => close env id r
  modify (·.updateDispatcher fun d => { d with phase := .finished })
  if !(← get).dispatcher.held then
    Registry.abandon env

def carryOut (env : Surroundings κ) : Command κ.Job → Act κ Unit
  | .notify id event => inContext (dispatch env id event)
  | .invoke ticket job => inContext (runJob env ticket job)
  | .shutdown => finish env

/-- One step of the worker: a teardown if there is one, or else the oldest command.
It ends when it is told to, or when nobody can send anything any more. Tells whether
there was something to do. -/
def step (env : Surroundings κ) : Act κ Bool := do
  let d := (← get).dispatcher
  if d.phase ≠ .running then return false
  match d.teardowns with
  | id :: rest =>
    modify (·.updateDispatcher fun d => { d with teardowns := rest })
    inContext (tearDown env id)
    return true
  | [] =>
    match d.mailbox.receive with
    | some (command, mailbox) =>
      modify (·.updateDispatcher fun d => { d with mailbox })
      carryOut env command
      return true
    | none =>
      if d.held || d.notifierHeld then return false
      finish env
      return true

/-- How many steps the worker makes before it lets others go on. -/
def turnLength : Nat := 128

/-- So many steps, or fewer if there is nothing left to do. -/
def steps (env : Surroundings κ) : Nat → Act κ Unit
  | 0 => return ()
  | n + 1 => do
    if ← step env then steps env n

def turn (env : Surroundings κ) : Act κ Unit :=
  steps env turnLength

/-- Steps until there is nothing left to do, at most as many as the bound says. -/
def settle (env : Surroundings κ) : Nat → Act κ Unit
  | 0 => throw .exhausted
  | n + 1 => do
    if ← step env then settle env n

end Worker
end HostedStreams
