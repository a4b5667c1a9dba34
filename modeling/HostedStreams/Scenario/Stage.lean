import HostedStreams.HandlerTable
import HostedStreams.Scenario.Perform

/-! The sinks, the host and the jobs of a scenario. A step that is taken while they
are being called may call them again, so they come in levels: what is called at one
level takes its steps at the level below. -/
namespace HostedStreams.Scenario

/-- Takes the steps one after the other and writes their answers down. -/
def takeSteps (below : Surroundings player) (place : Place) : List Step → Act player Unit
  | [] => pure ()
  | s :: rest => do
    let answer ← performInside below s
    modify (·.record (.note { place, word := s.word, answer }))
    takeSteps below place rest

/-- A sink's own part in a delivery: its rules, and what it reports. -/
def hear (below : Surroundings player) (ref : SinkRef) (kind : EventKind) (o : Origin) :
    Act player Bool := do
  match (← get).client.sink? ref with
  | none => return false
  | some sink =>
    let (steps, rules) := Rule.trigger kind.name sink.rules
    modify (·.updateClient (·.updateSink ref fun k => { k with rules }))
    takeSteps below (.origin o) steps
    return sink.handled.covers kind

/-- The hooks of a sink that has all of them. -/
def fullHandler (below : Surroundings player) (ref : SinkRef) :
    HookSink (Act player) Origin where
  onCreated := hear below ref .created
  onDestroyed := hear below ref .destroyed
  onFailedOpen _ := hear below ref .failedOpen
  onOpened _ := hear below ref .opened
  onDataArrived _ := hear below ref .dataArrived
  onCompleted _ := hear below ref .completed

def deliver (below : Surroundings player) (ref : SinkRef) (o : Origin) (event : Event) :
    Act player Bool := do
  let w ← get
  match w.client.sink? ref with
  | none => return false
  | some sink =>
    match sink.kind with
    | .plain => hear below ref event.kind o
    | .full => (fullHandler below ref).dispatch event o
    | .dataOnly =>
      HookSink.dispatch { onDataArrived := fun _ => hear below ref .dataArrived } event o
    | .silent => HookSink.dispatch {} event o
    | .recording =>
      if let .state state := w.standing o then
        modify (·.updateClient (·.updateSink ref fun k =>
          { k with received := k.received ++ [{ state, event }] }))
      return sink.handled.covers event.kind

/-- The rules that a call of the host sets off. -/
def hook (below : Surroundings player) (call : String) (id : StreamId) : Act player Unit := do
  let (steps, hooks) := Rule.trigger call (← get).client.hooks
  modify (·.updateClient fun s => { s with hooks })
  takeSteps below (.host id) steps

/-- The scenario's host. What it answers is made up after the rules have run. -/
def hostAt (below : Surroundings player) : Host (Act player) where
  start id config := do
    modify (·.updateClient (·.meet id))
    hook below "open" id
    match (← get).client.hostKind with
    | .basic => return .ok ()
    | _ => askRecording (·.start id config)
  requestRanges id request ranges := do
    hook below "request_ranges" id
    match (← get).client.hostKind with
    | .basic => return .error (.unsupported "request_ranges")
    | _ => askRecording (·.requestRanges id request ranges)
  write id data := do
    hook below "write" id
    match (← get).client.hostKind with
    | .recording => askRecording (·.write id data)
    | .basic => return .error (.unsupported "write")
    | .greedy taken => return .ok taken
  cancel id := do
    hook below "close" id
    match (← get).client.hostKind with
    | .basic => return .ok ()
    | _ => askRecording (·.cancel id)

/-- What is called at a level. At level 0 nothing can be called any more. -/
def stage : Nat → Surroundings player
  | 0 =>
    { deliver := fun _ _ _ => throw .exhausted
      host :=
        { start := fun _ _ => throw .exhausted
          cancel := fun _ => throw .exhausted }
      isCurrent := throw .exhausted
      scheduleTeardown := fun _ => throw .exhausted
      work := fun _ => throw .exhausted }
  | level + 1 =>
    { deliver := fun ref o event => deliver (stage level) ref o event
      host :=
        { start := fun id config => (hostAt (stage level)).start id config
          requestRanges := fun id request ranges =>
            (hostAt (stage level)).requestRanges id request ranges
          write := fun id data => (hostAt (stage level)).write id data
          cancel := fun id => (hostAt (stage level)).cancel id }
      isCurrent := return (← get).client.current
      scheduleTeardown := fun id =>
        modifyGet fun w =>
          if w.client.refuse then (false, w)
          else (true, w.updateClient fun s => { s with scheduled := s.scheduled ++ [id] })
      work := fun steps => steps.mapM (performInside (stage level)) }

/-- What a step of the script answered, the system after it, and what happened. -/
structure Report where
  answer : Answer
  log : List (Entry Did)
  after : System player

/-- Takes one step of the script. A panic that nothing holds back is its answer. -/
def report (env : Surroundings player) (bound : Nat) (s : Step) (w : System player) : Report :=
  let (result, after) := ((perform env bound s).run.run w : Except Halt Answer × System player)
  { answer :=
      match result with
      | .ok answer => answer
      | .error (.panic payload) => .failed (.panic payload)
      | .error .exhausted => .failed .exhausted
    log := (after.past.take (after.past.length - w.past.length)).reverse
    after }

def reports (env : Surroundings player) (bound : Nat) :
    List Step → System player → List Report
  | [], _ => []
  | s :: rest, w =>
    let r := report env bound s w
    r :: reports env bound rest r.after

/-- Plays a script. As many steps are taken as the script and the host's rules allow
at most, and each of them can be the cause of one more level and of one more step of
the worker. -/
def play (hostKind : HostKind) (writeCap : Option Nat) (hooks : List (Rule Step))
    (script : List Step) : List Report :=
  let bound := Step.stepsWeight script + Step.rulesWeight hooks + 2
  reports (stage bound) bound script
    { client := { hostKind, hooks, host := { writeCap } } }

end HostedStreams.Scenario
