import HostedStreams.Fixture
import HostedStreams.Scenario.Scene
import HostedStreams.Stream.Description

/-! How a step is taken. Arguments are looked at before the things they are used on
are looked up, and a sink is looked up before the stream or source. -/
namespace HostedStreams.Scenario

/-- An action that can fail and say why. -/
abbrev Deed := ExceptT Failure (Act player)

namespace Deed

variable {α : Type}

/-- An action that cannot fail. -/
def act (a : Act player α) : Deed α :=
  ExceptT.lift a

def misuse (m : Misuse) : Deed α :=
  throw (.misuse m)

def scene : Deed Scene :=
  return (← getThe (System player)).client

def update (f : Scene → Scene) : Deed Unit :=
  modifyThe (System player) (·.updateClient f)

def dispatcher : Deed (Dispatcher player) :=
  return (← getThe (System player)).dispatcher

def required (m : Misuse) : Option α → Deed α
  | some a => pure a
  | none => misuse m

def keptSink (name : String) : Deed SinkRef := do
  required .noSink ((← scene).kept.lookup name)

def keptStream (name : String) : Deed StreamRef := do
  required .noStream ((← scene).streams.lookup name)

def keptHub (name : String) : Deed HubRef := do
  required .noHub ((← scene).hubs.lookup name)

/-- The identifier that a name stands for. A name that nothing has is taken by an
identifier of its own, which no stream will have. -/
def identify (name : String) : Deed StreamId := do
  match (← scene).idOf? name with
  | some id => return id
  | none =>
    let id ← act drawId
    update (·.bind name id)
    return id

/-- A name for a stream that is to be made. -/
def freshName (name : String) : Deed Unit := do
  if (← scene).isTaken name then misuse .nameTaken

/-- Makes an answer of what an operation returned. -/
def answering {ε : Type} (fault : ε → Failure) (answer : α → Answer)
    (act : Act player (Except ε α)) : Deed Answer := do
  match ← act with
  | .ok a => return answer a
  | .error e => throw (fault e)

end Deed

open Scenario.Deed

def operate (env : Surroundings player) (name : String) (r : StreamRef) :
    StreamStep → Deed Answer
  | .start => answering .stream (fun _ => .done) (r.start env)
  | .attach sink => do return .truth (← act (r.attach (← keptSink sink)))
  | .detach sink => do return .truth (← act (r.detach (← keptSink sink)))
  | .event event => do return .truth (← act (r.receive env event))
  | .readRange start stop => answering .stream .request (r.readRange env start stop)
  | .readRanges ranges => answering .stream .request (r.readRanges env ranges)
  | .write data => answering .stream .count (r.write env data)
  | .close => answering .stream (fun _ => .done) (r.close env)
  | .destroy => do
    act (r.destroy env)
    return .done
  | .properties => do return .properties name ((← getThe (System player)).stream r)
  | .describe => do
    return .text (← required .randomId (r.description? (← getThe (System player))))

/-- Uses a stream that is kept. The call holds it as long as it runs. -/
def onStream (env : Surroundings player) (name : String) (op : StreamStep) : Deed Answer := do
  match op with
  | .attach sink | .detach sink => let _ ← keptSink sink
  | .describe => if !(← scene).isShown name then misuse .randomId
  | _ => pure ()
  let r ← keptStream name
  ExceptT.mk (r.holding env (operate env name r op).run)

/-- The sink of a step on a source on its own. -/
def hubSink (name : String) : Deed SinkRef := do
  let ref ← keptSink name
  match ((← scene).sink? ref).map Sink.kind with
  | some SinkKind.recording => misuse .recordingOnHub
  | _ => return ref

def onHub (env : Surroundings player) (name : String) : HubStep → Deed Answer
  | .attach sink => do
    let sink ← hubSink sink
    return .truth (← act ((Origin.hub (← keptHub name)).attach sink))
  | .detach sink => do
    let sink ← hubSink sink
    return .truth (← act ((Origin.hub (← keptHub name)).detach sink))
  | .isAttached sink => do
    let sink ← hubSink sink
    return .truth (← act ((Origin.hub (← keptHub name)).isAttached sink))
  | .clear => do
    act ((Origin.hub (← keptHub name)).clear)
    return .done
  | .size => do
    let n ← act ((Origin.hub (← keptHub name)).size)
    return .size n (n == 0)
  | .fire event => do
    return .truth (← act (fire env (.hub (← keptHub name)) event))

/-- Makes a request of the recording host itself. -/
def askRecording {α : Type} (ask : RecordingHost → Except HostError α × RecordingHost) :
    Act player (Except HostError α) :=
  modifyGet fun w =>
    let (answer, host) := ask w.client.host
    (answer, w.updateClient fun s => { s with host })

def onHost : HostStep → Deed Answer
  | .setFault call fault => tell (·.setFault call fault)
  | .recover call => tell (·.recover call)
  | .forget stream => do tell (·.forget (← identify stream))
  | .setWriteCap cap => tell (·.setWriteCap cap)
  | .recall => return .calls (← scene).host
  | .ask stream call => do
    let id ← identify stream
    match call with
    | .start config => answering .host (fun _ => .done) (askRecording (·.start id config))
    | .requestRanges request ranges =>
      answering .host (fun _ => .done) (askRecording (·.requestRanges id request ranges))
    | .write data => answering .host .count (askRecording (·.write id data))
    | .cancel => answering .host (fun _ => .done) (askRecording (·.cancel id))
where
  tell (f : RecordingHost → RecordingHost) : Deed Answer := do
    update fun s => { s with host := f s.host }
    return .done

/-- Does something that makes a stream of the given name, which it gets when its
transfer is started. The stream is kept if it can be used. -/
def named (name : String) (fault : StreamError → Failure)
    (make : Act player (Except StreamError StreamRef)) : Deed Answer := do
  update fun s => { s with expected := some name }
  let made ← act make
  update fun s => { s with expected := none }
  match made with
  | .ok r =>
    update (·.keepStream name r)
    return .done
  | .error e => throw (fault e)

def running : Deed Unit := do
  if !(← dispatcher).held then misuse .noDispatcher

def notifying : Deed Unit := do
  if !(← dispatcher).notifierHeld then misuse .noNotifier

def onDispatcher (env : Surroundings player) : DispatcherStep → Deed Answer
  | .createStream name config => do
    running
    freshName name
    named name .stream (Dispatcher.createStream env config)
  | .openUrl name url => do
    running
    freshName name
    named name .stream (Dispatcher.openUrl env url)
  | .notify name event => do
    notifying
    let id ← identify name
    answering .dispatch (fun _ => .done) (Dispatcher.notify id event)
  | .info => do
    running
    let counts ← EventKind.all.mapM fun kind =>
      modifyGetThe (System player) fun w =>
        let (n, metrics) := w.dispatcher.metrics.readEvents kind.name
        (n, w.updateMetrics fun _ => metrics)
    let d ← dispatcher
    return .info d.registry.length d.stopped counts
  | .render => do
    if !(← scene).started then misuse .noMetrics
    return .texts (← dispatcher).metrics.lines

/-- Tears down every stream that was queued in the scripted context and that the
scene still has a handle of. -/
def runTeardowns (env : Surroundings player) : Deed Answer := do
  let ids := (← scene).scheduled
  update fun s => { s with scheduled := [] }
  for id in ids do
    if let some r := (← scene).streamOf? id then
      act (r.holding env (r.destroy env))
  let s ← scene
  return .texts (ids.filterMap s.nameOf?)

/-- Has the worker do what there is to do, if something runs it. -/
def settle (env : Surroundings player) (bound : Nat) : Deed Unit := do
  act (Worker.settle env bound)

/-- The calls that end with the worker killed while they wait. -/
def invokeLost (env : Surroundings player) (steps : List Step) (shutdown : Bool) :
    Deed Answer := do
  running
  match ← act (Dispatcher.beginInvoke steps) with
  | .error _ => misuse .finishedEarly
  | .ok job =>
    if let some _ ← act (Dispatcher.pollInvoke job) then misuse .finishedEarly
    let ending ← if shutdown then act Dispatcher.beginShutdown else pure none
    if let some ending := ending then
      if let some _ ← act (Dispatcher.pollShutdown ending) then
        misuse .finishedEarly
    update fun s => { s with executor := false }
    act (Dispatcher.kill env)
    let invoked ← act (Dispatcher.pollInvoke job)
    let ended ← match ending with
      | some ending => act (Dispatcher.pollShutdown ending)
      | none => pure none
    return .lost
      (match invoked with
        | some (.ok answers) => .several answers
        | some (.error e) => .failed (.dispatch e)
        | none => .failed .exhausted)
      (ended.map fun
        | .ok () => .done
        | .error e => .failed (.dispatch e))

/-- Takes a step that the script itself may take. -/
def performOutermost (env : Surroundings player) (bound : Nat) : Step → Deed Answer
  | .start settings executor => do
    if (← scene).started then misuse .alreadyStarted
    match ← act (Dispatcher.start settings executor) with
    | .ok () =>
      update fun s => { s with started := true, executor := true }
      return .done
    | .error e => throw (.dispatch e)
  | .notifyBlocking name events => do
    notifying
    let id ← identify name
    let answers ← events.mapM fun event => do
      settle env bound
      let answer ← act (Dispatcher.notify id event)
      settle env bound
      match answer with
      | .ok () => return Answer.done
      | .error e => return .failed (.dispatch e)
    return .several answers
  | .drain => do
    settle env bound
    return .done
  | .invoke steps => do
    running
    let answer ← act (Dispatcher.invoke env bound steps)
    settle env bound
    match answer with
    | .ok answers => return .several answers
    | .error e => throw (.dispatch e)
  | .shutdown => do
    running
    let answer ← act (Dispatcher.shutdown env bound)
    settle env bound
    match answer with
    | .ok () => return .done
    | .error e => throw (.dispatch e)
  | .kill => do
    let had := (← scene).executor
    update fun s => { s with executor := false }
    if had then act (Dispatcher.kill env)
    return .truth had
  | .invokeLost steps shutdown => invokeLost env steps shutdown
  | .dropDispatcher keepNotifier => do
    let had := (← dispatcher).held
    act (Dispatcher.giveUp env keepNotifier)
    return .truth had
  | _ => misuse .unknownStep

/-- Takes a step that rules and jobs may take too. -/
def performAnywhere (env : Surroundings player) : Step → Deed Answer
  | .malformed _ (.panic payload) => throwThe Halt (.panic payload)
  | .malformed _ failure => throw failure
  | .makeSink name kind handled rules => do
    if ((← scene).kept.lookup name).isSome then misuse .nameTaken
    let ref ← act makeSink
    update fun s =>
      { s with
        kept := s.kept ++ [(name, ref)]
        sinks := s.sinks ++ [{ name, kind, handled, rules }] }
    return .truth true
  | .dropSink name => do
    match (← scene).kept.lookup name with
    | none => return .truth false
    | some ref =>
      update fun s => { s with kept := s.kept.filter (·.1 != name) }
      act (abandonSink ref)
      return .truth true
  | .recorded name reset => do
    let ref ← keptSink name
    let received := (((← scene).sink? ref).map (·.received)).getD []
    if reset then update (·.updateSink ref fun k => { k with received := [] })
    return .received received
  | .makeHub name => do
    if ((← scene).hubs.lookup name).isSome then misuse .nameTaken
    let ref ← act makeHub
    update fun s => { s with hubs := s.hubs ++ [(name, ref)] }
    return .truth true
  | .onHub name op => onHub env name op
  | .makeStream name config uuid bound => do
    freshName name
    update fun s => { s with made := s.made + 1 }
    let id := StreamId.chosen (uuid.getD (Uuid.ofNat (← scene).made))
    let r ← act (makeStream id config (if bound then .client else .free))
    update fun s => (s.bind name id).keepStream name r
    return .truth true
  | .makeFixture name url => do
    freshName name
    let config := match url with
      | some url => { url }
      | none => Fixture.config
    let _ ← named name (fun e => .fixture config.url e.innermost) (Fixture.openStream env config)
    return .truth true
  | .onStream name op => onStream env name op
  | .dropStream name => do
    match (← scene).streams.lookup name with
    | none => return .truth false
    | some r =>
      update fun s => { s with streams := s.streams.filter (·.1 != name) }
      act (r.release env)
      return .truth true
  | .panic payload => throwThe Halt (.panic payload)
  | .onHost op => onHost op
  | .context current refuse => do
    update fun s =>
      { s with current := current.getD s.current, refuse := refuse.getD s.refuse }
    return .done
  | .runTeardowns => runTeardowns env
  | .onDispatcher op => onDispatcher env op
  | _ => misuse .insideHandler

def answerOf (deed : Deed Answer) : Act player Answer := do
  match ← deed.run with
  | .ok a => return a
  | .error failure => return .failed failure

/-- Takes a step of a rule or a job. -/
def performInside (env : Surroundings player) (s : Step) : Act player Answer :=
  answerOf (if s.isOutermost then misuse .insideHandler else performAnywhere env s)

/-- Takes a step of the script. -/
def perform (env : Surroundings player) (bound : Nat) : Step → Act player Answer
  | .malformed _ failure => return .failed failure
  | s => answerOf (if s.isOutermost then performOutermost env bound s else performAnywhere env s)

end HostedStreams.Scenario
