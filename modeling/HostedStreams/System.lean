import HostedStreams.Dispatch.Error
import HostedStreams.Dispatch.Mailbox
import HostedStreams.Host
import HostedStreams.Metrics
import HostedStreams.Settings
import HostedStreams.Source
import HostedStreams.Stream.Status

/-! The state that streams, sources, sinks and the dispatcher share, and actions on
it. Whoever uses the library is a client: it owns the sinks, serves as the host
and hands in jobs, and all three may call back into the library at any depth. The
library only knows what kinds of data the client keeps. -/
namespace HostedStreams

/-- The kinds of data that a client brings along. -/
structure Client where
  /-- What the client remembers. -/
  State : Type
  /-- What the client writes into the journal. -/
  Note : Type
  /-- What the client asks the dispatcher to run. -/
  Job : Type
  /-- What a job answers. -/
  Value : Type

structure StreamRef where
  number : Nat
  deriving DecidableEq

structure HubRef where
  number : Nat
  deriving DecidableEq

/-- What fires events: a stream, or a source on its own. -/
inductive Origin where
  | stream (ref : StreamRef)
  | hub (ref : HubRef)
  deriving DecidableEq

/-- How an origin stands when it fires: a stream by its state, a source on its own
by the number of its sinks. -/
inductive Standing where
  | state (state : StreamState)
  | size (size : Nat)
  deriving DecidableEq

/-- The serialized context that delivers a stream's events, if there is one. -/
inductive Binding where
  | free
  /-- A context of the client's. -/
  | client
  /-- The dispatcher's worker. -/
  | worker
  deriving DecidableEq

structure Stream where
  id : StreamId
  config : StreamConfig
  binding : Binding
  status : Status
  source : Source := .empty
  /-- How many handles keep the stream. Once there is none, it is torn down. -/
  handles : Nat := 1

/-- A stream that was never made has no handles and is torn down. -/
def Stream.absent : Stream :=
  { id := .drawn 0, config := { url := "" }, binding := .free,
    status := { state := .destroyed, seekable := false }, handles := 0 }

/-- A sink is there as long as its owner keeps it or an event is being handed to it. -/
structure SinkLife where
  owned : Bool := true
  busy : Nat := 0

/-- What happened, in the order in which it began. -/
inductive Entry (Note : Type) where
  /-- The origin starts to hand the event to its sinks. -/
  | pass (origin : Origin) (event : Event) (standing : Standing)
  /-- The sink starts to take the event, in the worker's context or outside it. -/
  | delivery (sink : SinkRef) (origin : Origin) (event : Event) (standing : Standing)
      (inContext : Bool)
  /-- The stream asks the host, which knows it by the identifier alone. -/
  | hostCall (id : StreamId) (call : HostCall) {ref : StreamRef}
  /-- The host has answered, and whether it served the request. -/
  | hostAnswer (id : StreamId) (call : HostCall) (served : Bool) {ref : StreamRef}
  /-- A notification was queued. -/
  | accepted (id : StreamId) (event : Event)
  | refused (id : StreamId) (event : Event) (reason : DispatchError)
  /-- The worker starts to hand a notification to its stream. -/
  | dispatched (id : StreamId) (event : Event)
  /-- The worker gives a notification up. -/
  | dropped (id : StreamId) (event : Event)
  | jobBegan (ticket : Ticket)
  /-- A job has ended, by itself or by a panic. -/
  | jobEnded (ticket : Ticket) (completed : Bool)
  | note (note : Note)

/-- What the dispatcher's queue holds. -/
inductive Command (Job : Type) where
  | notify (id : StreamId) (event : Event)
  | invoke (ticket : Ticket) (job : Job)
  | shutdown

/-- What has become of a job that was accepted. -/
inductive Reply (Value : Type) where
  | answered (value : Value)
  /-- No answer will come: the job panicked, or it was given up unrun. -/
  | lost

inductive Phase where
  | unstarted
  | running
  /-- The worker takes nothing any more and sees to the streams that are left. -/
  | finishing
  /-- The worker has ended of its own accord. -/
  | finished
  /-- The worker was cancelled. -/
  | cancelled
  deriving DecidableEq

/-- Whether the worker is there and still does something. -/
def Phase.working : Phase → Bool
  | .running | .finishing => true
  | .unstarted | .finished | .cancelled => false

/-- The dispatcher: one bounded queue, one worker, and the streams it serves. -/
structure Dispatcher (κ : Client) where
  phase : Phase := .unstarted
  mailbox : Mailbox (Command κ.Job) := { capacity := 0, isOpen := false }
  /-- Streams to be torn down, before any command is handled. -/
  teardowns : List StreamId := []
  /-- The streams that notifications reach, each with a handle. -/
  registry : List (StreamId × StreamRef) := []
  /-- Whether what runs now runs in the worker's context. -/
  inContext : Bool := false
  stopped : Bool := false
  metrics : Metrics := {}
  defaults : StreamDefaults := {}
  /-- Whether somebody keeps the dispatcher itself. -/
  held : Bool := false
  /-- Whether somebody keeps a notifier of it. -/
  notifierHeld : Bool := false
  replies : List (Ticket × Reply κ.Value) := []
  nextTicket : Nat := 0

structure System (κ : Client) where
  streams : List Stream := []
  hubs : List Source := []
  sinks : List SinkLife := []
  dispatcher : Dispatcher κ := {}
  /-- How many identifiers were drawn. -/
  drawn : Nat := 0
  /-- What happened, latest first. -/
  past : List (Entry κ.Note) := []
  client : κ.State

/-- What a panic carries. Only text can be told to others. -/
inductive Payload where
  | text (message : String)
  | value
  deriving DecidableEq

namespace Payload

def message : Payload → String
  | .text s => s
  | .value => ""

end Payload

/-- How an action can end early. -/
inductive Halt where
  | panic (payload : Payload)
  /-- The bound on nested calls was reached. -/
  | exhausted
  deriving DecidableEq

/-- What is done to a system. A panic keeps what was done before it. -/
abbrev Act (κ : Client) := ExceptT Halt (StateM (System κ))

namespace System

variable {κ : Client}

/-- What happened, in order. -/
def journal (w : System κ) : List (Entry κ.Note) :=
  w.past.reverse

def stream (w : System κ) (r : StreamRef) : Stream :=
  w.streams[r.number]?.getD .absent

def status (w : System κ) (r : StreamRef) : Status :=
  (w.stream r).status

def source (w : System κ) : Origin → Source
  | .stream r => (w.stream r).source
  | .hub r => w.hubs[r.number]?.getD .empty

/-- Whether the sink is still there. -/
def alive (w : System κ) (sink : SinkRef) : Bool :=
  match w.sinks[sink.number]? with
  | some life => life.owned || life.busy != 0
  | none => false

def standing (w : System κ) : Origin → Standing
  | .stream r => .state (w.status r).state
  | .hub r => .size ((w.source (.hub r)).size w.alive)

def updateStream (r : StreamRef) (f : Stream → Stream) (w : System κ) : System κ :=
  { w with streams := w.streams.modify r.number f }

def updateStatus (r : StreamRef) (f : Status → Status) (w : System κ) : System κ :=
  w.updateStream r fun s => { s with status := f s.status }

def updateSource (o : Origin) (f : Source → Source) (w : System κ) : System κ :=
  match o with
  | .stream r => w.updateStream r fun s => { s with source := f s.source }
  | .hub r => { w with hubs := w.hubs.modify r.number f }

def updateSink (sink : SinkRef) (f : SinkLife → SinkLife) (w : System κ) : System κ :=
  { w with sinks := w.sinks.modify sink.number f }

def updateDispatcher (f : Dispatcher κ → Dispatcher κ) (w : System κ) : System κ :=
  { w with dispatcher := f w.dispatcher }

def updateMetrics (f : Metrics → Metrics) (w : System κ) : System κ :=
  w.updateDispatcher fun d => { d with metrics := f d.metrics }

def updateClient (f : κ.State → κ.State) (w : System κ) : System κ :=
  { w with client := f w.client }

def record (e : Entry κ.Note) (w : System κ) : System κ :=
  { w with past := e :: w.past }

end System

namespace Act

variable {κ : Client} {α : Type}

def panic (message : String) : Act κ α :=
  throw (.panic (.text message))

/-- Runs the second action after the first one, however that ended. A panic of the
first one goes on afterwards. -/
def after (act : Act κ α) (last : Act κ Unit) : Act κ α :=
  ExceptT.mk do
    match ← act.run with
    | .ok a => return (← last.run).map fun _ => a
    | .error h =>
      let _ ← last.run
      return .error h

/-- Holds a panic of the action back. -/
def contain (act : Act κ α) : Act κ (Except Payload α) :=
  ExceptT.mk do
    match ← act.run with
    | .ok a => return .ok (.ok a)
    | .error (.panic p) => return .ok (.error p)
    | .error .exhausted => return .error .exhausted

end Act

/-- What the client does when it is called: it takes deliveries, serves as the
host, answers for a context of its own and runs its jobs. -/
structure Surroundings (κ : Client) where
  deliver : SinkRef → Origin → Event → Act κ Bool
  host : Host (Act κ)
  /-- Whether what runs now runs in the client's context. -/
  isCurrent : Act κ Bool
  /-- Queues a teardown in the client's context, if that takes any. -/
  scheduleTeardown : StreamId → Act κ Bool
  work : κ.Job → Act κ κ.Value

end HostedStreams
