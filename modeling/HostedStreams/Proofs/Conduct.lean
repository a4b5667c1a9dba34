import HostedStreams.Dispatch.Calls
import HostedStreams.Proofs.Execution
import HostedStreams.Stream.Transfer

/-! What clients do. A client has its own memory, sees everything, and acts on the
library by calls. Whatever it does when it is called is of the same kind, at any
depth of calls inside calls. A run is what a client does from outside and the worker
does between. -/
namespace HostedStreams

variable {κ : Client} {α β : Type}

/-- A call into the library, with the type of its answer. A notification that waits for room is
none of them, because it blocks whoever makes it. Outside every context such a call is accepted, or
refused because the dispatcher has stopped, as a notification is that finds room. Inside one it is a
misuse: it raises the gauge of the queue and panics, and the gauge stays raised. -/
inductive Call (κ : Client) : Type → Type
  | makeSink : Call κ SinkRef
  | abandonSink (sink : SinkRef) : Call κ Unit
  | makeHub : Call κ HubRef
  | attachHub (hub : HubRef) (sink : SinkRef) : Call κ Bool
  | detachHub (hub : HubRef) (sink : SinkRef) : Call κ Bool
  | clearHub (hub : HubRef) : Call κ Unit
  | fireHub (hub : HubRef) (event : Event) : Call κ Bool
  | drawId : Call κ StreamId
  /-- Makes a stream, bound to the client's own context or to none. -/
  | makeStream (id : StreamId) (config : StreamConfig) (bound : Bool) : Call κ StreamRef
  | acquire (r : StreamRef) : Call κ Unit
  | release (r : StreamRef) : Call κ Unit
  | start (r : StreamRef) : Call κ (Except StreamError Unit)
  | attach (r : StreamRef) (sink : SinkRef) : Call κ Bool
  | detach (r : StreamRef) (sink : SinkRef) : Call κ Bool
  | receive (r : StreamRef) (event : Event) : Call κ Bool
  | readRange (r : StreamRef) (first stop : UInt64) : Call κ (Except StreamError RequestId)
  | readRanges (r : StreamRef) (ranges : List Range) : Call κ (Except StreamError RequestId)
  | write (r : StreamRef) (data : List UInt8) : Call κ (Except StreamError Nat)
  | close (r : StreamRef) : Call κ (Except StreamError Unit)
  | destroy (r : StreamRef) : Call κ Unit
  | createStream (config : StreamConfig) : Call κ (Option (Except StreamError StreamRef))
  | openUrl (url : String) : Call κ (Option (Except StreamError StreamRef))
  | notify (id : StreamId) (event : Event) : Call κ (Option (Except DispatchError Unit))
  | beginInvoke (job : κ.Job) : Call κ (Option (Except DispatchError Ticket))
  | pollInvoke (ticket : Ticket) : Call κ (Option (Except DispatchError κ.Value))
  | beginShutdown : Call κ (Option (Option Ticket))
  | pollShutdown (ticket : Ticket) : Call κ (Option (Except DispatchError Unit))
  | giveUp (keepNotifier : Bool) : Call κ Unit
  | readEvents (label : String) : Call κ Nat

/-- An action on the dispatcher, which only somebody who keeps what it goes through can take. -/
def Act.given (kept : Dispatcher κ → Bool) (act : Act κ α) : Act κ (Option α) := do
  if kept (← get).dispatcher then return some (← act) else return none

/-- What the call does where the client is as `env` says. -/
def Call.run (env : Surroundings κ) : Call κ α → Act κ α
  | .makeSink => HostedStreams.makeSink
  | .abandonSink sink => HostedStreams.abandonSink sink
  | .makeHub => HostedStreams.makeHub
  | .attachHub hub sink => (Origin.hub hub).attach sink
  | .detachHub hub sink => (Origin.hub hub).detach sink
  | .clearHub hub => (Origin.hub hub).clear
  | .fireHub hub event => fire env (.hub hub) event
  | .drawId => HostedStreams.drawId
  | .makeStream id config bound =>
    HostedStreams.makeStream id config (if bound then .client else .free)
  | .acquire r => r.acquire
  | .release r => r.release env
  | .start r => r.start env
  | .attach r sink => r.attach sink
  | .detach r sink => r.detach sink
  | .receive r event => r.receive env event
  | .readRange r first stop => r.readRange env first stop
  | .readRanges r ranges => r.readRanges env ranges
  | .write r data => r.write env data
  | .close r => r.close env
  | .destroy r => r.destroy env
  | .createStream config => Act.given (·.held) (Dispatcher.createStream env config)
  | .openUrl url => Act.given (·.held) (Dispatcher.openUrl env url)
  | .notify id event => Act.given (·.notifierHeld) (Dispatcher.notify id event)
  | .beginInvoke job => Act.given (·.held) (Dispatcher.beginInvoke job)
  | .pollInvoke ticket => Dispatcher.pollInvoke ticket
  | .beginShutdown => Act.given (·.held) Dispatcher.beginShutdown
  | .pollShutdown ticket => Dispatcher.pollShutdown ticket
  | .giveUp keepNotifier => Dispatcher.giveUp env keepNotifier
  | .readEvents label => modifyGet fun w =>
      let (n, metrics) := w.dispatcher.metrics.readEvents label
      (n, w.updateMetrics fun _ => metrics)

section

-- What a client writes down when it looks around.
variable (look : System κ → κ.Note)

/-- What a client can do while it has control: it goes by what it sees, remembers,
panics and holds panics back, and makes calls in surroundings out of `below`. -/
inductive Conduct (below : Surroundings κ → Prop) : {α : Type} → Act κ α → Prop
  | pure {α : Type} (a : α) : Conduct below (pure a)
  | bind {α β : Type} {a : Act κ α} {f : α → Act κ β} :
      Conduct below a → (∀ x, Conduct below (f x)) → Conduct below (a >>= f)
  | see {α : Type} (f : System κ → α) : Conduct below (do return f (← get))
  | remember (f : κ.State → κ.State) : Conduct below (modify (·.updateClient f))
  | note : Conduct below (modify fun w => w.record (.note (look w)))
  | panic {α : Type} (payload : Payload) : Conduct below (throw (.panic payload) : Act κ α)
  | contain {α : Type} {a : Act κ α} : Conduct below a → Conduct below a.contain
  | after {α : Type} {a : Act κ α} {last : Act κ Unit} :
      Conduct below a → Conduct below last → Conduct below (a.after last)
  | call {α : Type} {env : Surroundings κ} (usable : below env) (c : Call κ α) :
      Conduct below (c.run env)

/-- Whatever the client does when it is called is conduct in surroundings out of `below`. -/
structure Surroundings.Above (below : Surroundings κ → Prop) (env : Surroundings κ) : Prop where
  deliver : ∀ sink origin event, Conduct look below (env.deliver sink origin event)
  start : ∀ id config, Conduct look below (env.host.start id config)
  requestRanges : ∀ id request ranges, Conduct look below (env.host.requestRanges id request ranges)
  write : ∀ id data, Conduct look below (env.host.write id data)
  cancel : ∀ id, Conduct look below (env.host.cancel id)
  isCurrent : Conduct look below env.isCurrent
  scheduleTeardown : ∀ id, Conduct look below (env.scheduleTeardown id)
  work : ∀ job, Conduct look below (env.work job)

/-- Surroundings in which a client serves: what it does when it is called is conduct,
and so is what it does when it is called because of that, however often this repeats.
At each of these depths it has the given manners. -/
inductive Surroundings.Serves (manners : Surroundings κ → Prop) : Surroundings κ → Prop
  | intro {env : Surroundings κ} (below : Surroundings κ → Prop)
      (serves : ∀ lower, below lower → Serves manners lower)
      (above : env.Above look below) (mannered : manners env) : Serves manners env

/-- A run from one system to another: what the client does from outside, in any order
and with any behaviour, the start of the dispatcher, and turns of its worker between. -/
inductive Run (manners : Surroundings κ → Prop) (w : System κ) : System κ → Prop
  | refl : Run manners w w
  | act {α : Type} {v : System κ} {a : Act κ α} (before : Run manners w v)
      (conduct : Conduct look (Surroundings.Serves look manners) a) : Run manners w (a.left v)
  | start {v : System κ} (before : Run manners w v)
      (unstarted : v.dispatcher.phase = .unstarted) (settings : Settings) (executor : Bool) :
      Run manners w ((Dispatcher.start settings executor).left v)
  | turn {v : System κ} {env : Surroundings κ} (before : Run manners w v)
      (serves : env.Serves look manners) : Run manners w ((Worker.step env).left v)

end

/-- A run that goes on from the end of another one is one run with it. -/
theorem Run.trans {look : System κ → κ.Note} {manners : Surroundings κ → Prop} {u v w : System κ}
    (first : Run look manners u v) (second : Run look manners v w) : Run look manners u w := by
  induction second with
  | refl => exact first
  | act _ conduct ih => exact ih.act conduct
  | start _ unstarted settings executor ih => exact ih.start unstarted settings executor
  | turn _ serves ih => exact ih.turn serves

section

variable {look : System κ → κ.Note} {manners below : Surroundings κ → Prop}
  {R : System κ → System κ → Prop}

/-- The relation holds across what a client does on its own. -/
structure Alone (look : System κ → κ.Note) (R : System κ → System κ → Prop) : Prop where
  refl : ∀ w, R w w
  trans : ∀ {u v w}, R u v → R v w → R u w
  remember : ∀ w f, R w (w.updateClient f)
  note : ∀ w : System κ, R w (w.record (.note (look w)))

/-- What a client does keeps to the relation if its calls do. -/
theorem Conduct.within (hR : Alone look R)
    (hCall : ∀ {env}, below env → ∀ {α : Type} (c : Call κ α), (c.run env).Within R) {a : Act κ α}
    (h : Conduct look below a) : a.Within R := by
  induction h with
  | pure | see | panic => exact hR.refl
  | bind _ _ iha ihf => exact fun w => Act.related_bind (R := R) hR.trans (iha w) fun x _ => ihf x _
  | remember f => exact fun w => hR.remember w f
  | note => exact hR.note
  | contain _ ih => exact fun w => by rw [Act.left_contain]; exact ih w
  | after _ _ iha ihl => exact fun w => by rw [Act.left_after]; exact hR.trans (iha w) (ihl _)
  | call usable c => exact hCall usable c

/-- Surroundings keep to every relation that all conduct in them keeps to. -/
theorem Surroundings.Above.within {env : Surroundings κ} (h : env.Above look below)
    (hAct : ∀ {α : Type} {a : Act κ α}, Conduct look below a → a.Within R) : env.Within R where
  deliver sink origin event := hAct (h.deliver sink origin event)
  start id config := hAct (h.start id config)
  requestRanges id request ranges := hAct (h.requestRanges id request ranges)
  write id data := hAct (h.write id data)
  cancel id := hAct (h.cancel id)
  isCurrent := hAct h.isCurrent
  scheduleTeardown id := hAct (h.scheduleTeardown id)
  work job := hAct (h.work job)

/-- Surroundings in which a client serves have the manners that are asked for. -/
theorem Surroundings.Serves.mannered {env : Surroundings κ} (h : env.Serves look manners) :
    manners env := by
  cases h with
  | intro _ _ _ mannered => exact mannered

/-- A client that serves keeps to the relation, at whatever depth it is called, if calls do where
those who are called keep to it. -/
theorem Surroundings.Serves.within (hR : Alone look R)
    (hCall : ∀ {env : Surroundings κ}, env.Serves look manners → env.Within R →
      ∀ {α : Type} (c : Call κ α), (c.run env).Within R)
    {env : Surroundings κ} (h : env.Serves look manners) : env.Within R := by
  induction h with
  | intro below serves above _ ih =>
    exact above.within fun conduct =>
      conduct.within hR fun usable => hCall (serves _ usable) (ih _ usable)

/-- A relation holds across a run if it holds across what clients do, the dispatcher's start and
turns of its worker. -/
theorem Run.related (hR : Alone look R)
    (hCall : ∀ {env : Surroundings κ}, env.Serves look manners →
      ∀ {α : Type} (c : Call κ α), (c.run env).Within R)
    (hStart : ∀ {w : System κ} settings executor, w.dispatcher.phase = .unstarted →
      R w ((Dispatcher.start settings executor).left w))
    (hTurn : ∀ {env : Surroundings κ}, env.Serves look manners → (Worker.step env).Within R)
    {w v : System κ} (h : Run look manners w v) : R w v := by
  induction h with
  | refl => exact hR.refl w
  | act _ conduct ih => exact hR.trans ih (conduct.within hR hCall _)
  | start _ unstarted settings executor ih => exact hR.trans ih (hStart settings executor unstarted)
  | turn _ serves ih => exact hR.trans ih (hTurn serves _)

end

/-- The system can come about from nothing: at the outset there is only the client's memory. -/
def Reached (look : System κ → κ.Note) (manners : Surroundings κ → Prop) (w : System κ) : Prop :=
  ∃ client, Run look manners { client } w

/-- The property holds in every system that can come about, and at every moment at which
a client has control, be it in the middle of a call: clients write down what they see then,
and what was written down was seen in a system with the property. -/
def Always (manners : Surroundings κ → Prop) (P : System κ → Prop) : Prop :=
  ∀ look w, Reached look manners w → P w ∧ ∀ n, .note n ∈ w.past → ∃ v, P v ∧ look v = n

/-- Any manners. -/
def Surroundings.any (_ : Surroundings κ) : Prop := True

/-- Calls that are made one after the other. -/
def Call.each (env : Surroundings κ) (calls : List ((α : Type) × Call κ α)) : Act κ Unit :=
  calls.forM fun c => do let _ ← c.2.run env

/-- Calls in a row are conduct. -/
theorem Conduct.each {look : System κ → κ.Note} {below : Surroundings κ → Prop}
    {env : Surroundings κ} (usable : below env) (calls : List ((α : Type) × Call κ α)) :
    Conduct look below (Call.each env calls) := by
  induction calls with
  | nil => exact .pure ()
  | cons c rest ih => exact .bind (.bind (.call usable c.2) fun _ => .pure ()) fun _ => ih

/-- What clients do from outside leads from one system that can come about to another. -/
theorem Reached.act {look : System κ → κ.Note} {manners : Surroundings κ → Prop} {w : System κ}
    {a : Act κ α} (h : Reached look manners w)
    (conduct : Conduct look (Surroundings.Serves look manners) a) :
    Reached look manners (a.left w) := by
  obtain ⟨client, hRun⟩ := h
  exact ⟨client, hRun.act conduct⟩

/-- A turn of the worker leads on to a system that can come about. -/
theorem Reached.turn {look : System κ → κ.Note} {manners : Surroundings κ → Prop} {w : System κ}
    {env : Surroundings κ} (h : Reached look manners w) (serves : env.Serves look manners) :
    Reached look manners ((Worker.step env).left w) := by
  obtain ⟨client, hRun⟩ := h
  exact ⟨client, hRun.turn serves⟩

/-! A client to look at runs with. -/

/-- A client that keeps nothing. -/
def Client.plain : Client :=
  ⟨Unit, Unit, Unit, Unit⟩

namespace Surroundings

variable {manners : Surroundings Client.plain → Prop}

/-- Surroundings that do what they are asked for, and nothing else. -/
def obliging : Surroundings Client.plain where
  deliver _ _ _ := pure true
  host := {
    start := fun _ _ => pure (.ok ())
    requestRanges := fun _ _ _ => pure (.ok ())
    write := fun _ data => pure (.ok data.length)
    cancel := fun _ => pure (.ok ()) }
  isCurrent := pure true
  scheduleTeardown _ := pure false
  work _ := pure ()

/-- Obliging surroundings make no calls, so any client serves in them. -/
theorem serves_obliging (mannered : manners obliging) :
    obliging.Serves (fun _ => ()) manners :=
  .intro (fun _ => False) (fun _ h => h.elim)
    ⟨fun _ _ _ => .pure _, fun _ _ => .pure _, fun _ _ _ => .pure _, fun _ _ => .pure _,
      fun _ => .pure _, .pure _, fun _ => .pure _, fun _ => .pure _⟩ mannered

/-- Surroundings in which every sink tears a stream down as soon as it is opened. -/
def hasty : Surroundings Client.plain :=
  { obliging with
    deliver := fun _ o event =>
      match o, event with
      | .stream r, .opened _ => do
        r.destroy obliging
        return true
      | _, _ => return true }

/-- A hasty sink makes its calls in obliging surroundings, where no sink is hasty. -/
theorem serves_hasty (obliged : manners obliging) (mannered : manners hasty) :
    hasty.Serves (fun _ => ()) manners := by
  refine .intro (· = obliging) (fun _ h => h ▸ serves_obliging obliged)
    ⟨fun sink o event => ?_, fun _ _ => .pure _, fun _ _ _ => .pure _, fun _ _ => .pure _,
      fun _ => .pure _, .pure _, fun _ => .pure _, fun _ => .pure _⟩ mannered
  simp only [hasty]
  split
  · rename_i r _
    have hDestroy : Conduct (fun _ => ()) (· = obliging) (r.destroy obliging) :=
      .call (by rfl) (.destroy r)
    exact .bind hDestroy fun _ => .pure true
  · exact .pure true

/-- Surroundings in which every sink panics. -/
def brittle : Surroundings Client.plain :=
  { obliging with deliver := fun _ _ _ => throw (.panic .value) }

/-- To panic is within everybody's reach. -/
theorem serves_brittle (mannered : manners brittle) : brittle.Serves (fun _ => ()) manners :=
  .intro (fun _ => False) (fun _ h => h.elim)
    ⟨fun _ _ _ => .panic _, fun _ _ => .pure _, fun _ _ _ => .pure _, fun _ _ => .pure _,
      fun _ => .pure _, .pure _, fun _ => .pure _, fun _ => .pure _⟩ mannered

/-- What comes of calls that are made one after the other. -/
def played (env : Surroundings Client.plain) (calls : List ((α : Type) × Call Client.plain α)) :
    System Client.plain :=
  (Call.each env calls).left { client := () }

/-- What comes of calls from outside can come about. -/
theorem reached_played {env : Surroundings Client.plain} (serves : env.Serves (fun _ => ()) manners)
    (calls : List ((α : Type) × Call Client.plain α)) :
    Reached (fun _ => ()) manners (env.played calls) :=
  .act ⟨(), .refl⟩ (.each serves calls)

end Surroundings

end HostedStreams
