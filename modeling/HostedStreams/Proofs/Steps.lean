import HostedStreams.Proofs.Conduct
import HostedStreams.Proofs.Frame

/-! The steps that a run is made of. Between two moments at which a client has
control, the library does one of few things, and each is listed here with what it
takes for it to happen. -/
namespace HostedStreams

variable {κ : Client}

/-- The event that is fired next, and what it makes of a status. -/
inductive Status.Takes (s : Status) : Event → Status → Prop
  | created (state : s.state = .created) : Takes s .created { s with state := .opening }
  | opened (p : Opened) (state : s.state = .opening) : Takes s (.opened p) (s.applyOpened p)
  | failedOpen (p : FailedOpen) (state : s.state = .opening) :
      Takes s (.failedOpen p) s.applyFailedOpen
  | dataArrived (p : DataArrived) (state : s.state = .opened) :
      Takes s (.dataArrived p) { s with pending := s.pending.retire p }
  | completed (p : Completed) (state : s.state = .opened) :
      Takes s (.completed p) s.applyCompleted

namespace Status

/-- A stream that is torn down takes no events. -/
theorem Takes.state_ne {s t : Status} {event : Event} (h : s.Takes event t) :
    s.state ≠ .destroyed := by
  cases h <;> simp_all

/-- To take an event tears nothing down. -/
theorem Takes.state_ne' {s t : Status} {event : Event} (h : s.Takes event t) :
    t.state ≠ .destroyed := by
  cases h <;> simp_all [applyOpened, applyFailedOpen, applyCompleted]

/-- The end is not an event that streams take: they are torn down. -/
theorem Takes.event_ne {s t : Status} {event : Event} (h : s.Takes event t) :
    event ≠ .destroyed := by
  cases h <;> simp

/-- An event that a stream reacts to by firing is taken, and the stream is not closing. -/
theorem takes_of_react_fire {s t : Status} {event fired : Event}
    (h : s.react event = (t, .fire fired)) : s.Takes fired t ∧ s.closing = false := by
  unfold react at h
  split at h
  · cases h
  · rename_i hOpen
    have hFree (hEvent : event ≠ .destroyed) (hLive : s.state ≠ .destroyed) :
        s.closing = false := by
      simpa [isClosing, hEvent, hLive] using hOpen
    split at h <;> cases h
    case h_1 hState => exact ⟨.created hState, hFree (by simp) (by simp [hState])⟩
    case h_2 p hState => exact ⟨.opened p hState, hFree (by simp) (by simp [hState])⟩
    case h_3 p hState => exact ⟨.failedOpen p hState, hFree (by simp) (by simp [hState])⟩
    case h_4 hState => exact ⟨.failedOpen _ hState, hFree (by simp) (by simp [hState])⟩
    case h_5 p hState => exact ⟨.dataArrived p hState, hFree (by simp) (by simp [hState])⟩
    case h_6 p hState => exact ⟨.completed p hState, hFree (by simp) (by simp [hState])⟩

/-- A reaction that tears a stream down leaves its status to the teardown. -/
theorem of_react_destroy {s t : Status} {event : Event} (h : s.react event = (t, .destroy)) :
    t = s ∧ s.state ≠ .destroyed := by
  unfold react at h
  split at h
  · cases h
  · split at h <;> cases h
    exact ⟨rfl, by assumption⟩

/-- An event that is ignored changes nothing. -/
theorem of_react_ignore {s t : Status} {event : Event} (h : s.react event = (t, .ignore)) :
    t = s := by
  unfold react at h
  split at h
  · cases h; rfl
  · split at h <;> cases h <;> rfl

/-- Only streams that are opened and not closing are usable. -/
theorem state_of_usable {s : Status} (h : s.usable = true) :
    s.state = .opened ∧ s.closing = false := by
  simpa [usable] using h

theorem state_ne_of_usable {s : Status} (h : s.usable = true) : s.state ≠ .destroyed := by
  rw [(state_of_usable h).1]
  simp

theorem state_ne_of_cancellable {s : Status} (h : s.cancellable = true) : s.state ≠ .destroyed :=
  fun torn => by simp [cancellable, torn, StreamState.terminal] at h

/-- Without a reason to refuse a read, the stream is usable and seekable. -/
theorem of_readBarrier?_eq_none {s : Status} {operation : String}
    (h : s.readBarrier? operation = none) : s.usable = true ∧ s.seekable = true := by
  unfold readBarrier? at h
  split at h
  · cases h
  · split at h
    · cases h
    · simp_all

end Status

/-- Only ranges that hold something are made from bounds. -/
theorem Range.valid_of_ofBounds? {start stop : UInt64} {range : Range}
    (h : Range.ofBounds? start stop = .ok range) : range.valid = true := by
  unfold ofBounds? at h
  split at h <;> cases h
  simpa [valid]

/-- What a dispatcher does when somebody calls it who does not notify. -/
inductive Dispatcher.Serves (d : Dispatcher κ) : Dispatcher κ → Prop
  | drawTicket : Serves d { d with nextTicket := d.nextTicket + 1 }
  | invoke (ticket : Ticket) (job : κ.Job) (held : d.held = true) (open_ : d.stopped = false) :
      Serves d { d with mailbox := (d.mailbox.send ticket (.invoke ticket job)).2 }
  | stop (held : d.held = true) : Serves d { d with stopped := true }
  | shutdown (ticket : Ticket) (stopped : d.stopped = true) :
      Serves d { d with mailbox := (d.mailbox.send ticket .shutdown).2 }
  | schedule (id : StreamId) (running : d.phase = .running) :
      Serves d { d with teardowns := d.teardowns ++ [id] }
  | poll (ticket : Ticket) : Serves d { d with mailbox := (d.mailbox.poll ticket).2 }
  | giveUp (keepNotifier : Bool) :
      Serves d { d with held := false, notifierHeld := d.notifierHeld && keepNotifier }
  | abandon (idle : d.phase.working = false) : Serves d { d with registry := [] }
  | readEvents (label : String) :
      Serves d { d with metrics := (d.metrics.readEvents label).2 }

/-- What changes is only what the dispatcher keeps beside its queue, its registry and
their gauges. -/
structure Dispatcher.Aside (d e : Dispatcher κ) : Prop where
  phase : e.phase = d.phase
  mailbox : e.mailbox = d.mailbox
  registry : e.registry = d.registry
  stopped : e.stopped = d.stopped
  held : e.held = d.held
  active : e.metrics.activeStreams = d.metrics.activeStreams
  depth : e.metrics.queueDepth = d.metrics.queueDepth

/-- What can be done to a list of sinks. -/
inductive Upkeep where
  | attach (sink : SinkRef)
  | detach (sink : SinkRef)
  | clear
  /-- Sinks that are gone are forgotten. -/
  | prune
  deriving DecidableEq

/-- What becomes of the list, by which sinks are there. -/
def Upkeep.on (alive : SinkRef → Bool) (s : Source) : Upkeep → Source
  | .attach sink => (s.attach alive sink).2
  | .detach sink => (s.detach alive sink).2
  | .clear => s.clear
  | .prune => s.prune alive

/-- What happens to a system outside passes. A request to the host and what makes the
stream ask are one step, and so are a refusal and what is taken back because of it. -/
inductive Quiet (look : System κ → κ.Note) (w : System κ) : System κ → Prop
  | remember (f : κ.State → κ.State) : Quiet look w (w.updateClient f)
  | note : Quiet look w (w.record (.note (look w)))
  | makeSink : Quiet look w { w with sinks := w.sinks ++ [({} : SinkLife)] }
  | abandonSink (sink : SinkRef) :
      Quiet look w (w.updateSink sink fun life => { life with owned := false })
  | doneWith (sink : SinkRef) :
      Quiet look w (w.updateSink sink fun life => { life with busy := life.busy - 1 })
  | makeHub : Quiet look w { w with hubs := w.hubs ++ [Source.empty] }
  | hub (hub : HubRef) (f : Source → Source) (upkeep : Upkeep)
      (tends : f (w.source (.hub hub)) = upkeep.on w.alive (w.source (.hub hub))) :
      Quiet look w (w.updateSource (.hub hub) f)
  | drawId : Quiet look w { w with drawn := w.drawn + 1 }
  | makeStream (id : StreamId) (config : StreamConfig) (binding : Binding)
      (own : binding ≠ .worker) :
      Quiet look w { w with streams := w.streams ++
        [{ id, config, binding, status := { seekable := config.seekable } }] }
  | handles (r : StreamRef) (f : Nat → Nat) :
      Quiet look w (w.updateStream r fun s => { s with handles := f s.handles })
  | attach (r : StreamRef) (sink : SinkRef) (live : (w.status r).state ≠ .destroyed) :
      Quiet look w (w.updateSource (.stream r) fun _ =>
        ((w.source (.stream r)).attach w.alive sink).2)
  | detach (r : StreamRef) (sink : SinkRef) :
      Quiet look w (w.updateSource (.stream r) fun _ =>
        ((w.source (.stream r)).detach w.alive sink).2)
  | start (r : StreamRef) (first : (w.status r).requested = false)
      (state : (w.status r).state = .created) :
      Quiet look w ((w.updateStatus r fun s => { s with requested := true }).record
        (@Entry.hostCall _ (w.stream r).id
          (.start { (w.stream r).config with seekable := (w.status r).seekable }) r))
  | closing (r : StreamRef) (live : (w.status r).state ≠ .destroyed)
      (settled : (w.status r).cancellable = false) :
      Quiet look w (w.updateStatus r fun s => { s with closing := true })
  | cancel (r : StreamRef) (active : (w.status r).cancellable = true) :
      Quiet look w ((w.updateStatus r fun s => { s with closing := true }).record
        (@Entry.hostCall _ (w.stream r).id .cancel r))
  | uncancelled (r : StreamRef) (id : StreamId) (made : w.Has r) :
      Quiet look w ((w.updateStatus r fun s => { s with closing := false }).record
        (@Entry.hostAnswer _ id .cancel false r))
  | read (r : StreamRef) (ranges : List Range)
      (usable : (w.status r).usable = true) (seekable : (w.status r).seekable = true)
      (some_ : ranges ≠ []) (valid : ∀ range ∈ ranges, range.valid = true) :
      Quiet look w ((w.updateStatus r (·.register ranges)).record
        (@Entry.hostCall _ (w.stream r).id (.requestRanges (w.status r).nextRequest ranges) r))
  | unread (r : StreamRef) (id : StreamId) (request : RequestId) (ranges : List Range)
      (made : w.Has r) :
      Quiet look w ((w.updateStatus r (·.withdraw request)).record
        (@Entry.hostAnswer _ id (.requestRanges request ranges) false r))
  | write (r : StreamRef) (data : List UInt8) (usable : (w.status r).usable = true) :
      Quiet look w (w.record (@Entry.hostCall _ (w.stream r).id (.write data) r))
  | abort (r : StreamRef) (active : (w.status r).cancellable = true) :
      Quiet look w (w.record (@Entry.hostCall _ (w.stream r).id .cancel r))
  | answer (r : StreamRef) (id : StreamId) (call : HostCall) (served : Bool) (made : w.Has r)
      (kept : ∀ request ranges, call = .requestRanges request ranges → served = true) :
      Quiet look w (w.record (@Entry.hostAnswer _ id call served r))
  | accept (id : StreamId) (event : Event) (mailbox : Mailbox (Command κ.Job))
      (kept : w.dispatcher.notifierHeld = true) (open_ : w.dispatcher.stopped = false)
      (sent : w.dispatcher.mailbox.trySend (.notify id event) = (.accepted, mailbox)) :
      Quiet look w ((w.record (.accepted id event)).updateDispatcher fun d =>
        { d with mailbox, metrics := d.metrics.raiseDepth })
  | refuse (id : StreamId) (event : Event) (reason : DispatchError) (label : String) :
      Quiet look w ((w.record (.refused id event reason)).updateMetrics
        (Metrics.countRejected label))
  | serve (d : Dispatcher κ) (serves : w.dispatcher.Serves d) :
      Quiet look w (w.updateDispatcher fun _ => d)

/-- What a pass of the origin does: an event is taken or a teardown begins, which starts the
pass, sinks are handed the event, and in the end the list of sinks is seen to. -/
inductive Firing : Origin → System κ → System κ → Prop
  | take {w : System κ} (r : StreamRef) {event : Event} {t : Status}
      (takes : (w.status r).Takes event t) (free : (w.status r).closing = false) :
      Firing (.stream r) w ((w.updateStatus r fun _ => t).record
        (.pass (.stream r) event (.state t.state)))
  | tearDown {w : System κ} (r : StreamRef) (live : (w.status r).state ≠ .destroyed) :
      Firing (.stream r) w ((w.updateStatus r Status.tornDown).record
        (.pass (.stream r) .destroyed (.state .destroyed)))
  | start {w : System κ} (hub : HubRef) (event : Event) :
      Firing (.hub hub) w (w.record (.pass (.hub hub) event (w.standing (.hub hub))))
  | hand {w v : System κ} (o : Origin) (event : Event) (a : Attachment)
      (alive : w.alive a.sink = true) (attached : (w.source o).holds a = true)
      (kept : v = w.updateSink a.sink fun life => { life with busy := life.busy + 1 }) :
      Firing o w (v.record (.delivery a.sink o event (v.standing o) v.dispatcher.inContext))
  | prune {w : System κ} (o : Origin) : Firing o w (w.updateSource o (·.prune w.alive))
  | clear {w : System κ} (r : StreamRef) :
      Firing (.stream r) w (w.updateSource (.stream r) Source.clear)

/-- A step outside passes takes no stream away. -/
theorem Quiet.grows {look : System κ → κ.Note} {w v : System κ} (h : Quiet look w v) :
    w.streams.length ≤ v.streams.length := by
  cases h <;> simp [System.updateClient, System.record, System.updateSink, System.updateSource,
    System.updateStream, System.updateStatus, System.updateDispatcher, System.updateMetrics]

/-- No stream is lost in a pass. -/
theorem Firing.grows {o : Origin} {w v : System κ} (h : Firing o w v) :
    w.streams.length ≤ v.streams.length := by
  cases h with
  | hand o event a alive attached kept => subst kept; exact Nat.le_refl _
  | prune o => cases o <;> simp [System.updateSource, System.updateStream]
  | _ => simp [System.record, System.updateSource, System.updateStream, System.updateStatus]

end HostedStreams
