import HostedStreams.Proofs.Sheltered
import HostedStreams.Proofs.Shutdown

/-! What panics of sinks change. A dispatcher is notified, streams are closed from outside and the
dispatcher is shut down at last, once with sinks that panic and once with sinks that do not. Both
times the streams fare the same, and who was not there yet when a pass broke off misses its event.
Only where a pass stands for an acknowledgement that was never reported does a panic take the
event itself from the stream. -/
namespace HostedStreams

variable {κ : Client} {α : Type} {temper even : Temper κ} {w v : System κ}

/-! Calls from outside the worker. -/

/-- Who keeps the dispatcher is the same in both. -/
theorem same_given (h : w.Alike temper v) {kept : Dispatcher κ → Bool} {a b : Act κ α}
    (blind : ∀ d n, kept (d.withPanics n) = kept d) (hRun : Act.Same temper a b w v) :
    Act.Same temper (a.given kept) (b.given kept) w v := by
  simp only [Act.given, Act.same_get_bind, h.reads blind]
  split
  · exact hRun.bind fun _ _ => Act.same_pure hRun.2 _
  · exact Act.same_pure h _

/-- A notification is accepted or refused in both alike. -/
theorem same_notify (h : w.Alike temper v) (id : StreamId) (event : Event) :
    Act.Same temper (Dispatcher.notify id event) (Dispatcher.notify id event) w v := by
  have hRefused (reason : DispatchError) (label : String) :
      Act.Same temper (Dispatcher.refuse id event reason label)
        (Dispatcher.refuse id event reason label) w v :=
    ⟨rfl, (h.record (.refused id event reason)).updateMetrics fun _ n => ⟨n, rfl⟩⟩
  simp only [Dispatcher.notify, Act.same_get_bind]
  rw [h.reads (f := (·.stopped)) fun _ _ => rfl, h.reads (f := (·.mailbox)) fun _ _ => rfl]
  split
  · exact hRefused _ _
  · split
    · simp only [Act.same_modify_bind]
      exact Act.same_pure ((h.record (.accepted id event)).updateDispatcher fun _ n => ⟨n, rfl⟩) _
    · exact hRefused _ _
    · exact hRefused _ _

/-- The queue is asked for something. -/
theorem same_mailbox (h : w.Alike temper v)
    (ask : Mailbox (Command κ.Job) → Mailbox.Sent × Mailbox (Command κ.Job)) :
    Act.Same temper
      (modifyGet fun w => ((ask w.dispatcher.mailbox).1,
        w.updateDispatcher fun d => { d with mailbox := (ask w.dispatcher.mailbox).2 }))
      (modifyGet fun w => ((ask w.dispatcher.mailbox).1,
        w.updateDispatcher fun d => { d with mailbox := (ask w.dispatcher.mailbox).2 })) w v := by
  have hMailbox := h.reads (f := (·.mailbox)) fun _ _ => rfl
  apply Act.same_modifyGet
  · rw [hMailbox]
  · rw [hMailbox]
    exact h.updateDispatcher (f := fun d => { d with mailbox := (ask w.dispatcher.mailbox).2 })
      fun _ n => ⟨n, rfl⟩

/-- The dispatcher is told to stop in both alike. -/
theorem same_beginShutdown (h : w.Alike temper v) :
    Act.Same temper Dispatcher.beginShutdown Dispatcher.beginShutdown w v := by
  simp only [Dispatcher.beginShutdown, Act.same_get_bind]
  rw [h.reads (f := (·.stopped)) fun _ _ => rfl]
  split
  · exact Act.same_pure h _
  · simp only [Act.same_modify_bind]
    have hTold := h.updateDispatcher (f := fun d => { d with stopped := true }) fun _ n => ⟨n, rfl⟩
    have hDrawn : Act.Same temper Dispatcher.drawTicket Dispatcher.drawTicket
        (w.updateDispatcher fun d => { d with stopped := true })
        (v.updateDispatcher fun d => { d with stopped := true }) := by
      apply Act.same_modifyGet
      · rw [hTold.reads (f := (·.nextTicket)) fun _ _ => rfl]
      · exact hTold.updateDispatcher (f := fun d => { d with nextTicket := d.nextTicket + 1 })
          fun _ n => ⟨n, rfl⟩
    apply hDrawn.bind
    intro ticket _
    have hSent := same_mailbox hDrawn.2 (·.send ticket .shutdown)
    exact hSent.bind fun _ _ => Act.same_pure hSent.2 _

/-- That the worker has ended is told in both alike. -/
theorem same_pollShutdown (h : w.Alike temper v) (ticket : Ticket) :
    Act.Same temper (Dispatcher.pollShutdown ticket) (Dispatcher.pollShutdown ticket) w v := by
  have hPolled : Act.Same temper (Dispatcher.poll ticket) (Dispatcher.poll ticket) w v :=
    same_mailbox h (·.poll ticket)
  apply hPolled.bind
  intro sent _
  cases sent with
  | full => exact Act.same_pure hPolled.2 _
  | accepted | closed =>
    simp only [Act.same_get_bind]
    rw [hPolled.2.reads (f := (·.phase)) fun _ _ => rfl]
    split <;> exact Act.same_pure hPolled.2 _

/-! Runs. -/

/-- What is done to a dispatcher from outside, and the steps of its worker between. -/
inductive Move where
  | notify (id : StreamId) (event : Event)
  | close (r : StreamRef)
  | beginShutdown
  | pollShutdown (ticket : Ticket)
  | step

/-- What comes of the move where the client is as `env` says. -/
def Move.left (env : Surroundings κ) : Move → System κ → System κ
  | .notify id event => ((Call.notify id event).run env).left
  | .close r => ((Call.close r).run env).left
  | .beginShutdown => (Call.beginShutdown.run env).left
  | .pollShutdown ticket => ((Call.pollShutdown ticket).run env).left
  | .step => (Worker.step env).left

/-- What comes of moves that are made one after the other. -/
def Move.all (env : Surroundings κ) (moves : List Move) (w : System κ) : System κ :=
  moves.foldl (fun w move => move.left env w) w

namespace Move

variable {look : System κ → κ.Note}

/-- What comes of a move can come about. -/
theorem reached {env : Surroundings κ} (serves : env.Serves look Surroundings.any)
    (h : Reached look Surroundings.any w) (move : Move) :
    Reached look Surroundings.any (move.left env w) := by
  cases move with
  | notify id event => exact h.act (.call serves (.notify id event))
  | close r => exact h.act (.call serves (.close r))
  | beginShutdown => exact h.act (.call serves .beginShutdown)
  | pollShutdown ticket => exact h.act (.call serves (.pollShutdown ticket))
  | step => exact h.turn serves

/-- One move keeps the systems alike. -/
theorem alike (bearing : Bearing κ) (hEven : even.Even) (steadfast : temper.Steadfast)
    (reached : Reached look Surroundings.any w) (h : w.Alike temper v) (move : Move) :
    (move.left (.recording bearing temper) w).Alike temper
      (move.left (.recording bearing even) v) := by
  cases move with
  | notify id event => exact (same_given h (fun _ _ => rfl) (same_notify h id event)).2
  | close r => exact (near_close bearing hEven h r).2
  | beginShutdown => exact (same_given h (fun _ _ => rfl) (same_beginShutdown h)).2
  | pollShutdown ticket => exact (same_pollShutdown h ticket).2
  | step =>
    have hBooks := (System.AtRest.of_reached look reached).books
    exact (near_step look bearing hEven steadfast h hBooks).2

/-- So do any number of them. -/
theorem alike_all (bearing : Bearing κ) (hEven : even.Even) (steadfast : temper.Steadfast)
    (moves : List Move) (reached : Reached look Surroundings.any w) (h : w.Alike temper v) :
    (all (.recording bearing temper) moves w).Alike temper
      (all (.recording bearing even) moves v) := by
  induction moves generalizing w v with
  | nil => exact h
  | cons move rest ih =>
    have hServes := Surroundings.serves_recording look bearing temper
    exact ih (move.reached hServes reached) (move.alike bearing hEven steadfast reached h)

end Move

/-! What the difference comes to. -/

namespace Entry

variable {Note : Type}

/-- Whether it is the sink that takes an event here. -/
def isTaken (sink : SinkRef) : Entry Note → Bool
  | .delivery taker .. => taker = sink
  | _ => false

end Entry

namespace Temper.Abridged

variable {past other : List (Entry κ.Note)}

/-- Nothing is in the one journal that is not in the other one. -/
theorem sublist (h : temper.Abridged past other) : past.Sublist other := by
  induction h with
  | refl past => exact List.Sublist.refl past
  | same e h ih => exact ih.cons_cons e
  | missed taker sink origin event standing inContext h panicked ih => exact ih.cons _

/-- Only deliveries are missing. -/
theorem rest (h : temper.Abridged past other) :
    past.filter (!·.isDelivery) = other.filter (!·.isDelivery) := by
  induction h with
  | refl past => rfl
  | same e h ih => rw [List.filter_cons, List.filter_cons, ih]
  | missed taker sink origin event standing inContext h panicked ih => exact ih

end Temper.Abridged

/-- Passes show in what is left of the journal without the deliveries. -/
theorem System.passes_of_rest (w : System κ) (r : StreamRef) :
    w.passes r = (w.journal.filter (!·.isDelivery)).filterMap fun
      | .pass o event standing => if o = .stream r then some (event, standing) else none
      | _ => none := by
  rw [passes, List.filterMap_filter]
  congr 1
  funext e
  cases e <;> rfl

/-- What panics of sinks change: they have happened on the one side, and no sink has panicked on
the other one. -/
structure System.Isolated (temper : Temper κ) (w v : System κ) : Prop where
  /-- Streams are in the same states, and have the same properties and pending requests. -/
  status : ∀ r, w.status r = v.status r
  /-- They went through the same states, and fired the same events. -/
  passes : ∀ r, w.passes r = v.passes r
  /-- The registry, the queues and the counters are the same, but for that of panics. -/
  dispatcher : w.dispatcher.withPanics v.dispatcher.metrics.panics = v.dispatcher
  /-- The same was asked of the host, and the same notifications were accepted, handed to streams
  and given up. -/
  rest : w.journal.filter (!·.isDelivery) = v.journal.filter (!·.isDelivery)
  /-- A sink takes nothing that it would not take otherwise. -/
  deliveries : ∀ sink,
    (w.journal.filter (·.isTaken sink)).Sublist (v.journal.filter (·.isTaken sink))
  /-- It misses only what was left of a pass when a sink panicked. -/
  missing : temper.Abridged w.past v.past

/-- What panics of sinks change follows from what they leave alike. -/
theorem System.Alike.isolated (h : w.Alike temper v) : w.Isolated temper v where
  status r := (h.status r).symm
  passes r := by
    rw [passes_of_rest, passes_of_rest, journal, journal, List.filter_reverse, List.filter_reverse,
      h.past.rest]
  dispatcher := by
    obtain ⟨panics, hDispatcher⟩ := h.dispatcher
    rw [hDispatcher]
    rfl
  rest := by rw [journal, journal, List.filter_reverse, List.filter_reverse, h.past.rest]
  deliveries sink := by
    rw [journal, journal]
    exact h.past.sublist.reverse.filter _
  missing := h.past

/-- Whatever the dispatcher has come to, it may be notified, streams may be closed from outside and
it may be shut down. Where no sink panics at an acknowledgement that another notification stands
for, panics of sinks change nothing about any of this but what other sinks take of the same
passes. -/
theorem panics_isolated {look : System κ → κ.Note} (bearing : Bearing κ) {temper even : Temper κ}
    (steadfast : temper.Steadfast) (hEven : even.Even) (moves : List Move)
    (reached : Reached look Surroundings.any w) :
    System.Isolated temper (Move.all (.recording bearing temper) moves w)
      (Move.all (.recording bearing even) moves w) :=
  (Move.alike_all bearing hEven steadfast moves reached (.refl w)).isolated

/-- A host that does what it is asked for. -/
def Bearing.obliging : Bearing Client.plain where
  start _ _ client := (.ok (.ok ()), client)
  requestRanges _ _ _ client := (.ok (.ok ()), client)
  write _ data client := (.ok (.ok data.length), client)
  cancel _ client := (.ok (.ok ()), client)
  isCurrent client := (.ok true, client)
  scheduleTeardown _ client := (.ok false, client)
  work _ client := (.ok (), client)

/-- A dispatcher that serves a stream with two sinks. -/
def attended : System Client.plain :=
  (Call.each Surroundings.obliging [⟨_, .createStream { url := "" }⟩, ⟨_, .makeSink⟩,
    ⟨_, .makeSink⟩, ⟨_, .attach ⟨0⟩ ⟨0⟩⟩, ⟨_, .attach ⟨0⟩ ⟨1⟩⟩]).left
    ((Dispatcher.start {} true).left { client := () })

/-- The stream is made and its sinks are attached as runs allow. -/
theorem reached_attended : Reached (fun _ => ()) Surroundings.any attended :=
  .act ⟨(), .start .refl rfl {} true⟩ (.each (Surroundings.serves_obliging trivial) _)

/-- Sinks that panic at an event of the kind. -/
def Temper.shy (kind : EventKind) : Temper Client.plain
  | .delivery _ _ event _ _ :: _ => if event.kind = kind then .error .value else .ok true
  | _ => .ok true

def Temper.placid : Temper Client.plain :=
  fun _ => .ok true

/-- A transfer that is opened and completed. -/
def transferred : List Move :=
  [.notify (.drawn 0) (.opened {}), .notify (.drawn 0) (.completed ⟨true⟩), .step, .step,
    .beginShutdown, .step]

/-- Both sinks panic at the opening, so the second one never hears of it. -/
theorem panics_isolated_attended :
    (Temper.shy .opened).Steadfast ∧ Temper.placid.Even ∧
    System.Isolated (Temper.shy .opened)
      (Move.all (.recording .obliging (Temper.shy .opened)) transferred attended)
      (Move.all (.recording .obliging Temper.placid) transferred attended) ∧
    ((Move.all (.recording .obliging (Temper.shy .opened)) transferred attended).deliveries ⟨0⟩).map
        (fun taken => (taken.1.number, taken.2.kind)) =
      [(0, .created), (1, .created), (0, .opened), (0, .completed), (1, .completed),
        (0, .destroyed), (1, .destroyed)] := by
  have hSteadfast : (Temper.shy .opened).Steadfast := fun _ _ _ _ _ _ _ _ => ⟨true, rfl⟩
  have hEven : Temper.placid.Even := fun _ => ⟨true, rfl⟩
  refine ⟨hSteadfast, hEven, ?_, by decide +kernel⟩
  exact panics_isolated .obliging hSteadfast hEven transferred reached_attended

/-- Where a sink panics at the acknowledgement that the opening stands for, the stream is never
opened. -/
theorem not_isolated_attended :
    ¬ ∀ (bearing : Bearing Client.plain) (temper even : Temper Client.plain) (moves : List Move)
      (w : System Client.plain), even.Even → Reached (fun _ => ()) Surroundings.any w →
      System.Isolated temper (Move.all (.recording bearing temper) moves w)
        (Move.all (.recording bearing even) moves w) := by
  intro h
  have hIsolated := h .obliging (Temper.shy .created) Temper.placid
    [.notify (.drawn 0) (.opened {}), .step] attended (fun _ => ⟨true, rfl⟩) reached_attended
  have hState := congrArg Status.state (hIsolated.status ⟨0⟩)
  exact absurd hState (by decide +kernel)

end HostedStreams
