import HostedStreams.Proofs.Conservation

/-! What becomes of the queue of commands outside the worker. Calls have a notification queued, hand
in a job, tell the worker to end or ask what has become of what was sent. Whatever else is done
leaves the queue, its tickets and its answers alone. -/
namespace HostedStreams

variable {κ : Client} {α β : Type}

/-- Whether the entry tells of the queue of commands: that something was queued, or that a job
begins or ends. -/
def Entry.queueing {Note : Type} : Entry Note → Bool
  | .accepted .. | .jobBegan .. | .jobEnded .. => true
  | _ => false

/-- The queue of commands, its tickets and its answers are left alone. -/
structure System.Apart (w v : System κ) : Prop where
  phase : v.dispatcher.phase = w.dispatcher.phase
  mailbox : v.dispatcher.mailbox = w.dispatcher.mailbox
  replies : v.dispatcher.replies = w.dispatcher.replies
  nextTicket : v.dispatcher.nextTicket = w.dispatcher.nextTicket
  stopped : v.dispatcher.stopped = w.dispatcher.stopped
  line : v.past.filter (·.queueing) = w.past.filter (·.queueing)

/-- What changes is not the queue of commands. -/
structure Dispatcher.Apart (d e : Dispatcher κ) : Prop where
  phase : e.phase = d.phase
  mailbox : e.mailbox = d.mailbox
  replies : e.replies = d.replies
  nextTicket : e.nextTicket = d.nextTicket
  stopped : e.stopped = d.stopped

namespace System.Apart

variable {w v : System κ}

/-- What leaves the dispatcher and the line of its entries alone leaves the queue alone. -/
theorem of_dispatcher (hDispatcher : v.dispatcher = w.dispatcher)
    (line : v.past.filter (·.queueing) = w.past.filter (·.queueing)) : w.Apart v :=
  ⟨by rw [hDispatcher], by rw [hDispatcher], by rw [hDispatcher], by rw [hDispatcher],
    by rw [hDispatcher], line⟩

theorem refl (w : System κ) : w.Apart w :=
  of_dispatcher rfl rfl

theorem of_firing {o : Origin} (h : Firing o w v) : w.Apart v := by
  refine of_dispatcher h.dispatcher ?_
  cases h with
  | hand o event a alive attached kept =>
    subst kept
    rfl
  | take | tearDown | start => rfl
  | prune | clear => rw [past_updateSource]

theorem record {e : Entry κ.Note} (h : e.queueing = false) : w.Apart (w.record e) :=
  of_dispatcher rfl (List.filter_cons_of_neg (by simp [h]))

theorem updateSource (w : System κ) (o : Origin) (f : Source → Source) :
    w.Apart (w.updateSource o f) :=
  of_dispatcher (w.dispatcher_updateSource o f) (by rw [past_updateSource])

/-- An update of the dispatcher leaves the queue alone if it keeps what belongs to it. -/
theorem updateDispatcher {f : Dispatcher κ → Dispatcher κ}
    (h : w.dispatcher.Apart (f w.dispatcher)) : w.Apart (w.updateDispatcher f) :=
  ⟨h.phase, h.mailbox, h.replies, h.nextTicket, h.stopped, rfl⟩

end System.Apart

/-- The relation holds across whatever leaves the queue alone. -/
structure Aloof (R : System κ → System κ → Prop) : Prop where
  trans : ∀ {u v w}, R u v → R v w → R u w
  apart : ∀ {w v}, w.Apart v → R w v

namespace Aloof

variable {R : System κ → System κ → Prop} (hR : Aloof R)

include hR

theorem smooth : Smooth R where
  refl w := hR.apart (.refl w)
  trans := hR.trans
  doneWith _ _ := hR.apart (.of_dispatcher rfl rfl)

theorem alone (look : System κ → κ.Note) : Alone look R where
  refl w := hR.apart (.refl w)
  trans := hR.trans
  remember _ _ := hR.apart (.of_dispatcher rfl rfl)
  note _ := hR.apart (.record rfl)

/-- Changes that leave the queue alone are within the relation. -/
theorem within_modify {f : System κ → System κ} (h : ∀ w : System κ, w.Apart (f w)) :
    (modify f : Act κ Unit).Within R :=
  fun w => hR.apart (h w)

theorem within_record {e : Entry κ.Note} (h : e.queueing = false) :
    (modify (·.record e) : Act κ Unit).Within R :=
  hR.within_modify fun _ => .record h

theorem within_dispatcher {f : Dispatcher κ → Dispatcher κ}
    (h : ∀ d : Dispatcher κ, d.Apart (f d)) :
    (modify (·.updateDispatcher f) : Act κ Unit).Within R :=
  hR.within_modify fun w => .updateDispatcher (h w.dispatcher)

theorem within_status (r : StreamRef) (f : Status → Status) :
    (modify (·.updateStatus r f) : Act κ Unit).Within R :=
  hR.within_modify fun _ => .of_dispatcher rfl rfl

theorem acquire (r : StreamRef) : (r.acquire : Act κ Unit).Within R :=
  hR.within_modify fun _ => .of_dispatcher rfl rfl

theorem attachTo (o : Origin) (sink : SinkRef) : (o.attach sink : Act κ Bool).Within R :=
  fun w => hR.apart (.updateSource w o fun _ => ((w.source o).attach w.alive sink).2)

theorem attach (r : StreamRef) (sink : SinkRef) : (r.attach sink : Act κ Bool).Within R := by
  intro w
  simp only [StreamRef.attach, Act.left_get_bind]
  split
  · exact hR.smooth.refl w
  · exact hR.attachTo (.stream r) sink w

theorem detachFrom (o : Origin) (sink : SinkRef) : (o.detach sink : Act κ Bool).Within R :=
  fun w => hR.apart (.updateSource w o fun _ => ((w.source o).detach w.alive sink).2)

theorem remove (id : StreamId) : (Registry.remove id : Act κ (Option StreamRef)).Within R := by
  intro w
  simp only [Registry.remove, Act.left_get_bind]
  split
  · exact hR.smooth.refl w
  · exact hR.within_dispatcher (fun _ => by constructor <;> rfl) w

/-- To ask the host is within the relation if the host is. -/
theorem askHost {env : Surroundings κ} {r : StreamRef} {id : StreamId} {call : HostCall}
    {ask : Host (Act κ) → Act κ (Except HostError α)} (hAsk : (ask env.host).Within R) :
    (HostedStreams.askHost env r id call ask).Within R :=
  hR.smooth.within_bind (hR.within_record rfl) fun _ =>
    hR.smooth.within_bind hAsk fun _ =>
      hR.smooth.within_bind (hR.within_record rfl) fun _ => hR.smooth.within_pure _

theorem contained {act : Act κ α} (h : act.Within R) : (Worker.contained act).Within R := by
  refine hR.smooth.within_bind (fun w => by rw [Act.left_contain]; exact h w) fun ended => ?_
  cases ended with
  | ok _ => exact hR.smooth.within_pure ()
  | error _ => exact hR.within_dispatcher fun _ => by constructor <;> rfl

theorem inContext {act : Act κ α} (h : act.Within R) : (Worker.inContext act).Within R := by
  intro w
  rw [Worker.inContext, Act.left_get_bind]
  exact hR.smooth.within_bind (hR.within_dispatcher fun _ => by constructor <;> rfl)
    (fun _ => hR.smooth.within_after h (hR.within_dispatcher fun _ => by constructor <;> rfl)) w

section

variable {env : Surroundings κ} (he : env.Within R)

include he

/-- A hub's pass leaves the queue alone. -/
theorem fireHub (hub : HubRef) (event : Event) : (fire env (.hub hub) event).Within R :=
  hR.smooth.within_fireHub he.deliver (fun h => hR.apart (.of_firing h)) event

theorem destroy (r : StreamRef) : (r.destroy env).Within R :=
  hR.smooth.within_destroy he.deliver fun h => hR.apart (.of_firing h)

theorem apply (r : StreamRef) (event : Event) : (r.apply env event).Within R :=
  hR.smooth.within_apply he.deliver (fun h => hR.apart (.of_firing h)) event

theorem receive (r : StreamRef) (event : Event) : (r.receive env event).Within R := by
  intro w
  simp only [StreamRef.receive, Act.left_get_bind]
  split
  · exact hR.smooth.within_bind (hR.apply he r .created) (fun _ => hR.apply he r event) w
  · exact hR.apply he r event w

theorem start (r : StreamRef) : (r.start env).Within R := by
  intro w
  simp only [StreamRef.start, Act.left_get_bind]
  split
  · exact hR.smooth.refl w
  · refine hR.smooth.within_bind (hR.within_status r _) (fun _ => ?_) w
    refine hR.smooth.within_bind (hR.askHost (he.start _ _)) fun answer => ?_
    cases answer with
    | ok _ => exact hR.smooth.within_pure _
    | error e => exact hR.smooth.within_bind (hR.destroy he r) fun _ => hR.smooth.within_pure _

theorem isForeign (r : StreamRef) : (r.isForeign env).Within R := by
  intro w
  simp only [StreamRef.isForeign, Act.left_get_bind]
  split
  · exact hR.smooth.refl w
  · exact hR.smooth.within_bind he.isCurrent (fun _ => hR.smooth.within_pure _) w
  · exact hR.smooth.refl w

theorem scheduleTeardown (r : StreamRef) : (r.scheduleTeardown env).Within R := by
  intro w
  simp only [StreamRef.scheduleTeardown, Act.left_get_bind]
  cases (w.stream r).binding with
  | free => exact hR.smooth.refl w
  | client => exact he.scheduleTeardown _ w
  | worker =>
    simp only [Act.left_get_bind]
    split
    · exact hR.within_dispatcher (fun _ => by constructor <;> rfl) w
    · exact hR.smooth.refl w

theorem closeDown (r : StreamRef) (already : Bool) : (r.closeDown env already).Within R := by
  refine hR.smooth.within_bind (hR.isForeign he r) fun foreign => ?_
  split
  · split
    · exact hR.smooth.within_pure ()
    · refine hR.smooth.within_bind (hR.scheduleTeardown he r) fun queued => ?_
      split
      · exact hR.smooth.within_pure ()
      · exact hR.destroy he r
  · exact hR.destroy he r

/-- A close may schedule a teardown, which is not queued among the commands. -/
theorem close (r : StreamRef) : (r.close env).Within R := by
  intro w
  have hDown (already : Bool) : (do
      r.closeDown env already
      return Except.ok (ε := StreamError) ()).Within R :=
    hR.smooth.within_bind (hR.closeDown he r already) fun _ => hR.smooth.within_pure _
  simp only [StreamRef.close, Act.left_get_bind]
  split
  · exact hR.smooth.refl w
  · refine hR.smooth.within_bind (hR.within_status r _) (fun _ => ?_) w
    split
    · refine hR.smooth.within_bind (hR.askHost (he.cancel _)) fun answer => ?_
      cases answer with
      | ok _ => exact hDown _
      | error e =>
        exact hR.smooth.within_bind (hR.within_status r _) fun _ => hR.smooth.within_pure _
    · exact hDown _

theorem drop (r : StreamRef) : (r.drop env).Within R := by
  intro w
  simp only [StreamRef.drop, Act.left_get_bind]
  split
  · split
    · exact hR.smooth.within_bind (hR.askHost (he.cancel _)) (fun _ => hR.destroy he r) w
    · exact hR.destroy he r w
  · exact hR.smooth.refl w

theorem release (r : StreamRef) : (r.release env).Within R := by
  refine hR.smooth.within_bind (hR.within_modify fun _ => .of_dispatcher rfl rfl) fun _ w => ?_
  simp only [Act.left_get_bind]
  split
  · exact hR.drop he r w
  · exact hR.smooth.refl w

theorem holding (r : StreamRef) {act : Act κ α} (h : act.Within R) : (r.holding env act).Within R :=
  hR.smooth.within_bind (hR.acquire r) fun _ => hR.smooth.within_after h (hR.release he r)

theorem request (r : StreamRef) (operation : String) (ranges : List Range) :
    (r.request env operation ranges).Within R := by
  intro w
  rw [StreamRef.request, Act.left_get_bind]
  dsimp only
  refine hR.smooth.within_bind (hR.within_status r _) (fun _ => ?_) w
  refine hR.smooth.within_bind (hR.askHost (he.requestRanges _ _ _)) fun answer => ?_
  cases answer with
  | ok _ => exact hR.smooth.within_pure _
  | error e => exact hR.smooth.within_bind (hR.within_status r _) fun _ => hR.smooth.within_pure _

theorem readRange (r : StreamRef) (first stop : UInt64) :
    (r.readRange env first stop).Within R := by
  intro w
  simp only [StreamRef.readRange, Act.left_get_bind]
  split
  · exact hR.smooth.refl w
  · split
    · exact hR.smooth.refl w
    · exact hR.request he r _ _ w

theorem readRanges (r : StreamRef) (ranges : List Range) :
    (r.readRanges env ranges).Within R := by
  intro w
  simp only [StreamRef.readRanges, Act.left_get_bind]
  split
  · exact hR.smooth.refl w
  · split
    · exact hR.smooth.refl w
    · split
      · exact hR.smooth.refl w
      · exact hR.request he r _ _ w

theorem write (r : StreamRef) (data : List UInt8) : (r.write env data).Within R := by
  intro w
  simp only [StreamRef.write, Act.left_get_bind]
  split
  · exact hR.smooth.refl w
  · split
    · exact hR.smooth.refl w
    · refine hR.smooth.within_bind (hR.askHost (he.write _ _)) (fun answer => ?_) w
      cases answer <;> exact hR.smooth.within_pure _

theorem forget (id : StreamId) : (Registry.forget env id).Within R := by
  refine hR.smooth.within_bind (hR.remove id) fun found => ?_
  cases found with
  | none => exact hR.smooth.within_pure ()
  | some r => exact hR.release he r

theorem find? (id : StreamId) : (Registry.find? env id).Within R := by
  intro w
  simp only [Registry.find?, Act.left_get_bind]
  split
  · exact hR.smooth.refl w
  · split
    · exact hR.smooth.within_bind (hR.forget he id) (fun _ => hR.smooth.within_pure _) w
    · exact hR.smooth.refl w

theorem prune : (Registry.prune env).Within R := by
  intro w
  simp only [Registry.prune, Act.left_get_bind]
  split
  · refine hR.smooth.within_bind (hR.within_dispatcher fun _ => by constructor <;> rfl)
      (fun _ => hR.smooth.within_forM (fun entry => ?_) _) w
    cases entry with
    | mk id r => exact hR.release he r
  · exact hR.smooth.refl w

theorem releaseAll (all : List (StreamId × StreamRef)) :
    (all.foldr (fun (entry : StreamId × StreamRef) rest => (entry.2.release env).after rest)
      (pure ())).Within R := by
  induction all with
  | nil => exact hR.smooth.within_pure ()
  | cons entry rest ih => exact hR.smooth.within_after (hR.release he entry.2) ih

theorem abandon : (Registry.abandon env).Within R := by
  intro w
  rw [Registry.abandon, Act.left_get_bind]
  exact hR.smooth.within_bind (hR.within_dispatcher fun _ => by constructor <;> rfl)
    (fun _ => hR.releaseAll he _) w

theorem createStream (config : StreamConfig) : (Dispatcher.createStream env config).Within R := by
  intro w
  simp only [Dispatcher.createStream, Act.left_get_bind]
  split
  · exact hR.smooth.refl w
  · refine hR.smooth.within_bind (fun _ => hR.apart (.of_dispatcher rfl rfl)) (fun id => ?_) w
    refine hR.smooth.within_bind (fun _ => hR.apart (.of_dispatcher rfl rfl)) fun r => ?_
    refine hR.smooth.within_bind ?_ fun _ => ?_
    · exact hR.smooth.within_bind (hR.acquire r) fun _ =>
        hR.within_dispatcher fun _ => by constructor <;> rfl
    · refine hR.smooth.within_bind ?_ fun started => ?_
      · refine hR.smooth.within_tryCatch (hR.start he r) fun _ => ?_
        exact hR.smooth.within_bind (hR.release he r) fun _ w => hR.smooth.refl w
      · cases started with
        | ok _ => exact hR.smooth.within_pure _
        | error e =>
          refine hR.smooth.within_bind (hR.forget he id) fun _ => ?_
          exact hR.smooth.within_bind (hR.release he r) fun _ => hR.smooth.within_pure _

theorem giveUp (keepNotifier : Bool) : (Dispatcher.giveUp env keepNotifier).Within R := by
  refine hR.smooth.within_bind (hR.within_dispatcher fun _ => by constructor <;> rfl) fun _ w => ?_
  simp only [Act.left_get_bind]
  split
  · exact hR.abandon he w
  · exact hR.smooth.refl w

theorem tearDown (id : StreamId) : (Worker.tearDown env id).Within R := by
  refine hR.smooth.within_bind (hR.remove id) fun found => ?_
  cases found with
  | none => exact hR.smooth.within_pure ()
  | some r =>
    exact hR.smooth.within_bind (hR.contained (hR.destroy he r)) fun _ => hR.release he r

/-- The worker hands a notification over after it has taken it out of the queue. -/
theorem dispatch (id : StreamId) (event : Event) : (Worker.dispatch env id event).Within R := by
  have hCount (f : Metrics → Metrics) : (modify (·.updateMetrics f) : Act κ Unit).Within R :=
    hR.within_dispatcher fun _ => by constructor <;> rfl
  refine hR.smooth.within_bind (hCount _) fun _ => ?_
  refine hR.smooth.within_bind (hR.find? he id) fun found => ?_
  cases found with
  | none =>
    exact hR.within_modify fun _ => ⟨rfl, rfl, rfl, rfl, rfl, rfl⟩
  | some r =>
    refine hR.holding he r (hR.smooth.within_bind (hR.within_record rfl) fun _ => ?_)
    refine hR.smooth.within_bind (hR.contained (hR.receive he r event)) fun _ => ?_
    refine hR.smooth.within_bind (hCount _) fun _ w => ?_
    simp only [Act.left_get_bind]
    split
    · exact hR.forget he id w
    · exact hR.smooth.refl w

theorem clearing : (Worker.clearing env).Within R := by
  intro w
  rw [Worker.clearing, Act.left_get_bind]
  refine hR.smooth.within_bind (hR.within_dispatcher fun _ => by constructor <;> rfl)
    (fun _ => ?_) w
  refine hR.smooth.within_bind (hR.smooth.within_forM (hR.tearDown he) _) fun _ v => ?_
  refine hR.smooth.within_forM (fun entry => ?_) _ v
  cases entry with
  | mk id r =>
    exact hR.holding he r <| hR.smooth.within_bind (hR.contained (hR.close he r)) fun _ =>
      hR.tearDown he id

end
end Aloof

/-- One thing that is done with the queue of commands outside the worker. -/
inductive Errand (w : System κ) : System κ → Prop
  | apart {v : System κ} (h : w.Apart v) : Errand w v
  | accept (id : StreamId) (event : Event) {mailbox : Mailbox (Command κ.Job)}
      (sent : w.dispatcher.mailbox.trySend (.notify id event) = (.accepted, mailbox)) :
      Errand w ((w.record (.accepted id event)).updateDispatcher fun d =>
        { d with mailbox, metrics := d.metrics.raiseDepth })
  | invoke (job : κ.Job) :
      Errand w (w.updateDispatcher fun d => { d with
        nextTicket := d.nextTicket + 1
        mailbox := (d.mailbox.send ⟨d.nextTicket⟩ (.invoke ⟨d.nextTicket⟩ job)).2 })
  | shutdown :
      Errand w (w.updateDispatcher fun d => { d with
        stopped := true
        nextTicket := d.nextTicket + 1
        mailbox := (d.mailbox.send ⟨d.nextTicket⟩ .shutdown).2 })
  | poll (ticket : Ticket) :
      Errand w (w.updateDispatcher fun d => { d with mailbox := (d.mailbox.poll ticket).2 })

/-- Any number of such things. -/
abbrev Errands : System κ → System κ → Prop :=
  Relation.ReflTransGen Errand

namespace Errands

variable {w : System κ}

/-- Errands are a relation that holds where the queue is left alone. -/
theorem aloof : Aloof (Errands (κ := κ)) where
  trans := .trans
  apart h := .single (.apart h)

theorem notify (id : StreamId) (event : Event) : (Dispatcher.notify id event).Within
    (Errands (κ := κ)) := by
  intro w
  have hRefused (reason : DispatchError) (label : String) : Errands w
      ((w.record (.refused id event reason)).updateMetrics (Metrics.countRejected label)) :=
    aloof.apart ⟨rfl, rfl, rfl, rfl, rfl, rfl⟩
  simp only [Dispatcher.notify, Act.left_get_bind]
  split
  · exact hRefused _ _
  · split
    · rename_i mailbox hSent
      exact .single (.accept id event hSent)
    · exact hRefused _ _
    · exact hRefused _ _

theorem beginInvoke (job : κ.Job) : (Dispatcher.beginInvoke job).Within Errands := by
  intro w
  simp only [Dispatcher.beginInvoke, Act.left_get_bind]
  split
  · exact .refl
  · simp only [Dispatcher.drawTicket, Dispatcher.send, Act.left_modifyGet_bind]
    have hSent : Errands w _ := .single (.invoke job)
    split <;> exact hSent

theorem beginShutdown :
    (Dispatcher.beginShutdown : Act κ (Option Ticket)).Within Errands := by
  intro w
  simp only [Dispatcher.beginShutdown, Act.left_get_bind]
  split
  · exact .refl
  · exact .single .shutdown

theorem pollInvoke (ticket : Ticket) :
    (Dispatcher.pollInvoke ticket).Within (Errands (κ := κ)) := by
  refine aloof.smooth.within_bind (fun _ => .single (.poll ticket)) fun sent w => ?_
  cases sent with
  | accepted =>
    simp only [Act.left_get_bind]
    split <;> exact .refl
  | full => exact .refl
  | closed => exact .refl

theorem pollShutdown (ticket : Ticket) :
    (Dispatcher.pollShutdown ticket : Act κ (Option (Except DispatchError Unit))).Within
      Errands := by
  refine aloof.smooth.within_bind (fun _ => .single (.poll ticket)) fun sent w => ?_
  split
  · exact .refl
  · simp only [Act.left_get_bind]
    split <;> exact .refl

theorem given {kept : Dispatcher κ → Bool} {act : Act κ α} (h : act.Within Errands) :
    (act.given kept).Within Errands := by
  intro w
  simp only [Act.given, Act.left_get_bind]
  split
  · exact aloof.smooth.within_bind h (fun _ => aloof.smooth.within_pure _) w
  · exact .refl

/-- Whatever a call does with the queue is such an errand. -/
theorem call {env : Surroundings κ} (he : env.Within Errands) (c : Call κ α) :
    (c.run env).Within Errands := by
  have hSame {w v : System κ} (hDispatcher : v.dispatcher = w.dispatcher)
      (hPast : v.past = w.past) :
      Errands w v := aloof.apart (.of_dispatcher hDispatcher (by rw [hPast]))
  cases c with
  | makeSink => exact fun _ => hSame rfl rfl
  | abandonSink sink => exact fun _ => hSame rfl rfl
  | makeHub => exact fun _ => hSame rfl rfl
  | attachHub hub sink => exact aloof.attachTo _ sink
  | detachHub hub sink => exact aloof.detachFrom _ sink
  | clearHub hub => exact fun w => aloof.apart (.updateSource w (.hub hub) Source.clear)
  | fireHub hub event => exact aloof.fireHub he hub event
  | drawId => exact fun _ => hSame rfl rfl
  | makeStream id config bound => exact fun _ => hSame rfl rfl
  | acquire r => exact aloof.acquire r
  | release r => exact aloof.release he r
  | start r => exact aloof.start he r
  | attach r sink => exact aloof.attach r sink
  | detach r sink => exact aloof.detachFrom _ sink
  | receive r event => exact aloof.receive he r event
  | readRange r first stop => exact aloof.readRange he r first stop
  | readRanges r ranges => exact aloof.readRanges he r ranges
  | write r data => exact aloof.write he r data
  | close r => exact aloof.close he r
  | destroy r => exact aloof.destroy he r
  | createStream config => exact given (aloof.createStream he config)
  | openUrl url =>
    refine given fun w => ?_
    rw [Dispatcher.openUrl, Act.left_get_bind]
    exact aloof.createStream he _ w
  | notify id event => exact given (notify id event)
  | beginInvoke job => exact given (beginInvoke job)
  | pollInvoke ticket => exact pollInvoke ticket
  | beginShutdown => exact given beginShutdown
  | pollShutdown ticket => exact pollShutdown ticket
  | giveUp keepNotifier => exact aloof.giveUp he keepNotifier
  | readEvents label => exact fun _ => aloof.apart ⟨rfl, rfl, rfl, rfl, rfl, rfl⟩

variable {look : System κ → κ.Note} {manners : Surroundings κ → Prop}

theorem serves {env : Surroundings κ} (h : env.Serves look manners) : env.Within Errands :=
  h.within (aloof.alone look) fun _ he _ c => call he c

/-- Whatever a client does with the queue is such errands, at any depth of calls. -/
theorem conduct {a : Act κ α} (h : Conduct look (Surroundings.Serves look manners) a) :
    a.Within Errands :=
  h.within (aloof.alone look) fun h _ c => call (serves h) c

end Errands
end HostedStreams
