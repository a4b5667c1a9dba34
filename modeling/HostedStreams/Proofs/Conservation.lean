import HostedStreams.Proofs.Desk
import HostedStreams.Proofs.Queue

/-! No notification is lost on the way, and none is counted twice. Whatever becomes of those that
were accepted, the counts tell it: each of them was dispatched, dropped, or still waits in the
queue, but for the one that the worker is busy with. Each that was refused is counted by the
reason. -/
namespace HostedStreams

variable {κ : Client}

namespace Entry

variable {Note α : Type}

/-- The notification, if the entry is that it was queued. -/
def accepted? : Entry Note → Option (StreamId × Event)
  | .accepted id event => some (id, event)
  | _ => none

/-- The notification, if the entry is that the worker hands it to its stream. -/
def dispatched? : Entry Note → Option (StreamId × Event)
  | .dispatched id event => some (id, event)
  | _ => none

/-- The notification, if the entry is that the worker gives it up. -/
def dropped? : Entry Note → Option (StreamId × Event)
  | .dropped id event => some (id, event)
  | _ => none

/-- The notification, if the entry is what becomes of it. -/
def settled? (e : Entry Note) : Option (StreamId × Event) :=
  e.dispatched?.or e.dropped?

/-- Why a notification was refused, if the entry is that one was. -/
def refused? : Entry Note → Option DispatchError
  | .refused _ _ reason => some reason
  | _ => none

/-- What a history tells, which is written down latest first, in order. -/
def told (f : Entry Note → Option α) (past : List (Entry Note)) : List α :=
  (past.filterMap f).reverse

/-- An entry is told after those that it follows. -/
theorem told_cons (f : Entry Note → Option α) (e : Entry Note) (past : List (Entry Note)) :
    told f (e :: past) = told f past ++ (f e).toList := by
  rw [told, List.filterMap_cons]
  cases f e <;> simp [told]

end Entry

/-- Whether there was no room for the notification. -/
def DispatchError.isFull : DispatchError → Bool
  | .queueFull .. => true
  | _ => false

namespace Desk

/-- The notifications of which it is still to be seen what becomes. -/
def held : Desk κ → List (StreamId × Event)
  | .taken id event => [(id, event)]
  | .leaving rest => rest.filterMap (·.notification?)
  | .clear | .handed _ => []

/-- How many notifications were handed to their streams and are not counted yet. -/
def due : Desk κ → Nat
  | .handed _ => 1
  | .clear | .taken .. | .leaving _ => 0

/-- How many notifications count as queued that are not in the queue any more. -/
def raised : Desk κ → Nat
  | .leaving rest => (rest.filterMap (·.notification?)).length
  | .clear | .taken .. | .handed _ => 0

/-- With how many notifications the worker is busy. -/
def inHand : Desk κ → Nat
  | .taken .. | .handed _ => 1
  | .clear | .leaving _ => 0

end Desk

/-- What changes leaves the queue's line and what is counted of it as they are. -/
structure Dispatcher.Accords (d e : Dispatcher κ) : Prop where
  phase : e.phase = d.phase
  inContext : e.inContext = d.inContext
  notifierHeld : e.notifierHeld = true → d.notifierHeld = true
  queue : e.mailbox.Roomy ∧ e.mailbox.capacity = d.mailbox.capacity ∧
    e.mailbox.queued = d.mailbox.queued
  events : e.metrics.events.total = d.metrics.events.total
  rejected : e.metrics.rejected = d.metrics.rejected
  dropped : e.metrics.dropped = d.metrics.dropped
  depth : e.metrics.queueDepth = d.metrics.queueDepth

/-- What changes beside the queue accords with it. -/
theorem Dispatcher.Beside.accords {d e : Dispatcher κ} (h : d.Beside e) (roomy : d.mailbox.Roomy) :
    d.Accords e where
  phase := h.phase
  inContext := h.inContext
  notifierHeld kept := h.notifierHeld ▸ kept
  queue := by
    rw [h.mailbox]
    exact ⟨roomy, rfl, rfl⟩
  events := by rw [h.events]
  rejected := h.rejected
  dropped := h.dropped
  depth := h.depth

/-- Who serves the dispatcher leaves queue and counts in accord. -/
theorem Dispatcher.Serves.accords {d e : Dispatcher κ} (h : d.Serves e) (roomy : d.mailbox.Roomy) :
    d.Accords e := by
  have same : d.mailbox.Roomy ∧ d.mailbox.capacity = d.mailbox.capacity ∧
    d.mailbox.queued = d.mailbox.queued := ⟨roomy, rfl, rfl⟩
  cases h with
  | invoke ticket job => exact ⟨rfl, rfl, id, roomy.send ticket rfl, rfl, rfl, rfl, rfl⟩
  | shutdown ticket => exact ⟨rfl, rfl, id, roomy.send ticket rfl, rfl, rfl, rfl, rfl⟩
  | poll ticket => exact ⟨rfl, rfl, id, roomy.poll ticket, rfl, rfl, rfl, rfl⟩
  | giveUp keepNotifier =>
    exact ⟨rfl, rfl, fun kept => (Bool.and_eq_true_iff.1 kept).1, same, rfl, rfl, rfl, rfl⟩
  | readEvents label =>
    exact ⟨rfl, rfl, id, same, Samples.total_add label 0 _, rfl, rfl, rfl⟩
  | _ => exact ⟨rfl, rfl, id, same, rfl, rfl, rfl, rfl⟩

/-- The notifications that were accepted, that something became of, and that were refused,
against what the dispatcher counts and holds. -/
structure Dispatcher.Accounts (accepted settled : List (StreamId × Event))
    (refused : List DispatchError) (desk : Desk κ) (d : Dispatcher κ) : Prop where
  /-- What was accepted first is settled first. -/
  line : accepted = settled ++ (desk.held ++ d.mailbox.queued)
  counted : settled.length = d.metrics.events.total + d.metrics.dropped + desk.due
  depth : d.metrics.queueDepth = (d.mailbox.queued.length + desk.raised : Nat)
  refusals : refused.length = d.metrics.rejected.total
  full : refused.countP (·.isFull) = d.metrics.rejected.count "queue_full"
  stopped : refused.count .stopped = d.metrics.rejected.count "stopped"
  sorted : d.metrics.rejected.Sorted
  roomy : d.mailbox.Roomy
  /-- Nobody notifies a dispatcher that was not started. -/
  unstarted : d.phase = .unstarted → d.notifierHeld = false ∧ accepted = [] ∧ refused = []
  /-- The worker is busy only in its own context. -/
  outside : d.inContext = false → desk.inHand = 0
  leaving : ∀ rest, desk = .leaving rest → d.phase = .finishing

namespace Dispatcher.Accounts

variable {accepted settled : List (StreamId × Event)} {refused : List DispatchError}
  {desk : Desk κ} {d e : Dispatcher κ} {id : StreamId} {event : Event}

/-- The accounts hold as long as nothing changes what they speak of. -/
theorem accords (h : d.Accounts accepted settled refused desk) (a : d.Accords e) :
    e.Accounts accepted settled refused desk where
  line := by
    rw [a.queue.2.2]
    exact h.line
  counted := by
    rw [a.events, a.dropped]
    exact h.counted
  depth := by
    rw [a.depth, a.queue.2.2]
    exact h.depth
  refusals := by
    rw [a.rejected]
    exact h.refusals
  full := by
    rw [a.rejected]
    exact h.full
  stopped := by
    rw [a.rejected]
    exact h.stopped
  sorted := by
    rw [a.rejected]
    exact h.sorted
  roomy := a.queue.1
  unstarted hPhase := by
    obtain ⟨hNobody, hNone⟩ := h.unstarted (a.phase ▸ hPhase)
    refine ⟨Bool.eq_false_iff.2 fun kept => ?_, hNone⟩
    rw [a.notifierHeld kept] at hNobody
    cases hNobody
  outside hOutside := h.outside (a.inContext ▸ hOutside)
  leaving rest hRest := a.phase.trans (h.leaving rest hRest)

/-- A notification is queued. -/
theorem accept (h : d.Accounts accepted settled refused desk) {m : Mailbox (Command κ.Job)}
    (kept : d.notifierHeld = true) (sent : d.mailbox.trySend (.notify id event) = (.accepted, m)) :
    Accounts (accepted ++ [(id, event)]) settled refused desk
      { d with mailbox := m, metrics := d.metrics.raiseDepth } := by
  obtain ⟨hRoomy, -, hQueued⟩ := h.roomy.trySend sent
  refine { h with line := ?_, depth := ?_, roomy := hRoomy, unstarted := fun hPhase => ?_ }
  · rw [h.line]
    simp only [hQueued, Command.notification?, Option.toList_some, List.append_assoc]
  · have hDepth := h.depth
    simp only [Metrics.raiseDepth, hQueued, Command.notification?, Option.toList_some,
      List.length_append, List.length_singleton]
    omega
  · rw [(h.unstarted hPhase).1] at kept
    cases kept

/-- A notification is refused, and counted by the reason. -/
theorem refuse (h : d.Accounts accepted settled refused desk) {reason : DispatchError}
    {label : String} (refuses : d.Refuses id reason label) :
    Accounts accepted settled (refused ++ [reason]) desk
      { d with metrics := d.metrics.countRejected label } := by
  have kept : d.notifierHeld = true := by cases refuses <;> assumption
  have hCount := Samples.count_add h.sorted label
  refine { h with
    refusals := ?_, full := ?_, stopped := ?_, sorted := h.sorted.add _ _
    unstarted := fun hPhase => ?_ }
  · rw [List.length_append, h.refusals]
    exact (Samples.total_add label 1 _).symm
  · simp only [Metrics.countRejected, hCount, List.countP_append, h.full, List.countP_singleton]
    cases refuses <;> simp [DispatchError.isFull]
  · simp only [Metrics.countRejected, hCount, List.count_append, h.stopped, List.count_singleton]
    cases refuses <;> simp
  · rw [(h.unstarted hPhase).1] at kept
    cases kept

/-- The context is none of the accounts' concern. -/
theorem context (h : d.Accounts accepted settled refused .clear) (inside : Bool) :
    Accounts accepted settled refused .clear { d with inContext := inside } :=
  { h with outside := fun _ => rfl }

/-- A dispatcher that is started begins with empty accounts. -/
theorem start (h : d.Accounts accepted settled refused .clear)
    (unstarted : d.phase = .unstarted) (capacity : Nat) (defaults : StreamDefaults) :
    Accounts (κ := κ) accepted settled refused .clear
      { phase := .running, mailbox := { capacity }, defaults, held := true
        notifierHeld := true } := by
  obtain ⟨-, rfl, rfl⟩ := h.unstarted unstarted
  have hNothing : settled = [] := by
    have hLine := h.line
    simp_all
  subst hNothing
  exact {
    line := rfl, counted := rfl, depth := rfl, refusals := rfl, full := rfl, stopped := rfl
    sorted := .nil, unstarted := fun _ => (by simp_all), outside := fun _ => rfl
    leaving := fun _ h => (by cases h)
    roomy := ⟨Nat.zero_le _, fun _ hx => absurd hx List.not_mem_nil⟩ }

/-- A command that is no notification is taken out. -/
theorem draw (h : d.Accounts accepted settled refused .clear) {command : Command κ.Job}
    {m : Mailbox (Command κ.Job)} (taken : d.mailbox.receive = some (command, m))
    (other : command.isNotify = false) :
    Accounts accepted settled refused .clear { d with mailbox := m } := by
  obtain ⟨hRoomy, hCapacity, hQueued⟩ := h.roomy.receive taken
  rw [Command.notification?_eq_none.2 other, Option.toList_none, List.nil_append] at hQueued
  exact h.accords
    ⟨rfl, rfl, fun kept => kept, ⟨hRoomy, hCapacity, hQueued.symm⟩, rfl, rfl, rfl, rfl⟩

/-- A notification is taken out and off the gauge. -/
theorem take (h : d.Accounts accepted settled refused .clear) {m : Mailbox (Command κ.Job)}
    (taken : d.mailbox.receive = some (.notify id event, m)) :
    Accounts accepted settled refused (.taken id event)
      { d with mailbox := m, inContext := true, metrics := d.metrics.lowerDepth } := by
  obtain ⟨hRoomy, -, hQueued⟩ := h.roomy.receive taken
  refine { h with
    line := ?_, depth := ?_, roomy := hRoomy, outside := fun h => (by cases h)
    leaving := fun _ h => (by cases h) }
  · rw [h.line, hQueued]
    rfl
  · have hDepth := h.depth
    simp only [hQueued, Command.notification?, Option.toList_some, List.length_append,
      List.length_singleton, Desk.raised] at hDepth ⊢
    simp only [Metrics.lowerDepth]
    omega

/-- A notification that was taken out is settled. -/
theorem drop (h : d.Accounts accepted settled refused (.taken id event)) :
    Accounts accepted (settled ++ [(id, event)]) refused .clear
      { d with metrics := d.metrics.countDropped } := by
  refine { h with
    line := ?_, counted := ?_, outside := fun _ => rfl, leaving := fun _ h => (by cases h) }
  · rw [h.line]
    simp [Desk.held]
  · have hCounted := h.counted
    simp only [List.length_append, List.length_singleton, Metrics.countDropped, Desk.due]
      at hCounted ⊢
    omega

/-- A notification that is handed to its stream is settled before it is counted. -/
theorem hand (h : d.Accounts accepted settled refused (.taken id event)) :
    d.Accounts accepted (settled ++ [(id, event)]) refused (.handed event) := by
  refine { h with
    line := ?_, counted := ?_, outside := fun hOutside => ?_, leaving := fun _ h => (by cases h) }
  · rw [h.line]
    simp [Desk.held]
  · have hCounted := h.counted
    simp only [List.length_append, List.length_singleton, Desk.due] at hCounted ⊢
    omega
  · cases h.outside hOutside

/-- A notification that is counted is off the desk. -/
theorem count (h : d.Accounts accepted settled refused (.handed event)) (label : String) :
    Accounts accepted settled refused .clear { d with metrics := d.metrics.countEvent label } := by
  refine { h with counted := ?_, outside := fun _ => rfl, leaving := fun _ h => (by cases h) }
  have hCounted := h.counted
  have hTotal := Samples.total_add label 1 d.metrics.events
  simp only [Metrics.countEvent, Desk.due] at hCounted hTotal ⊢
  omega

/-- The worker leaves its queue, with what is in it. -/
theorem leave (h : d.Accounts accepted settled refused .clear) :
    Accounts accepted settled refused (.leaving d.mailbox.items)
      { d with phase := .finishing, mailbox := d.mailbox.close } := by
  refine { h with
    line := ?_, depth := ?_, roomy := h.roomy.close, outside := fun _ => rfl
    unstarted := fun h => (by cases h), leaving := fun _ _ => rfl }
  · rw [h.line]
    simp [Desk.held, Mailbox.queued, Mailbox.close]
  · have hDepth := h.depth
    simpa [Desk.raised, Mailbox.queued, Mailbox.close] using hDepth

/-- A notification is given up and off the gauge. -/
theorem giveUp {rest : List (Command κ.Job)}
    (h : d.Accounts accepted settled refused (.leaving (.notify id event :: rest))) :
    Accounts accepted (settled ++ [(id, event)]) refused (.leaving rest)
      { d with metrics := d.metrics.lowerDepth.countDropped } := by
  refine { h with
    line := ?_, counted := ?_, depth := ?_, outside := fun _ => rfl
    leaving := fun _ _ => h.leaving _ rfl }
  · rw [h.line]
    simp [Desk.held, Command.notification?]
  · have hCounted := h.counted
    simp only [List.length_append, List.length_singleton, Metrics.countDropped, Metrics.lowerDepth,
      Desk.due] at hCounted ⊢
    omega
  · have hDepth := h.depth
    simp only [Desk.raised, Command.notification?, List.filterMap_cons, List.length_cons,
      Metrics.countDropped, Metrics.lowerDepth] at hDepth ⊢
    omega

/-- What is no notification is given up uncounted. -/
theorem giveUpOther {command : Command κ.Job} {rest : List (Command κ.Job)}
    (h : d.Accounts accepted settled refused (.leaving (command :: rest)))
    (other : command.notification? = none) :
    d.Accounts accepted settled refused (.leaving rest) := by
  have hSame : (command :: rest).filterMap (·.notification?) = rest.filterMap (·.notification?) :=
    List.filterMap_cons_none other
  refine { h with
    line := ?_, counted := h.counted, depth := ?_, outside := fun _ => rfl
    leaving := fun _ _ => h.leaving _ rfl }
  · rw [h.line, Desk.held, Desk.held, hSame]
  · rw [h.depth, Desk.raised, Desk.raised, hSame]

/-- A queue that is given up holds nothing any more. -/
theorem gaveUp (h : d.Accounts accepted settled refused (.leaving [])) :
    d.Accounts accepted settled refused .clear :=
  { h with outside := fun _ => rfl, leaving := fun _ h => (by cases h) }

/-- The accounts hold after the end of the worker. -/
theorem finished (h : d.Accounts accepted settled refused .clear) :
    Accounts accepted settled refused .clear { d with phase := .finished } :=
  { h with unstarted := fun h => (by cases h), leaving := fun _ h => (by cases h) }

end Dispatcher.Accounts

open Entry (told accepted? dispatched? dropped? settled? refused?)

/-- What is told of notifications against what the dispatcher counts and holds. -/
def System.Accounts (desk : Desk κ) (w : System κ) : Prop :=
  w.dispatcher.Accounts (told accepted? w.past) (told settled? w.past) (told refused? w.past) desk

namespace System.Accounts

variable {desk : Desk κ} {w v : System κ}

theorem outset (client : κ.State) : ({ client } : System κ).Accounts .clear where
  line := rfl
  counted := rfl
  depth := rfl
  refusals := rfl
  full := rfl
  stopped := rfl
  sorted := .nil
  roomy := ⟨Nat.le_refl _, fun _ hx => absurd hx List.not_mem_nil⟩
  unstarted _ := ⟨rfl, rfl, rfl⟩
  outside _ := rfl
  leaving _ h := by cases h

/-- Neither the dispatcher is concerned nor what is told of notifications. -/
theorem of_same (h : w.Accounts desk) (hDispatcher : v.dispatcher = w.dispatcher)
    (hPast : v.past = w.past ∨ ∃ e, v.past = e :: w.past ∧
      e.accepted? = none ∧ e.settled? = none ∧ e.refused? = none) : v.Accounts desk := by
  rw [Accounts, hDispatcher]
  obtain hSame | ⟨e, hNew, hAccepted, hSettled, hRefused⟩ := hPast
  · rw [hSame]
    exact h
  · simp only [hNew, Entry.told_cons, hAccepted, hSettled, hRefused, Option.toList_none,
      List.append_nil]
    exact h

/-- An entry together with what the dispatcher counts because of it. -/
theorem of_record {e : Entry κ.Note} {f : Dispatcher κ → Dispatcher κ}
    (h : (f w.dispatcher).Accounts (told accepted? w.past ++ e.accepted?.toList)
      (told settled? w.past ++ e.settled?.toList) (told refused? w.past ++ e.refused?.toList)
      desk) :
    ((w.record e).updateDispatcher f).Accounts desk := by
  rw [← Entry.told_cons, ← Entry.told_cons, ← Entry.told_cons] at h
  exact h

/-- Passes are none of the accounts' concern. -/
theorem firing (h : w.Accounts desk) {o : Origin} (hFiring : Firing o w v) : v.Accounts desk := by
  refine h.of_same hFiring.dispatcher ?_
  cases hFiring with
  | hand o event a alive attached kept =>
    subst kept
    exact .inr ⟨_, rfl, rfl, rfl, rfl⟩
  | take | tearDown | start => exact .inr ⟨_, rfl, rfl, rfl, rfl⟩
  | prune | clear => exact .inl (by simp)

/-- Nor are steps outside passes in which nothing is refused. -/
theorem quiet {look : System κ → κ.Note} (h : w.Accounts desk) (hQuiet : Quiet look w v)
    (calm : v.dispatcher.metrics.rejected = w.dispatcher.metrics.rejected) : v.Accounts desk := by
  cases hQuiet with
  | accept id event mailbox kept open_ sent =>
    apply of_record
    simpa [accepted?, settled?, dispatched?, dropped?, refused?]
      using Dispatcher.Accounts.accept h kept sent
  | refuse id event reason label =>
    -- Whoever is refused is counted.
    have hTotal := Samples.total_add label 1 w.dispatcher.metrics.rejected
    have calm : w.dispatcher.metrics.rejected.add label 1 = w.dispatcher.metrics.rejected := calm
    rw [calm] at hTotal
    omega
  | serve e serves => exact h.accords (serves.accords h.roomy)
  | note | start | cancel | uncancelled | read | unread | write | abort | answer =>
    exact h.of_same rfl (.inr ⟨_, rfl, rfl, rfl, rfl⟩)
  | hub | attach | detach => exact h.of_same (w.dispatcher_updateSource ..) (.inl (by simp))
  | _ => exact h.of_same rfl (.inl (by simp [System.updateClient, System.updateSink]))

/-- Whatever happens, the accounts are kept. -/
theorem step {look : System κ → κ.Note} {e : Desk κ} (hStep : Handling look (desk, w) (e, v))
    (h : w.Accounts desk) : v.Accounts e := by
  cases hStep with
  | quiet stays hQuiet calm => exact h.quiet hQuiet calm
  | firing d hFiring => exact h.firing hFiring
  | beside d hBeside => exact h.accords (hBeside.accords h.roomy)
  | enlist d w id config => exact h.of_same rfl (.inl rfl)
  | refuse d refuses =>
    apply of_record
    simpa [accepted?, settled?, dispatched?, dropped?, refused?]
      using Dispatcher.Accounts.refuse h refuses
  | context w inside => exact Dispatcher.Accounts.context h inside
  | start unstarted capacity defaults =>
    exact Dispatcher.Accounts.start h unstarted capacity defaults
  | draw taken other => exact Dispatcher.Accounts.draw h taken other
  | take taken => exact Dispatcher.Accounts.take h taken
  | drop event gone =>
    apply of_record
    simpa [accepted?, settled?, dispatched?, dropped?, refused?]
      using Dispatcher.Accounts.drop h
  | hand event running live =>
    apply of_record (f := id)
    simpa [accepted?, settled?, dispatched?, dropped?, refused?]
      using Dispatcher.Accounts.hand h
  | count w event => exact Dispatcher.Accounts.count h _
  | jobBegan | jobEnded => exact h.of_same rfl (.inr ⟨_, rfl, rfl, rfl, rfl⟩)
  | leave w => exact Dispatcher.Accounts.leave h
  | giveUp w command rest =>
    cases command with
    | notify id event =>
      apply of_record (e := .dropped id event)
        (f := fun d => { d with metrics := d.metrics.lowerDepth.countDropped })
      simpa [accepted?, settled?, dispatched?, dropped?, refused?]
        using Dispatcher.Accounts.giveUp h
    | invoke ticket job =>
      have hGivenUp := Dispatcher.Accounts.giveUpOther h rfl
      exact hGivenUp.accords ⟨rfl, rfl, id, ⟨h.roomy, rfl, rfl⟩, rfl, rfl, rfl, rfl⟩
    | shutdown => exact Dispatcher.Accounts.giveUpOther h rfl
  | gaveUp w => exact Dispatcher.Accounts.gaveUp h
  | finished w => exact Dispatcher.Accounts.finished h

end System.Accounts

/-- What the counts tell of notifications, where the worker is busy with so many. -/
structure System.Balanced (inHand : Nat) (w : System κ) : Prop where
  accepted : ((told accepted? w.past).length : Int) =
    w.dispatcher.metrics.events.total + w.dispatcher.metrics.dropped +
      w.dispatcher.metrics.queueDepth + inHand
  depth : w.dispatcher.metrics.queueDepth = w.dispatcher.mailbox.notifications
  bounded : w.dispatcher.mailbox.notifications ≤ w.dispatcher.mailbox.capacity
  full : (told refused? w.past).countP (·.isFull) =
    w.dispatcher.metrics.rejected.count "queue_full"
  stopped : (told refused? w.past).count .stopped =
    w.dispatcher.metrics.rejected.count "stopped"
  refusals : (told refused? w.past).length = w.dispatcher.metrics.rejected.total

/-- What the counts tell follows from the accounts. -/
theorem System.Accounts.balanced {desk : Desk κ} {w : System κ} (h : w.Accounts desk)
    (stays : desk.leaves = false) : w.Balanced desk.inHand where
  accepted := by
    have hLine := congrArg List.length h.line
    have hCounted := h.counted
    have hDepth := h.depth
    have hHand : desk.held.length + desk.due = desk.inHand ∧ desk.raised = 0 := by
      cases desk <;> first | exact ⟨rfl, rfl⟩ | cases stays
    rw [List.length_append, List.length_append] at hLine
    omega
  depth := by
    have hRaised : desk.raised = 0 := by cases desk <;> first | rfl | cases stays
    rw [h.depth, hRaised, Nat.add_zero, Mailbox.length_queued]
  bounded := Mailbox.notifications_le h.roomy
  full := h.full
  stopped := h.stopped
  refusals := h.refusals

/-- The dispatcher was started with the settings, and the run went on to this system. -/
def System.StartedWith (look : System κ → κ.Note) (settings : Settings) (w : System κ) : Prop :=
  ∃ u executor, Reached look Surroundings.any u ∧ u.dispatcher.phase = .unstarted ∧
    ((Dispatcher.start settings executor).on u).1 = .ok (.ok ()) ∧
    Run look Surroundings.any ((Dispatcher.start settings executor).left u) w

/-- A dispatcher that was started is not started again, not even once it has ended, and its queue
keeps its capacity. -/
structure Dispatcher.Lasts (d e : Dispatcher κ) : Prop where
  started : d.phase ≠ .unstarted → e.phase ≠ .unstarted
  ended : d.phase ≠ .unstarted → d.phase ≠ .running → e.phase ≠ .running
  capacity : d.phase ≠ .unstarted → e.mailbox.capacity = d.mailbox.capacity

namespace Dispatcher.Lasts

variable {c d e : Dispatcher κ}

/-- What stays the same lasts. -/
theorem of_eq (h : e = d) : d.Lasts e :=
  ⟨fun started => h ▸ started, fun _ ended => h ▸ ended, fun _ => by rw [h]⟩

/-- What accords lasts. -/
theorem accords (h : d.Accords e) : d.Lasts e :=
  ⟨fun started => h.phase ▸ started, fun _ ended => h.phase ▸ ended, fun _ => h.queue.2.1⟩

/-- The queue is another one with the same capacity. -/
theorem mailbox (hPhase : e.phase = d.phase) (hCapacity : e.mailbox.capacity = d.mailbox.capacity) :
    d.Lasts e :=
  ⟨fun started => hPhase ▸ started, fun _ ended => hPhase ▸ ended, fun _ => hCapacity⟩

theorem trans (first : c.Lasts d) (second : d.Lasts e) : c.Lasts e :=
  ⟨fun started => second.started (first.started started),
    fun started ended => second.ended (first.started started) (first.ended started ended),
    fun started => (second.capacity (first.started started)).trans (first.capacity started)⟩

end Dispatcher.Lasts

/-- What happens to the desk starts no dispatcher that was started. -/
theorem Handling.lasts {look : System κ → κ.Note} {d e : Desk κ} {w v : System κ}
    (h : Handling look (d, w) (e, v)) (accounts : w.Accounts d) :
    w.dispatcher.Lasts v.dispatcher := by
  cases h with
  | quiet stays hQuiet =>
    cases hQuiet with
    | accept id event mailbox kept open_ sent =>
      exact .mailbox rfl (accounts.roomy.trySend sent).2.1
    | serve e serves => exact .accords (serves.accords accounts.roomy)
    | refuse => exact .mailbox rfl rfl
    | hub | attach | detach => exact .of_eq (w.dispatcher_updateSource ..)
    | _ => exact .of_eq rfl
  | firing d hFiring => exact .of_eq hFiring.dispatcher
  | beside d hBeside => exact .accords (hBeside.accords accounts.roomy)
  | start unstarted =>
    exact ⟨absurd unstarted, absurd unstarted, absurd unstarted⟩
  | draw taken | take taken => exact .mailbox rfl (accounts.roomy.receive taken).2.1
  | leave | finished => exact ⟨fun _ h => (by cases h), fun _ _ h => (by cases h), fun _ => rfl⟩
  | giveUp w command rest => cases command <;> exact .mailbox rfl rfl
  | _ => exact .mailbox rfl rfl

/-- Nor does anything that happens one after the other. -/
theorem Handled.lasts {look : System κ → κ.Note} {d : Desk κ} {w : System κ}
    (accounts : w.Accounts d) {b : Desk κ × System κ} (h : Handled look (d, w) b) :
    w.dispatcher.Lasts b.2.dispatcher := by
  suffices hBoth : b.2.Accounts b.1 ∧ w.dispatcher.Lasts b.2.dispatcher from hBoth.2
  induction h with
  | refl => exact ⟨accounts, .of_eq rfl⟩
  | tail _ hStep ih => exact ⟨ih.1.step hStep, ih.2.trans (hStep.lasts ih.1)⟩

/-- The queue has the capacity that was configured. -/
theorem System.StartedWith.capacity {look : System κ → κ.Note} {settings : Settings} {w : System κ}
    (h : w.StartedWith look settings) :
    w.dispatcher.mailbox.capacity = settings.dispatch.queueCapacity.toNat := by
  obtain ⟨u, executor, hReached, unstarted, hStarted, hRun⟩ := h
  have hReached : Reached look Surroundings.any ((Dispatcher.start settings executor).left u) := by
    obtain ⟨client, before⟩ := hReached
    exact ⟨client, before.start unstarted settings executor⟩
  have hAccounts := (hReached.of_handling System.Accounts.outset fun hStep h => h.step hStep).1
  have hLasts := Handled.lasts hAccounts (hReached.handled hRun)
  have hBegun : ((Dispatcher.start settings executor).left u).dispatcher.phase = .running ∧
      ((Dispatcher.start settings executor).left u).dispatcher.mailbox.capacity =
        settings.dispatch.queueCapacity.toNat := by
    simp only [Dispatcher.start] at hStarted ⊢
    split at hStarted
    · cases hStarted
    · split at hStarted
      · cases hStarted
      · split at hStarted
        · cases hStarted
        · rename_i hSome hThere hFits
          rw [if_neg hSome, if_neg hThere, if_neg hFits]
          exact ⟨rfl, rfl⟩
  exact (hLasts.capacity (by simp [hBegun.1])).trans hBegun.2

/-- A call that notifies is written down with its answer. -/
theorem Dispatcher.past_notify (w : System κ) (id : StreamId) (event : Event) :
    ∃ answer, ((Dispatcher.notify id event).on w).1 = .ok answer ∧
      ((Dispatcher.notify id event).left w).past = (match answer with
        | .ok () => .accepted id event
        | .error reason => .refused id event reason) :: w.past := by
  simp only [Dispatcher.notify, Act.on_get_bind, Act.left_get_bind]
  split
  · exact ⟨.error .stopped, rfl, rfl⟩
  · split
    · exact ⟨.ok (), rfl, rfl⟩
    · exact ⟨.error _, rfl, rfl⟩
    · exact ⟨.error .stopped, rfl, rfl⟩

/-- Whatever handlers do and however they end, wherever the worker is between commands each
notification that was accepted was dispatched and counted by its kind, was dropped and counted
so, or waits in the queue, which holds as many as its gauge tells and no more than was
configured; and each one that was refused is counted by the reason. While a client has control
in the midst of a command, the notification that the worker is busy with is yet to be counted.
This is about clients who notify and do not wait for room, as all calls here do: where a client
waits inside a context, by misuse, the gauge counts a notification that nobody has queued. -/
theorem notifications_conserved {look : System κ → κ.Note} {w : System κ}
    (reached : Reached look Surroundings.any w) :
    w.Balanced 0 ∧
    (∀ n, .note n ∈ w.past → ∃ v inHand, look v = n ∧ v.Balanced inHand ∧ inHand ≤ 1 ∧
      (v.dispatcher.inContext = false → inHand = 0)) ∧
    (∀ settings, w.StartedWith look settings →
      w.dispatcher.mailbox.capacity = settings.dispatch.queueCapacity.toNat) ∧
    (∀ v id event, ∃ answer, ((Dispatcher.notify (κ := κ) id event).on v).1 = .ok answer ∧
      ((Dispatcher.notify id event).left v).past = (match answer with
        | .ok () => .accepted id event
        | .error reason => .refused id event reason) :: v.past) := by
  obtain ⟨hHere, hNotes⟩ := reached.of_handling System.Accounts.outset fun hStep h => h.step hStep
  refine ⟨hHere.balanced rfl, fun n hn => ?_, fun _ h => h.capacity, Dispatcher.past_notify⟩
  obtain ⟨desk, v, stays, hAccounts, hLook⟩ := hNotes n hn
  refine ⟨v, desk.inHand, hLook, hAccounts.balanced stays, ?_, hAccounts.outside⟩
  cases desk <;> simp [Desk.inHand]

/-- A dispatcher with room for one notification. A sink panics at the first one, the second one
finds no room, no stream takes the third one, and the fourth one waits when the dispatcher is
told to stop. -/
def crowded : System Client.plain :=
  let before := (Call.each Surroundings.brittle [⟨_, .createStream { url := "" }⟩, ⟨_, .makeSink⟩,
    ⟨_, .attach ⟨0⟩ ⟨0⟩⟩, ⟨_, .notify (.drawn 0) .created⟩,
    ⟨_, .notify (.drawn 0) (.opened {})⟩]).left
      ((Dispatcher.start { dispatch := { queueCapacity := 1 } } true).left { client := () })
  let between := (Call.each Surroundings.brittle [⟨_, .notify (.drawn 1) .created⟩]).left
    ((Worker.step Surroundings.brittle).left before)
  (Call.each Surroundings.brittle [⟨_, .notify (.drawn 0) (.opened {})⟩, ⟨_, .beginShutdown⟩,
    ⟨_, .notify (.drawn 0) (.opened {})⟩]).left ((Worker.step Surroundings.brittle).left between)

/-- The dispatcher is started and notified as runs allow. -/
theorem reached_crowded : Reached (fun _ => ()) Surroundings.any crowded := by
  have serves : Surroundings.brittle.Serves (fun _ => ()) Surroundings.any :=
    Surroundings.serves_brittle trivial
  have hStarted : Reached (fun _ => ()) Surroundings.any
      ((Dispatcher.start { dispatch := { queueCapacity := 1 } } true).left
        ({ client := () } : System Client.plain)) := ⟨(), .start .refl rfl _ true⟩
  exact ((((hStarted.act (.each serves _)).turn serves).act (.each serves _)).turn serves).act
    (.each serves _)

/-- Each of the three that were accepted is accounted for, and so are the two that were refused. -/
theorem notifications_conserved_crowded :
    Reached (fun _ => ()) Surroundings.any crowded ∧ crowded.Balanced 0 ∧
    (told accepted? crowded.past).length = 3 ∧ crowded.dispatcher.metrics.events.total = 1 ∧
    crowded.dispatcher.metrics.dropped = 1 ∧ crowded.dispatcher.mailbox.notifications = 1 ∧
    crowded.dispatcher.metrics.panics = 1 ∧
    crowded.dispatcher.metrics.rejected.count "queue_full" = 1 ∧
    crowded.dispatcher.metrics.rejected.count "stopped" = 1 := by
  refine ⟨reached_crowded, (notifications_conserved reached_crowded).1, ?_⟩
  decide +kernel

end HostedStreams
