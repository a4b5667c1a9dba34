import HostedStreams.Proofs.Steps

/-! The dispatcher's own books. Its gauges tell what its registry and its queue hold, its
queue takes nothing once the worker has left it, and the worker leaves only after the
dispatcher was told to stop or given up. -/
namespace HostedStreams

variable {κ : Client}

namespace Command

variable {Job : Type}

def isNotify : Command Job → Bool
  | .notify .. => true
  | .invoke .. | .shutdown => false

/-- A command that need not be counted, and that ends the worker only where that is told. -/
def Sober (stopped : Bool) (command : Command Job) : Prop :=
  command.isNotify = false ∧ (command = .shutdown → stopped = true)

end Command

namespace Mailbox

variable {Job : Type}

/-- How many notifications the queue holds. -/
def notifications (m : Mailbox (Command Job)) : Nat :=
  m.items.countP (·.isNotify)

/-- What the dispatcher's queue is like: only those wait who notify nobody, the end of the
worker was told before it is queued, and a queue that is closed holds nothing. -/
structure Tidy (stopped : Bool) (m : Mailbox (Command Job)) : Prop where
  waiting : ∀ x ∈ m.waiters, x.item.Sober stopped
  stopping : .shutdown ∈ m.items → stopped = true
  closed : m.isOpen = false → m.items = []

/-- A notification that joins the queue is one more. -/
theorem notifications_push (m : Mailbox (Command Job)) (item : Command Job) :
    (m.push item).notifications = m.notifications + if item.isNotify then 1 else 0 := by
  rw [notifications, push, List.countP_append, List.countP_singleton]
  rfl

/-- A promise changes nothing about what is waited for. -/
theorem item_of_mem_grant {l : List (Waiter (Command Job))} {x : Waiter (Command Job)}
    (h : x ∈ grant l) : ∃ y ∈ l, y.item = x.item := by
  induction l with
  | nil => cases h
  | cons first rest ih =>
    rw [grant] at h
    split at h
    · rcases List.mem_cons.1 h with rfl | hRest
      · exact ⟨_, List.mem_cons_self, rfl⟩
      · obtain ⟨y, hy, hItem⟩ := ih hRest
        exact ⟨y, List.mem_cons_of_mem _ hy, hItem⟩
    · rcases List.mem_cons.1 h with rfl | hRest
      · exact ⟨_, List.mem_cons_self, rfl⟩
      · exact ⟨x, List.mem_cons_of_mem _ hRest, rfl⟩

namespace Tidy

variable {stopped : Bool} {m n : Mailbox (Command Job)}

/-- A queue is as tidy after the end of the worker was told. -/
theorem stop (h : m.Tidy stopped) : m.Tidy true where
  waiting x hx := ⟨(h.waiting x hx).1, fun _ => rfl⟩
  stopping _ := rfl
  closed := h.closed

/-- Only the end of the worker must be told before it is queued. -/
theorem push (h : m.Tidy stopped) {item : Command Job}
    (hItem : item = .shutdown → stopped = true) (hOpen : m.isOpen = true) :
    (m.push item).Tidy stopped where
  waiting := h.waiting
  stopping hMem := by
    rcases List.mem_append.1 hMem with hOld | hNew
    · exact h.stopping hOld
    · exact hItem (List.mem_singleton.1 hNew).symm
  closed hClosed := by
    rw [Mailbox.push, hOpen] at hClosed
    cases hClosed

/-- A command is queued. -/
theorem trySend (h : m.Tidy stopped) {item : Command Job}
    (hItem : item = .shutdown → stopped = true) (hSent : m.trySend item = (.accepted, n)) :
    n.Tidy stopped ∧ n.isOpen = m.isOpen ∧
      n.notifications = m.notifications + if item.isNotify then 1 else 0 := by
  have hOpen : m.isOpen = true := by
    cases hIs : m.isOpen with
    | true => rfl
    | false => simp [Mailbox.trySend, hIs] at hSent
  rw [trySend_accepted hSent]
  exact ⟨h.push hItem hOpen, rfl, notifications_push m item⟩

/-- A command is queued, or waits for room. -/
theorem send (h : m.Tidy stopped) (ticket : Ticket) {item : Command Job}
    (hItem : item.Sober stopped) :
    (m.send ticket item).2.Tidy stopped ∧ (m.send ticket item).2.isOpen = m.isOpen ∧
      (m.send ticket item).2.notifications = m.notifications := by
  unfold Mailbox.send
  split
  · rename_i hFull
    rw [trySend_refused hFull (by simp)]
    refine ⟨⟨fun x hx => ?_, h.stopping, h.closed⟩, rfl, rfl⟩
    rcases List.mem_append.1 hx with hOld | hNew
    · exact h.waiting x hOld
    · rw [List.mem_singleton.1 hNew]
      exact hItem
  · cases hSent : m.trySend item with
    | mk sent n =>
      by_cases hAccepted : sent = .accepted
      · subst hAccepted
        obtain ⟨hTidy, hOpen, hCount⟩ := h.trySend hItem.2 hSent
        rw [hItem.1] at hCount
        exact ⟨hTidy, hOpen, hCount⟩
      · rw [trySend_refused hSent hAccepted]
        exact ⟨h, rfl, rfl⟩

/-- Who waits takes up a promise, or finds the queue closed. -/
theorem poll (h : m.Tidy stopped) (ticket : Ticket) :
    (m.poll ticket).2.Tidy stopped ∧ (m.poll ticket).2.isOpen = m.isOpen ∧
      (m.poll ticket).2.notifications = m.notifications := by
  unfold Mailbox.poll
  split
  · exact ⟨h, rfl, rfl⟩
  · rename_i w hFound
    have hSober := h.waiting w (List.mem_of_find?_eq_some hFound)
    have hOthers : Tidy stopped { m with waiters := m.waiters.filter (·.ticket != ticket) } :=
      ⟨fun x hx => h.waiting x (List.mem_filter.1 hx).1, h.stopping, h.closed⟩
    split
    · exact ⟨hOthers, rfl, rfl⟩
    · rename_i hOpen
      split
      · refine ⟨hOthers.push hSober.2 (by simpa using hOpen), rfl, ?_⟩
        rw [notifications_push, hSober.1]
        rfl
      · exact ⟨h, rfl, rfl⟩

/-- The oldest command is taken out. -/
theorem receive (h : m.Tidy stopped) {item : Command Job} (hTaken : m.receive = some (item, n)) :
    n.Tidy stopped ∧ n.isOpen = m.isOpen ∧
      m.notifications = n.notifications + (if item.isNotify then 1 else 0) ∧
      (item = .shutdown → stopped = true) := by
  have hItems := items_of_receive hTaken
  unfold Mailbox.receive at hTaken
  split at hTaken
  · cases hTaken
  · cases hTaken
    refine ⟨⟨fun x hx => ?_, fun hMem => ?_, fun hClosed => ?_⟩, rfl, ?_, ?_⟩
    · obtain ⟨y, hy, hItem⟩ := item_of_mem_grant hx
      exact hItem ▸ h.waiting y hy
    · exact h.stopping (hItems ▸ List.mem_cons_of_mem _ hMem)
    · rw [h.closed hClosed] at hItems
      cases hItems
    · rw [notifications, hItems, List.countP_cons]
      rfl
    · rintro rfl
      exact h.stopping (hItems ▸ List.mem_cons_self)

end Tidy
end Mailbox
namespace Dispatcher

/-- The dispatcher's books. So many notifications were taken from the queue or given up
and are not counted yet. -/
structure Ledger (uncounted : Nat) (d : Dispatcher κ) : Prop where
  gauge : d.metrics.activeStreams = d.registry.length
  depth : d.metrics.queueDepth = (d.mailbox.notifications + uncounted : Nat)
  tidy : d.mailbox.Tidy d.stopped
  shut : d.phase ≠ .running → d.mailbox.isOpen = false
  made : d.held = true → d.phase ≠ .unstarted
  /-- The worker does not leave while the dispatcher can still be used. -/
  leaving : d.phase = .finishing ∨ d.phase = .finished → d.stopped = true ∨ d.held = false
  empty : d.phase = .unstarted ∨ d.phase = .finished → d.registry = []
  uncancelled : d.phase ≠ .cancelled
  distinct : (d.registry.map (·.1)).Nodup

/-- The part of the dispatcher that the worker alone changes is as it was. -/
structure Rests (d e : Dispatcher κ) : Prop where
  phase : e.phase = d.phase
  registry : e.registry = d.registry

namespace Ledger

variable {uncounted : Nat} {d e : Dispatcher κ}

theorem outset : Ledger 0 ({} : Dispatcher κ) where
  gauge := rfl
  depth := rfl
  tidy := ⟨fun _ h => absurd h List.not_mem_nil, fun h => absurd h List.not_mem_nil, fun _ => rfl⟩
  shut _ := rfl
  made h := by cases h
  leaving h := by rcases h with h | h <;> cases h
  empty _ := rfl
  uncancelled h := by cases h
  distinct := List.nodup_nil

/-- A dispatcher whose worker does not work has nothing registered. -/
theorem registry_of_idle (h : d.Ledger uncounted) (idle : d.phase.working = false) :
    d.registry = [] := by
  apply h.empty
  cases hPhase : d.phase with
  | unstarted => exact .inl rfl
  | finished => exact .inr rfl
  | cancelled => exact absurd hPhase h.uncancelled
  | running | finishing => simp [hPhase, Phase.working] at idle

/-- A change of the queue that queues no notification. -/
theorem mailbox (h : d.Ledger uncounted) {m : Mailbox (Command κ.Job)}
    (hm : m.Tidy d.stopped ∧ m.isOpen = d.mailbox.isOpen ∧
      m.notifications = d.mailbox.notifications) :
    Ledger uncounted { d with mailbox := m } where
  gauge := h.gauge
  depth := by
    rw [hm.2.2]
    exact h.depth
  tidy := hm.1
  shut hPhase := hm.2.1.trans (h.shut hPhase)
  made := h.made
  leaving := h.leaving
  empty := h.empty
  uncancelled := h.uncancelled
  distinct := h.distinct

/-- A change of the counts that are neither of the gauges. -/
theorem metrics (h : d.Ledger uncounted) {m : Metrics}
    (hActive : m.activeStreams = d.metrics.activeStreams)
    (hDepth : m.queueDepth = d.metrics.queueDepth) :
    Ledger uncounted { d with metrics := m } where
  gauge := hActive.trans h.gauge
  depth := hDepth.trans h.depth
  tidy := h.tidy
  shut := h.shut
  made := h.made
  leaving := h.leaving
  empty := h.empty
  uncancelled := h.uncancelled
  distinct := h.distinct

/-- A change beside the books. -/
theorem aside (h : d.Ledger uncounted) (a : d.Aside e) : e.Ledger uncounted ∧ d.Rests e where
  left := {
    gauge := by rw [a.active, a.registry]; exact h.gauge
    depth := by rw [a.depth, a.mailbox]; exact h.depth
    tidy := by rw [a.mailbox, a.stopped]; exact h.tidy
    shut := by rw [a.phase, a.mailbox]; exact h.shut
    made := by rw [a.held, a.phase]; exact h.made
    leaving := by rw [a.phase, a.stopped, a.held]; exact h.leaving
    empty := by rw [a.phase, a.registry]; exact h.empty
    uncancelled := by rw [a.phase]; exact h.uncancelled
    distinct := by rw [a.registry]; exact h.distinct }
  right := ⟨a.phase, a.registry⟩

/-- What others ask of the dispatcher leaves its books in order and its registry alone. -/
theorem serves (h : d.Ledger uncounted) (hServes : d.Serves e) :
    e.Ledger uncounted ∧ d.Rests e := by
  cases hServes with
  | drawTicket => exact ⟨{ h with }, rfl, rfl⟩
  | invoke ticket job => exact ⟨h.mailbox (h.tidy.send ticket ⟨rfl, fun h => by cases h⟩), rfl, rfl⟩
  | stop =>
    exact ⟨{ h with tidy := h.tidy.stop, leaving := fun _ => .inl rfl }, rfl, rfl⟩
  | shutdown ticket stopped =>
    exact ⟨h.mailbox (h.tidy.send ticket ⟨rfl, fun _ => stopped⟩), rfl, rfl⟩
  | schedule id running => exact ⟨{ h with }, rfl, rfl⟩
  | poll ticket => exact ⟨h.mailbox (h.tidy.poll ticket), rfl, rfl⟩
  | giveUp keepNotifier =>
    exact ⟨{ h with made := fun h => (by cases h), leaving := fun _ => .inr rfl }, rfl, rfl⟩
  | abandon idle =>
    have hEmpty := h.registry_of_idle idle
    refine ⟨{ h with gauge := ?_, empty := fun _ => rfl, distinct := List.nodup_nil }, rfl, ?_⟩
    · rw [h.gauge, hEmpty]
    · exact hEmpty.symm
  | readEvents label => exact ⟨h.metrics rfl rfl, rfl, rfl⟩

/-- A notification is queued and counted. -/
theorem accept (h : d.Ledger uncounted) {id : StreamId} {event : Event}
    {m : Mailbox (Command κ.Job)} (sent : d.mailbox.trySend (.notify id event) = (.accepted, m)) :
    Ledger uncounted { d with mailbox := m, metrics := d.metrics.raiseDepth } := by
  obtain ⟨hTidy, hOpen, hCount⟩ := h.tidy.trySend (fun h => by cases h) sent
  refine { h with tidy := hTidy, shut := fun hPhase => hOpen.trans (h.shut hPhase), depth := ?_ }
  have hDepth := h.depth
  simp only [Metrics.raiseDepth, hCount, Command.isNotify, if_true]
  omega

/-- The registry is changed, and the gauge with it. -/
theorem setRegistry (h : d.Ledger uncounted) {registry : List (StreamId × StreamRef)}
    (hEmpty : d.phase = .unstarted ∨ d.phase = .finished → registry = [])
    (hDistinct : (registry.map (·.1)).Nodup) : (d.setRegistry registry).Ledger uncounted :=
  { h with gauge := rfl, empty := hEmpty, distinct := hDistinct }

/-- The dispatcher is started. -/
theorem started (capacity : Nat) (defaults : StreamDefaults) : Ledger (κ := κ) 0
    { phase := .running, mailbox := { capacity }, defaults, held := true
      notifierHeld := true } where
  gauge := rfl
  depth := rfl
  tidy := ⟨fun _ h => absurd h List.not_mem_nil, fun h => absurd h List.not_mem_nil, fun _ => rfl⟩
  shut h := absurd rfl h
  made _ := by simp
  leaving h := by rcases h with h | h <;> cases h
  empty _ := rfl
  uncancelled := by simp
  distinct := List.nodup_nil

/-- The oldest command is taken out. A notification is not counted yet. -/
theorem receive (h : d.Ledger uncounted) {command : Command κ.Job} {m : Mailbox (Command κ.Job)}
    (hTaken : d.mailbox.receive = some (command, m)) :
    Ledger (uncounted + if command.isNotify then 1 else 0) { d with mailbox := m } := by
  obtain ⟨hTidy, hOpen, hCount, -⟩ := h.tidy.receive hTaken
  refine { h with tidy := hTidy, shut := fun hPhase => hOpen.trans (h.shut hPhase), depth := ?_ }
  have hDepth := h.depth
  rw [hCount] at hDepth
  simp only [hDepth]
  omega

/-- A notification that was taken out is counted. -/
theorem lower (h : d.Ledger (uncounted + 1)) :
    Ledger uncounted { d with metrics := d.metrics.lowerDepth } := by
  refine { h with depth := ?_ }
  have hDepth := h.depth
  simp only [Metrics.lowerDepth, hDepth]
  omega

/-- The worker leaves its queue to itself. Nothing that waits in it is counted any more. -/
theorem leave (h : d.Ledger 0) (hEnd : d.stopped = true ∨ d.held = false) :
    Ledger d.mailbox.notifications { d with phase := .finishing, mailbox := d.mailbox.close } where
  gauge := h.gauge
  depth := by
    have hDepth := h.depth
    simpa [Mailbox.close, Mailbox.notifications] using hDepth
  tidy := ⟨h.tidy.waiting, fun hMem => absurd hMem List.not_mem_nil, fun _ => rfl⟩
  shut _ := rfl
  made _ := by simp
  leaving _ := hEnd
  empty hIdle := by rcases hIdle with hIdle | hIdle <;> cases hIdle
  uncancelled := by simp
  distinct := h.distinct

/-- The worker has ended. -/
theorem finish (h : d.Ledger 0) (hPhase : d.phase = .finishing) (hEmpty : d.registry = []) :
    Ledger 0 { d with phase := .finished } where
  gauge := h.gauge
  depth := h.depth
  tidy := h.tidy
  shut _ := h.shut (by simp [hPhase])
  made _ := by simp
  leaving _ := h.leaving (.inl hPhase)
  empty _ := hEmpty
  uncancelled := by simp
  distinct := h.distinct

end Ledger
end Dispatcher
end HostedStreams
