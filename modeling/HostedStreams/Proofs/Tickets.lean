import HostedStreams.Proofs.Errands

/-! Tickets. Each is drawn once and is in one place: with a job in the queue, with one who waits for
room, or spent on a job that has begun or was answered. Nothing that is done outside the worker
changes that, and no job loses its place while the queue is open. -/
namespace HostedStreams

variable {κ : Client}

/-- The ticket, if the command is a job. -/
def Command.ticket? {Job : Type} : Command Job → Option Ticket
  | .invoke ticket _ => some ticket
  | .notify .. | .shutdown => none

namespace Mailbox

variable {Job : Type} {m n : Mailbox (Command Job)} {item : Command Job} {ticket : Ticket}

/-- The tickets of the jobs in the queue and of those who wait for room. -/
def places (m : Mailbox (Command Job)) : List Ticket :=
  m.items.filterMap (·.ticket?) ++ m.waiters.map (·.ticket)

/-- No ticket has two places, and who waits with a job waits under the job's ticket. -/
structure Placed (m : Mailbox (Command Job)) : Prop where
  distinct : m.places.Nodup
  own : ∀ x ∈ m.waiters, ∀ t ∈ x.item.ticket?, t = x.ticket

/-- The job has a place: it is in the queue, or somebody waits with it. -/
def Awaits (m : Mailbox (Command Job)) (ticket : Ticket) (job : Job) : Prop :=
  .invoke ticket job ∈ m.items ∨ ∃ x ∈ m.waiters, x.ticket = ticket ∧ x.item = .invoke ticket job

/-- A job that has a place has a ticket with a place. -/
theorem Awaits.mem_places {job : Job} (h : m.Awaits ticket job) : ticket ∈ m.places := by
  rcases h with hItem | ⟨x, hx, rfl, -⟩
  · exact List.mem_append_left _ (List.mem_filterMap.2 ⟨_, hItem, rfl⟩)
  · exact List.mem_append_right _ (List.mem_map_of_mem hx)

/-- What joins the queue takes its place behind all others in it. -/
theorem places_push (m : Mailbox (Command Job)) (item : Command Job) :
    (m.push item).places =
      m.items.filterMap (·.ticket?) ++ item.ticket?.toList ++ m.waiters.map (·.ticket) := by
  rw [places, push, List.filterMap_append]
  cases item <;> rfl

/-- No ticket gets a place in the queue but that of what joins it. -/
theorem mem_places_push {t : Ticket} (h : t ∈ (m.push item).places) :
    t ∈ m.places ∨ item.ticket? = some t := by
  rw [places_push] at h
  rcases List.mem_append.1 h with hItems | hWaiters
  · exact (List.mem_append.1 hItems).imp (List.mem_append_left _) Option.mem_toList.1
  · exact .inl (List.mem_append_right _ hWaiters)

/-- A command is refused by a closed queue, is queued, or waits for room. -/
theorem send_cases (m : Mailbox (Command Job)) (ticket : Ticket) (item : Command Job) :
    m.send ticket item = (.closed, m) ∨ m.isOpen = true ∧
      (m.send ticket item = (.accepted, m.push item) ∨
        m.send ticket item = (.full, { m with waiters := m.waiters ++ [{ ticket, item }] })) := by
  unfold Mailbox.send Mailbox.trySend
  cases hOpen : m.isOpen with
  | false => exact .inl rfl
  | true =>
    right
    by_cases hRoom : m.room = 0
    · simp [hRoom, hOpen]
    · simp [hRoom]

/-- Nothing comes of asking, or one who waited finds the queue closed, or has found a place. -/
theorem poll_cases (m : Mailbox (Command Job)) (ticket : Ticket) :
    (m.poll ticket).2 = m ∨ ∃ x, m.waiters.find? (·.ticket == ticket) = some x ∧
      (m.isOpen = false ∧
          m.poll ticket = (.closed, { m with waiters := m.waiters.filter (·.ticket != ticket) }) ∨
        m.isOpen = true ∧ m.poll ticket =
          (.accepted,
            push x.item { m with waiters := m.waiters.filter (·.ticket != ticket) })) := by
  unfold Mailbox.poll
  cases m.waiters.find? (·.ticket == ticket) with
  | none => exact .inl rfl
  | some x =>
    cases hOpen : m.isOpen with
    | false => exact .inr ⟨x, rfl, .inl ⟨rfl, rfl⟩⟩
    | true =>
      cases hGranted : x.granted with
      | false => left; simp [hGranted]
      | true => right; simp [hGranted]

/-- Who is promised room keeps what was waited with. -/
theorem map_grant {α : Type} {f : Waiter (Command Job) → α}
    (h : ∀ x, f { x with granted := true } = f x) (l : List (Waiter (Command Job))) :
    (grant l).map f = l.map f := by
  induction l with
  | nil => rfl
  | cons x rest ih =>
    rw [grant]
    split
    · rw [List.map_cons, ih, List.map_cons]
    · rw [List.map_cons, h, List.map_cons]

namespace Placed

/-- What is put into the queue has a ticket that has no place, if it has any. -/
theorem push (h : m.Placed) (new : ∀ t ∈ item.ticket?, t ∉ m.places) : (m.push item).Placed := by
  refine ⟨?_, h.own⟩
  rw [places_push, List.append_assoc]
  have hDistinct := h.distinct
  cases hTicket : item.ticket? with
  | none => exact hDistinct
  | some t => exact (List.nodup_middle.2 (List.nodup_cons.2 ⟨new t (by simp [hTicket]), hDistinct⟩))

/-- A command under a ticket that has no place is queued, waits for room, or is refused. -/
theorem send (h : m.Placed) (new : ticket ∉ m.places) (own : ∀ t ∈ item.ticket?, t = ticket) :
    (m.send ticket item).2.Placed := by
  rcases m.send_cases ticket item with hSent | ⟨-, hSent | hSent⟩ <;> rw [hSent]
  · exact h
  · exact h.push fun t ht => own t ht ▸ new
  · refine ⟨?_, fun x hx => ?_⟩
    · rw [places, List.map_append, ← List.append_assoc, List.map_singleton]
      exact List.nodup_append.2 ⟨h.distinct, List.nodup_singleton _, by
        rintro t ht _ hSame rfl
        rw [List.mem_singleton.1 hSame] at ht
        exact new ht⟩
    · rcases List.mem_append.1 hx with hOld | hNew
      · exact h.own x hOld
      · rw [List.mem_singleton.1 hNew]
        exact own

end Placed

/-- No ticket gets a place but that of what is sent. -/
theorem mem_places_send {t : Ticket} (own : ∀ t ∈ item.ticket?, t = ticket)
    (h : t ∈ (m.send ticket item).2.places) : t ∈ m.places ∨ t = ticket := by
  rcases m.send_cases ticket item with hSent | ⟨-, hSent | hSent⟩ <;> rw [hSent] at h
  · exact .inl h
  · exact (mem_places_push h).imp_right (own t)
  · rw [places, List.map_append, ← List.append_assoc] at h
    exact (List.mem_append.1 h).imp_right List.mem_singleton.1

/-- What was waited with under the ticket, and the queue without the one who waited. -/
theorem Placed.find? (h : m.Placed) {x : Waiter (Command Job)}
    (found : m.waiters.find? (·.ticket == ticket) = some x) :
    Placed { m with waiters := m.waiters.filter (·.ticket != ticket) } ∧
      ∀ t ∈ x.item.ticket?, t ∉ Mailbox.places
        { m with waiters := m.waiters.filter (·.ticket != ticket) } := by
  have hMem := List.mem_of_find?_eq_some found
  have hTicket : x.ticket = ticket := by simpa using List.find?_some found
  have hFewer : ((m.waiters.filter (·.ticket != ticket)).map (·.ticket)).Sublist
      (m.waiters.map (·.ticket)) := List.filter_sublist.map _
  refine ⟨⟨h.distinct.sublist (hFewer.append_left _), fun y hy => h.own y (List.mem_filter.1 hy).1⟩,
    fun t ht hPlace => ?_⟩
  obtain rfl := h.own x hMem t ht
  rcases List.mem_append.1 hPlace with hItem | hWaiter
  · exact (List.nodup_append.1 h.distinct).2.2 _ hItem _ (List.mem_map_of_mem hMem) rfl
  · obtain ⟨y, hy, hSame⟩ := List.mem_map.1 hWaiter
    have hOther := (List.mem_filter.1 hy).2
    rw [hSame, hTicket] at hOther
    simp at hOther

/-- Places stay apart when somebody looks after what waits. -/
theorem Placed.poll (h : m.Placed) (ticket : Ticket) : (m.poll ticket).2.Placed := by
  rcases m.poll_cases ticket with hSame | ⟨x, found, ⟨-, hPoll⟩ | ⟨-, hPoll⟩⟩
  · rwa [hSame]
  · rw [hPoll]
    exact (h.find? found).1
  · rw [hPoll]
    exact (h.find? found).1.push (h.find? found).2

/-- Who looks after what waits gets no new place. -/
theorem mem_places_poll (h : m.Placed) {ticket t : Ticket} (ht : t ∈ (m.poll ticket).2.places) :
    t ∈ m.places := by
  have hOthers {t : Ticket} (ht : t ∈ Mailbox.places
      { m with waiters := m.waiters.filter (·.ticket != ticket) }) : t ∈ m.places :=
    ((List.filter_sublist.map _).append_left _).subset ht
  rcases m.poll_cases ticket with hSame | ⟨x, found, ⟨-, hPoll⟩ | ⟨-, hPoll⟩⟩
  · rwa [hSame] at ht
  · rw [hPoll] at ht
    exact hOthers ht
  · rw [hPoll] at ht
    rcases mem_places_push ht with hOld | hNew
    · exact hOthers hOld
    · have hMem := List.mem_of_find?_eq_some found
      rw [h.own x hMem t hNew]
      exact List.mem_append_right _ (List.mem_map_of_mem hMem)

/-- Those who wait still wait with what they waited with when a command is taken out. -/
theorem waiting_of_receive (taken : m.receive = some (item, n)) :
    n.waiters.map (fun x => (x.ticket, x.item)) = m.waiters.map fun x => (x.ticket, x.item) := by
  unfold Mailbox.receive at taken
  split at taken
  · cases taken
  · cases taken
    exact map_grant (fun _ => rfl) m.waiters

/-- The oldest command leaves its place. -/
theorem places_of_receive (taken : m.receive = some (item, n)) :
    m.places = item.ticket?.toList ++ n.places := by
  have hTickets : n.waiters.map (·.ticket) = m.waiters.map (·.ticket) := by
    have hPairs := congrArg (List.map Prod.fst) (waiting_of_receive taken)
    rwa [List.map_map, List.map_map] at hPairs
  rw [places, items_of_receive taken, places, hTickets]
  cases item <;> rfl

/-- Places stay apart when the worker takes something out. -/
theorem Placed.receive (h : m.Placed) (taken : m.receive = some (item, n)) : n.Placed := by
  have hDistinct := h.distinct
  rw [places_of_receive taken] at hDistinct
  refine ⟨(List.nodup_append.1 hDistinct).2.1, fun x hx => ?_⟩
  have hMem := List.mem_map_of_mem (f := fun x => (x.ticket, x.item)) hx
  rw [waiting_of_receive taken] at hMem
  obtain ⟨y, hy, hSame⟩ := List.mem_map.1 hMem
  obtain ⟨hTicket, hItem⟩ := Prod.mk.inj hSame
  rw [← hTicket, ← hItem]
  exact h.own y hy

/-- Places stay apart when the queue is closed. -/
theorem Placed.close (h : m.Placed) : m.close.Placed :=
  ⟨h.distinct.sublist (List.sublist_append_right _ _), h.own⟩

namespace Awaits

variable {job : Job}

/-- A job keeps its place when something joins the queue. -/
theorem push (h : m.Awaits ticket job) (item : Command Job) : (m.push item).Awaits ticket job :=
  h.imp_left fun hItem => List.mem_append_left _ hItem

/-- A job keeps its place when something is sent. -/
theorem send (h : m.Awaits ticket job) (other : Ticket) (item : Command Job) :
    (m.send other item).2.Awaits ticket job := by
  rcases m.send_cases other item with hSent | ⟨-, hSent | hSent⟩ <;> rw [hSent]
  · exact h
  · exact h.push item
  · exact h.imp_right fun ⟨x, hx, hSame⟩ => ⟨x, List.mem_append_left _ hx, hSame⟩

/-- Who waits keeps the place, or takes up the promise of another one, as long as the queue is
open. -/
theorem poll (h : m.Awaits ticket job) (hm : m.Placed) (isOpen : m.isOpen = true) (other : Ticket) :
    (m.poll other).2.Awaits ticket job := by
  rcases m.poll_cases other with hSame | ⟨x, found, ⟨hClosed, -⟩ | ⟨-, hPoll⟩⟩
  · rwa [hSame]
  · rw [isOpen] at hClosed
    cases hClosed
  · rw [hPoll]
    by_cases hOther : other = ticket
    · subst hOther
      rcases h with hItem | ⟨y, hy, hTicket, hSame⟩
      · exact .inl (List.mem_append_left _ hItem)
      · -- The one who waits under the ticket is the only one who does.
        have hDistinct := (List.nodup_append.1 hm.distinct).2.1
        have hx : x.ticket = other := by simpa using List.find?_some found
        obtain rfl := List.inj_on_of_nodup_map hDistinct hy (List.mem_of_find?_eq_some found)
          (hTicket.trans hx.symm)
        exact .inl (List.mem_append_right _ (by simp [hSame]))
    · have hStill : Mailbox.Awaits { m with waiters := m.waiters.filter (·.ticket != other) }
          ticket job := h.imp_right fun ⟨y, hy, hTicket, hSame⟩ =>
        ⟨y, List.mem_filter.2 ⟨hy, by simp [hTicket, Ne.symm hOther]⟩, hTicket, hSame⟩
      exact hStill.push x.item

/-- The job keeps its place when another command is taken out. -/
theorem receive (h : m.Awaits ticket job) (taken : m.receive = some (item, n))
    (other : item ≠ .invoke ticket job) : n.Awaits ticket job := by
  rcases h with hItem | ⟨x, hx, hTicket, hSame⟩
  · rw [items_of_receive taken] at hItem
    exact .inl ((List.mem_cons.1 hItem).resolve_left other.symm)
  · have hMem := List.mem_map_of_mem (f := fun x => (x.ticket, x.item)) hx
    rw [← waiting_of_receive taken] at hMem
    obtain ⟨y, hy, hPair⟩ := List.mem_map.1 hMem
    obtain ⟨hy1, hy2⟩ := Prod.mk.inj hPair
    exact .inr ⟨y, hy, hy1.trans hTicket, hy2.trans hSame⟩

end Awaits
end Mailbox

/-- Whether the entry tells that the job under the ticket begins. -/
def Entry.begins {Note : Type} (ticket : Ticket) : Entry Note → Bool
  | .jobBegan other => other = ticket
  | _ => false

namespace System

variable {w v : System κ}

/-- How often the job under the ticket has begun. -/
def begun (w : System κ) (ticket : Ticket) : Nat :=
  w.past.countP (·.begins ticket)

/-- The ticket is spent: its job has begun, or was answered or given up. -/
def Spent (w : System κ) (ticket : Ticket) : Prop :=
  0 < w.begun ticket ∨ ∃ answer, (ticket, answer) ∈ w.dispatcher.replies

/-- Tickets are drawn once, have one place each, and none any more once they are spent. No job
begins twice. -/
structure Numbered (w : System κ) : Prop where
  placed : w.dispatcher.mailbox.Placed
  drawn : ∀ t ∈ w.dispatcher.mailbox.places, t.number < w.dispatcher.nextTicket
  spent : ∀ t, w.Spent t → t.number < w.dispatcher.nextTicket ∧ t ∉ w.dispatcher.mailbox.places
  once : ∀ t, w.begun t ≤ 1
  unstarted : w.dispatcher.phase = .unstarted → ∀ t, w.begun t = 0

/-- What is done with the queue outside the worker leaves the worker's part of it alone. -/
structure Continues (w v : System κ) : Prop where
  phase : v.dispatcher.phase = w.dispatcher.phase
  isOpen : v.dispatcher.mailbox.isOpen = w.dispatcher.mailbox.isOpen
  replies : v.dispatcher.replies = w.dispatcher.replies
  stopped : w.dispatcher.stopped = true → v.dispatcher.stopped = true
  begun : ∀ t, v.begun t = w.begun t

/-- Only an entry that tells of the beginning counts as one. -/
theorem begun_record (w : System κ) (e : Entry κ.Note) (ticket : Ticket) :
    (w.record e).begun ticket = w.begun ticket + if e.begins ticket then 1 else 0 := by
  rw [begun, record, List.countP_cons, begun]

/-- No job begins where the line of entries is the same. -/
theorem begun_of_line (h : v.past.filter (·.queueing) = w.past.filter (·.queueing))
    (ticket : Ticket) : v.begun ticket = w.begun ticket := by
  have hAmong (u : System κ) : u.begun ticket =
      (u.past.filter (·.queueing)).countP (·.begins ticket) := by
    rw [begun, List.countP_filter]
    congr 1
    funext e
    cases e <;> simp [Entry.begins, Entry.queueing]
  rw [hAmong, h, ← hAmong]

/-- An errand leaves the worker's part of the queue alone. -/
theorem Continues.of_errand (h : Errand w v) : w.Continues v := by
  have hSend (ticket : Ticket) (command : Command κ.Job) :
      (w.dispatcher.mailbox.send ticket command).2.isOpen = w.dispatcher.mailbox.isOpen := by
    rcases w.dispatcher.mailbox.send_cases ticket command with hSent | ⟨-, hSent | hSent⟩ <;>
      rw [hSent]
    rfl
  cases h with
  | apart h =>
    exact ⟨h.phase, by rw [h.mailbox], h.replies, fun hStopped => by rw [h.stopped, hStopped],
      begun_of_line h.line⟩
  | accept id event sent =>
    obtain rfl := Mailbox.trySend_accepted sent
    exact ⟨rfl, rfl, rfl, fun hStopped => hStopped, fun t => begun_record ..⟩
  | invoke job => exact ⟨rfl, hSend _ _, rfl, fun hStopped => hStopped, fun _ => rfl⟩
  | shutdown => exact ⟨rfl, hSend _ _, rfl, fun _ => rfl, fun _ => rfl⟩
  | poll ticket =>
    refine ⟨rfl, ?_, rfl, fun hStopped => hStopped, fun _ => rfl⟩
    change (w.dispatcher.mailbox.poll ticket).2.isOpen = _
    rcases w.dispatcher.mailbox.poll_cases ticket with hSame | ⟨x, -, ⟨-, hPoll⟩ | ⟨-, hPoll⟩⟩
    · rw [hSame]
    · rw [hPoll]
    · rw [hPoll]
      rfl

/-- So do any number of errands. -/
theorem Continues.of_errands (h : Errands w v) : w.Continues v := by
  induction h with
  | refl => exact ⟨rfl, rfl, rfl, fun h => h, fun _ => rfl⟩
  | tail _ errand ih =>
    have hLast := of_errand errand
    exact ⟨hLast.phase.trans ih.phase, hLast.isOpen.trans ih.isOpen, hLast.replies.trans ih.replies,
      fun h => hLast.stopped (ih.stopped h), fun t => (hLast.begun t).trans (ih.begun t)⟩

namespace Numbered

theorem outset (client : κ.State) : ({ client } : System κ).Numbered where
  placed := ⟨List.nodup_nil, fun _ h => absurd h List.not_mem_nil⟩
  drawn _ h := absurd h List.not_mem_nil
  spent t h := by
    rcases h with h | ⟨_, h⟩
    · exact absurd h (Nat.lt_irrefl 0)
    · cases h
  once _ := Nat.zero_le 1
  unstarted _ _ := rfl

/-- What has become of the queue leaves tickets in order if it leaves spent ones alone. -/
theorem of_mailbox (h : w.Numbered) (continues : w.Continues v)
    (nextTicket : w.dispatcher.nextTicket ≤ v.dispatcher.nextTicket)
    (placed : v.dispatcher.mailbox.Placed)
    (places : ∀ t ∈ v.dispatcher.mailbox.places, t ∈ w.dispatcher.mailbox.places ∨
      t.number = w.dispatcher.nextTicket ∧ t.number < v.dispatcher.nextTicket) : v.Numbered where
  placed := placed
  drawn t ht := by
    rcases places t ht with hOld | ⟨-, hNew⟩
    · exact Nat.lt_of_lt_of_le (h.drawn t hOld) nextTicket
    · exact hNew
  spent t ht := by
    rw [Spent, continues.begun, continues.replies] at ht
    obtain ⟨hLess, hOut⟩ := h.spent t ht
    refine ⟨Nat.lt_of_lt_of_le hLess nextTicket, fun hPlace => ?_⟩
    rcases places t hPlace with hOld | ⟨hSame, -⟩
    · exact hOut hOld
    · exact absurd hSame (Nat.ne_of_lt hLess)
  once t := continues.begun t ▸ h.once t
  unstarted hPhase t :=
    (continues.begun t).trans (h.unstarted (continues.phase.symm.trans hPhase) t)

/-- The ticket that is drawn next has no place yet. -/
theorem fresh (h : w.Numbered) : ⟨w.dispatcher.nextTicket⟩ ∉ w.dispatcher.mailbox.places :=
  fun hPlace => absurd (h.drawn _ hPlace) (Nat.lt_irrefl _)

/-- A ticket that has a place is not spent. -/
theorem unspent (h : w.Numbered) {ticket : Ticket}
    (place : ticket ∈ w.dispatcher.mailbox.places) : ¬ w.Spent ticket :=
  fun hSpent => (h.spent ticket hSpent).2 place

/-- An errand draws a ticket at most, and gives it one place. -/
theorem errand (h : w.Numbered) (errand : Errand w v) : v.Numbered := by
  have hSend (command : Command κ.Job)
      (own : ∀ t ∈ command.ticket?, t = ⟨w.dispatcher.nextTicket⟩) :
      (w.dispatcher.mailbox.send ⟨w.dispatcher.nextTicket⟩ command).2.Placed ∧
      ∀ t ∈ (w.dispatcher.mailbox.send ⟨w.dispatcher.nextTicket⟩ command).2.places,
        t ∈ w.dispatcher.mailbox.places ∨ t.number = w.dispatcher.nextTicket ∧
          t.number < w.dispatcher.nextTicket + 1 := by
    refine ⟨h.placed.send h.fresh own, fun t ht => ?_⟩
    exact (Mailbox.mem_places_send own ht).imp_right fun hNew =>
      ⟨by rw [hNew], by rw [hNew]; exact Nat.lt_succ_self _⟩
  have hContinues := Continues.of_errand errand
  cases errand with
  | apart hv =>
    exact h.of_mailbox hContinues (Nat.le_of_eq hv.nextTicket.symm) (hv.mailbox ▸ h.placed)
      fun _ ht => .inl (hv.mailbox ▸ ht)
  | accept id event sent =>
    obtain rfl := Mailbox.trySend_accepted sent
    refine h.of_mailbox hContinues (Nat.le_refl _)
      (h.placed.push fun t ht => by cases ht) fun t ht => .inl ?_
    exact (Mailbox.mem_places_push ht).resolve_right fun hNew => by cases hNew
  | invoke job =>
    obtain ⟨hPlaced, hPlaces⟩ := hSend (.invoke ⟨w.dispatcher.nextTicket⟩ job)
      fun t ht => (Option.some.inj ht).symm
    exact h.of_mailbox hContinues (Nat.le_succ _) hPlaced hPlaces
  | shutdown =>
    obtain ⟨hPlaced, hPlaces⟩ := hSend .shutdown fun t ht => by cases ht
    exact h.of_mailbox hContinues (Nat.le_succ _) hPlaced hPlaces
  | poll ticket =>
    exact h.of_mailbox hContinues (Nat.le_refl _) (h.placed.poll ticket)
      fun t ht => .inl (Mailbox.mem_places_poll h.placed ht)

/-- Tickets stay numbered through any number of errands. -/
theorem errands (h : w.Numbered) (errands : Errands w v) : v.Numbered := by
  induction errands with
  | refl => exact h
  | tail _ errand ih => exact ih.errand errand

end Numbered
end System
end HostedStreams
