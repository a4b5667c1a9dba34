/-! Bounded queues that many fill and one empties. Who finds no room may wait for
it: room that comes free is promised to the one who has waited longest and is
lost to everybody else, although that one takes it only when it runs again. -/
namespace HostedStreams

/-- Names one waiting or answered call. -/
structure Ticket where
  number : Nat
  deriving DecidableEq

/-- One who waits for room. -/
structure Waiter (α : Type) where
  ticket : Ticket
  item : α
  /-- Whether room was promised. -/
  granted : Bool := false

structure Mailbox (α : Type) where
  capacity : Nat
  items : List α := []
  waiters : List (Waiter α) := []
  /-- Whether somebody still empties the queue. -/
  isOpen : Bool := true

namespace Mailbox

variable {α : Type}

/-- How many places are neither taken nor promised. -/
def room (m : Mailbox α) : Nat :=
  m.capacity - m.items.length - (m.waiters.filter (·.granted)).length

def push (item : α) (m : Mailbox α) : Mailbox α :=
  { m with items := m.items ++ [item] }

/-- How an attempt to put something into the queue ended. -/
inductive Sent where
  | accepted
  | full
  | closed
  deriving DecidableEq

/-- Puts an item into the queue if there is room. -/
def trySend (item : α) (m : Mailbox α) : Sent × Mailbox α :=
  if !m.isOpen then (.closed, m)
  else if m.room = 0 then (.full, m)
  else (.accepted, m.push item)

/-- Puts an item into the queue, or lets it wait for room under the ticket. -/
def send (ticket : Ticket) (item : α) (m : Mailbox α) : Sent × Mailbox α :=
  match m.trySend item with
  | (.full, m) => (.full, { m with waiters := m.waiters ++ [{ ticket, item }] })
  | r => r

/-- Promises room to the first waiter who was promised none. -/
def grant : List (Waiter α) → List (Waiter α)
  | [] => []
  | w :: rest => if w.granted then w :: grant rest else { w with granted := true } :: rest

/-- Takes the oldest item out. -/
def receive (m : Mailbox α) : Option (α × Mailbox α) :=
  match m.items with
  | [] => none
  | item :: rest => some (item, { m with items := rest, waiters := grant m.waiters })

/-- What has become of the item that was sent under the ticket; a promise is taken
up here. Who does not wait has been accepted before. -/
def poll (ticket : Ticket) (m : Mailbox α) : Sent × Mailbox α :=
  match m.waiters.find? (·.ticket == ticket) with
  | none => (.accepted, m)
  | some w =>
    let others := { m with waiters := m.waiters.filter (·.ticket != ticket) }
    if !m.isOpen then (.closed, others)
    else if w.granted then (.accepted, others.push w.item)
    else (.full, m)

/-- Ends the queue: what it holds is given up, and whoever waits will find it closed. -/
def close (m : Mailbox α) : Mailbox α :=
  { m with items := [], isOpen := false }

/-- Whatever is accepted is put at the end. -/
theorem trySend_accepted {item : α} {m n : Mailbox α} (h : m.trySend item = (.accepted, n)) :
    n = m.push item := by
  unfold trySend at h
  split at h
  · cases h
  · split at h
    · cases h
    · exact (Prod.mk.inj h).2.symm

/-- Whatever is refused leaves the queue as it was. -/
theorem trySend_refused {item : α} {m n : Mailbox α} {sent : Sent}
    (h : m.trySend item = (sent, n)) (hs : sent ≠ .accepted) : n = m := by
  unfold trySend at h
  split at h
  · exact (Prod.mk.inj h).2.symm
  · split at h
    · exact (Prod.mk.inj h).2.symm
    · exact absurd (Prod.mk.inj h).1.symm hs

/-- First in, first out. -/
theorem items_of_receive {item : α} {m n : Mailbox α} (h : m.receive = some (item, n)) :
    m.items = item :: n.items := by
  unfold receive at h
  split at h
  · cases h
  · rename_i first rest hm
    cases h
    exact hm

end Mailbox
end HostedStreams
