/-! Attachment lists of event sources. A source refers to sinks that belong to
others: a sink that is gone stays listed until somebody notices. Attachments are
numbered, because being detached and attached again is a new attachment. -/
namespace HostedStreams

/-- Tells sinks apart. No two sinks ever have the same. -/
structure SinkRef where
  number : Nat
  deriving DecidableEq

structure Attachment where
  serial : Nat
  sink : SinkRef
  deriving DecidableEq

/-- What is attached, in the order of attachment. -/
structure Source where
  attachments : List Attachment := []
  /-- The number of the next attachment. -/
  nextSerial : Nat := 0
  /-- Later attachments have larger numbers, and no sink is attached twice. -/
  ordered : attachments.Pairwise fun a b => a.serial < b.serial ∧ a.sink ≠ b.sink
  /-- No number is given twice. -/
  unused : ∀ a ∈ attachments, a.serial < nextSerial
  deriving DecidableEq

namespace Source

/-- Nothing was ever attached. -/
def empty : Source where
  ordered := .nil
  unused _ h := absurd h List.not_mem_nil

variable (alive : SinkRef → Bool)

/-- Keeps only some of the attachments. -/
def restrict (keep : Attachment → Bool) (s : Source) : Source :=
  { s with
    attachments := s.attachments.filter keep
    ordered := s.ordered.filter keep
    unused := fun a ha => s.unused a (List.mem_filter.1 ha).1 }

/-- Forgets the attachments of sinks that are gone. -/
def prune (s : Source) : Source :=
  s.restrict fun a => alive a.sink

/-- Whether the sink is there and attached. -/
def isAttached (sink : SinkRef) (s : Source) : Bool :=
  s.attachments.any fun a => a.sink == sink && alive a.sink

/-- Puts a sink that is not listed behind all others. -/
def append (sink : SinkRef) (s : Source) (new : ∀ a ∈ s.attachments, a.sink ≠ sink) : Source where
  attachments := s.attachments ++ [⟨s.nextSerial, sink⟩]
  nextSerial := s.nextSerial + 1
  ordered := by
    refine List.pairwise_append.2 ⟨s.ordered, by simp, fun a ha b hb => ?_⟩
    obtain rfl := List.mem_singleton.1 hb
    exact ⟨s.unused a ha, new a ha⟩
  unused := by
    intro a ha
    rcases List.mem_append.1 ha with h | h
    · exact Nat.lt_succ_of_lt (s.unused a h)
    · obtain rfl := List.mem_singleton.1 h
      exact Nat.lt_succ_self _

/-- A sink that is not attached is not listed once the sinks that are gone are forgotten. -/
theorem not_listed_of_not_attached {sink : SinkRef} {s : Source}
    (h : ¬ (s.prune alive).isAttached alive sink) :
    ∀ a ∈ (s.prune alive).attachments, a.sink ≠ sink := by
  intro a ha he
  have hAlive : alive a.sink = true := (List.mem_filter.1 ha).2
  subst he
  exact h (List.any_eq_true.2 ⟨a, ha, by simp [hAlive]⟩)

/-- Attaches the sink behind all others and tells whether it was added: one that
is attached already stays where it is. -/
def attach (sink : SinkRef) (s : Source) : Bool × Source :=
  if h : (s.prune alive).isAttached alive sink then (false, s.prune alive)
  else (true, (s.prune alive).append sink (not_listed_of_not_attached alive h))

/-- Detaches the sink and tells whether it was attached. -/
def detach (sink : SinkRef) (s : Source) : Bool × Source :=
  let left := s.restrict fun a => !(a.sink == sink && alive a.sink)
  (left.attachments.length != s.attachments.length, left)

def clear (s : Source) : Source :=
  s.restrict fun _ => false

/-- How many attached sinks are there. -/
def size (s : Source) : Nat :=
  (s.attachments.filter fun a => alive a.sink).length

/-- The attached sinks that are there, in the order of attachment. -/
def toList (s : Source) : List SinkRef :=
  (s.attachments.filter fun a => alive a.sink).map (·.sink)

/-- Sinks that are gone were not in the list. -/
theorem toList_prune (s : Source) : (s.prune alive).toList alive = s.toList alive := by
  simp [toList, prune, restrict]

/-- Whether the attachment is still listed. -/
def holds (a : Attachment) (s : Source) : Bool :=
  s.attachments.any fun b => b.serial == a.serial

end Source
end HostedStreams
