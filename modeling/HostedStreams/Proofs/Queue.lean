import HostedStreams.Proofs.Ledger
import Mathlib.Data.String.Basic

/-! The dispatcher's queue as a line, and counts by label. Places in the queue are taken or
promised, and never more of them than there are; notifications leave it in the order in which
they came. -/
namespace HostedStreams

/-- The notification, if the command is one. -/
def Command.notification? {Job : Type} : Command Job → Option (StreamId × Event)
  | .notify id event => some (id, event)
  | .invoke .. | .shutdown => none

/-- All other commands notify nobody. -/
theorem Command.notification?_eq_none {Job : Type} {command : Command Job} :
    command.notification? = none ↔ command.isNotify = false := by
  cases command <;> simp [notification?, isNotify]

namespace Mailbox

variable {Job : Type} {m n : Mailbox (Command Job)} {item : Command Job}

/-- The notifications that wait in the queue, the oldest first. -/
def queued (m : Mailbox (Command Job)) : List (StreamId × Event) :=
  m.items.filterMap (·.notification?)

/-- As many notifications wait in the queue as are counted. -/
theorem length_queued (m : Mailbox (Command Job)) : m.queued.length = m.notifications := by
  rw [queued, List.length_filterMap_eq_countP, notifications]
  congr 1
  funext command
  cases command <;> rfl

/-- Commands join the queue at its end. -/
theorem queued_push (m : Mailbox (Command Job)) (item : Command Job) :
    (m.push item).queued = m.queued ++ item.notification?.toList := by
  rw [queued, push, List.filterMap_append, queued]
  cases item <;> rfl

/-- No more places are taken or promised than there are, and only those wait for one who notify
nobody. -/
structure Roomy (m : Mailbox (Command Job)) : Prop where
  room : m.items.length + (m.waiters.filter (·.granted)).length ≤ m.capacity
  waiting : ∀ x ∈ m.waiters, x.item.notification? = none

/-- There are no more notifications than places. -/
theorem notifications_le (h : m.Roomy) : m.notifications ≤ m.capacity := by
  have hCount : m.notifications ≤ m.items.length := List.countP_le_length
  exact Nat.le_trans hCount (Nat.le_trans (Nat.le_add_right _ _) h.room)

/-- A promise takes one more place at most, and waits for the same. -/
theorem length_granted_grant (l : List (Waiter (Command Job))) :
    ((grant l).filter (·.granted)).length ≤ (l.filter (·.granted)).length + 1 := by
  induction l with
  | nil => simp [grant]
  | cons x rest ih =>
    rw [grant]
    cases hGranted : x.granted with
    | true => simpa [hGranted] using ih
    | false => simp [hGranted]

namespace Roomy

/-- A command is queued where there is room. -/
theorem trySend (h : m.Roomy) (sent : m.trySend item = (.accepted, n)) :
    n.Roomy ∧ n.capacity = m.capacity ∧ n.queued = m.queued ++ item.notification?.toList := by
  have hRoom : m.room ≠ 0 := fun hFull => by
    unfold Mailbox.trySend at sent
    split at sent <;> simp_all
  obtain rfl := trySend_accepted sent
  refine ⟨⟨?_, h.waiting⟩, rfl, queued_push m item⟩
  have hLeft := h.room
  simp only [Mailbox.room] at hRoom
  simp only [push, List.length_append, List.length_singleton]
  omega

/-- A command that is no notification is queued, waits for room, or is refused. -/
theorem send (h : m.Roomy) (ticket : Ticket) (other : item.notification? = none) :
    (m.send ticket item).2.Roomy ∧ (m.send ticket item).2.capacity = m.capacity ∧
      (m.send ticket item).2.queued = m.queued := by
  unfold Mailbox.send
  split
  · rename_i hFull
    obtain rfl := trySend_refused hFull (by simp)
    refine ⟨⟨?_, fun x hx => ?_⟩, rfl, rfl⟩
    · simpa [List.filter_append] using h.room
    · rcases List.mem_append.1 hx with hOld | hNew
      · exact h.waiting x hOld
      · rw [List.mem_singleton.1 hNew]
        exact other
  · cases hSent : m.trySend item with
    | mk sent n =>
      by_cases hAccepted : sent = .accepted
      · subst hAccepted
        have hQueued := h.trySend hSent
        rwa [other, Option.toList_none, List.append_nil] at hQueued
      · rw [trySend_refused hSent hAccepted]
        exact ⟨h, rfl, rfl⟩

/-- Who waits takes up a promise, or finds the queue closed. -/
theorem poll (h : m.Roomy) (ticket : Ticket) :
    (m.poll ticket).2.Roomy ∧ (m.poll ticket).2.capacity = m.capacity ∧
      (m.poll ticket).2.queued = m.queued := by
  unfold Mailbox.poll
  split
  · exact ⟨h, rfl, rfl⟩
  · rename_i x hFound
    have hMem := List.mem_of_find?_eq_some hFound
    have hOthers : ∀ y ∈ m.waiters.filter (·.ticket != ticket), y.item.notification? = none :=
      fun y hy => h.waiting y (List.mem_filter.1 hy).1
    have hFewer : ((m.waiters.filter (·.ticket != ticket)).filter (·.granted)).length ≤
        (m.waiters.filter (·.granted)).length :=
      (List.filter_sublist.filter _).length_le
    split
    · exact ⟨⟨Nat.le_trans (Nat.add_le_add_left hFewer _) h.room, hOthers⟩, rfl, rfl⟩
    · split
      · rename_i hGranted
        refine ⟨⟨?_, hOthers⟩, rfl, ?_⟩
        · -- The place that was promised is taken now.
          have hTaken : ((m.waiters.filter (·.ticket != ticket)).filter (·.granted)).length <
              (m.waiters.filter (·.granted)).length := by
            rw [List.filter_comm]
            refine List.length_filter_lt_length_iff_exists.2 ⟨x, ?_, ?_⟩
            · exact List.mem_filter.2 ⟨hMem, hGranted⟩
            · simpa using List.find?_some hFound
          have hRoom := h.room
          simp only [push, List.length_append, List.length_singleton]
          omega
        · exact (queued_push _ _).trans (by rw [h.waiting x hMem]; simp [queued])
      · exact ⟨h, rfl, rfl⟩

/-- The oldest command is taken out. -/
theorem receive (h : m.Roomy) (taken : m.receive = some (item, n)) :
    n.Roomy ∧ n.capacity = m.capacity ∧ m.queued = item.notification?.toList ++ n.queued := by
  have hItems := items_of_receive taken
  unfold Mailbox.receive at taken
  split at taken
  · cases taken
  · cases taken
    refine ⟨⟨?_, fun x hx => ?_⟩, rfl, ?_⟩
    · have hRoom := h.room
      have hMore := length_granted_grant m.waiters
      rw [hItems, List.length_cons] at hRoom
      dsimp only at hRoom ⊢
      omega
    · obtain ⟨y, hy, hItem⟩ := item_of_mem_grant hx
      exact hItem ▸ h.waiting y hy
    · rw [queued, hItems]
      cases item <;> rfl

theorem close (h : m.Roomy) : m.close.Roomy where
  room := by
    have hRoom := h.room
    simp only [Mailbox.close, List.length_nil]
    omega
  waiting := h.waiting

end Roomy
end Mailbox

namespace Samples

variable {label k : String} {n : Nat} {samples : Samples}

/-- In ascending order of the labels. -/
def Sorted (samples : Samples) : Prop :=
  samples.Pairwise fun a b => a.1 < b.1

/-- To add to a count makes no labels but its own. -/
theorem label_of_mem_add {x : String × Nat} (h : x ∈ samples.add label n) :
    x.1 = label ∨ ∃ y ∈ samples, y.1 = x.1 := by
  induction samples with
  | nil => exact .inl (congrArg Prod.fst (List.mem_singleton.1 h))
  | cons s rest ih =>
    simp only [add] at h
    split at h
    · rcases List.mem_cons.1 h with rfl | hRest
      · exact .inl rfl
      · exact .inr ⟨x, List.mem_cons_of_mem _ hRest, rfl⟩
    · split at h
      · rcases List.mem_cons.1 h with rfl | hOld
        · exact .inl rfl
        · exact .inr ⟨x, hOld, rfl⟩
      · rcases List.mem_cons.1 h with rfl | hRest
        · exact .inr ⟨s, List.mem_cons_self, rfl⟩
        · rcases ih hRest with hNew | ⟨y, hy, hSame⟩
          · exact .inl hNew
          · exact .inr ⟨y, List.mem_cons_of_mem _ hy, hSame⟩

/-- To add to a count keeps the labels in order. -/
theorem Sorted.add (h : samples.Sorted) (label : String) (n : Nat) :
    (samples.add label n).Sorted := by
  induction samples with
  | nil => exact List.pairwise_singleton _ _
  | cons s rest ih =>
    obtain ⟨hFirst, hRest⟩ := List.pairwise_cons.1 h
    simp only [Samples.add]
    split
    · rename_i hSame
      subst hSame
      exact List.pairwise_cons.2 ⟨hFirst, hRest⟩
    · rename_i hOther
      split
      · rename_i hLess
        refine List.pairwise_cons.2 ⟨fun x hx => ?_, h⟩
        rcases List.mem_cons.1 hx with rfl | hx
        · exact hLess
        · exact lt_trans hLess (hFirst x hx)
      · rename_i hNotLess
        refine List.pairwise_cons.2 ⟨fun x hx => ?_, ih hRest⟩
        rcases label_of_mem_add hx with hNew | ⟨y, hy, hSame⟩
        · rw [hNew]
          exact lt_of_le_of_ne (not_lt.1 hNotLess) hOther
        · rw [← hSame]
          exact hFirst y hy

/-- Labels that were never counted count nothing. -/
theorem count_of_not_mem (h : ∀ x ∈ samples, x.1 ≠ k) : samples.count k = 0 := by
  have hNone : samples.find? (·.1 == k) = none :=
    List.find?_eq_none.2 fun x hx => by simpa using h x hx
  rw [count, hNone]
  rfl

/-- The count of a label is found at its first sample. -/
theorem count_cons (x : String × Nat) (rest : Samples) (k : String) :
    count k (x :: rest) = if x.1 = k then x.2 else count k rest := by
  by_cases h : x.1 = k <;> simp [count, h]

/-- What is added to one label's count is added to no other's. -/
theorem count_add (h : samples.Sorted) (label k : String) (n : Nat) :
    (samples.add label n).count k = samples.count k + if label = k then n else 0 := by
  induction samples with
  | nil =>
    rw [add, count_cons]
    simp [count]
  | cons s rest ih =>
    obtain ⟨hFirst, hRest⟩ := List.pairwise_cons.1 h
    simp only [add]
    split
    · rename_i hSame
      rw [count_cons, count_cons, hSame]
      split <;> rfl
    · rename_i hOther
      split
      · rename_i hLess
        rw [count_cons]
        split
        · rename_i hk
          subst hk
          -- The label comes before all that are there.
          rw [count_of_not_mem, Nat.zero_add]
          intro x hx
          rcases List.mem_cons.1 hx with rfl | hx
          · exact (ne_of_lt hLess).symm
          · exact (ne_of_lt (lt_trans hLess (hFirst x hx))).symm
        · rfl
      · rw [count_cons, count_cons, ih hRest]
        split
        · rename_i hk
          subst hk
          rw [if_neg (Ne.symm hOther), Nat.add_zero]
        · rfl

end Samples
end HostedStreams
