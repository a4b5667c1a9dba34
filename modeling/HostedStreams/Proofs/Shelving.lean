import HostedStreams.Proofs.Settlement

/-! Notifications that are given up. Each is counted, and where a stream is torn down, all that come
for it are given up. -/
namespace HostedStreams

variable {κ : Client} {look : System κ → κ.Note} {manners : Surroundings κ → Prop} {d e : Desk κ}
  {u v w : System κ} {r : StreamRef}

open Entry (told accepted? settled? dispatched? dropped?)

/-- What is given up meanwhile is counted. -/
def System.CountsDrops (w v : System κ) : Prop :=
  ∃ news, told dropped? v.past = told dropped? w.past ++ news ∧
    v.dispatcher.metrics.dropped = w.dispatcher.metrics.dropped + news.length

namespace System.CountsDrops

theorem trans (first : u.CountsDrops v) (second : v.CountsDrops w) : u.CountsDrops w := by
  obtain ⟨news, hNews, hCount⟩ := first
  obtain ⟨later, hLater, hCount'⟩ := second
  refine ⟨news ++ later, by rw [hLater, hNews, List.append_assoc], ?_⟩
  rw [hCount', hCount, List.length_append, Nat.add_assoc]

/-- Nothing is given up. -/
theorem of_none (counted : v.dispatcher.metrics.dropped = w.dispatcher.metrics.dropped)
    (h : v.past = w.past ∨ ∃ x, v.past = x :: w.past ∧ x.dropped? = none) : w.CountsDrops v := by
  refine ⟨[], ?_, counted⟩
  rw [List.append_nil]
  rcases h with hSame | ⟨x, hPast, hNone⟩
  · rw [hSame]
  · rw [hPast, Entry.told_cons, hNone, Option.toList_none, List.append_nil]

/-- Whatever the worker does beside is not about notifications. -/
theorem of_aside (counted : v.dispatcher.metrics.dropped = w.dispatcher.metrics.dropped)
    (h : v.past = w.past ∨ ∃ x, v.past = x :: w.past ∧ x.working = false) : w.CountsDrops v := by
  refine of_none counted (h.imp_right fun ⟨x, hPast, hAside⟩ => ⟨x, hPast, ?_⟩)
  cases x <;> first | rfl | cases hAside

/-- A notification is given up and counted. -/
theorem of_dropped {id : StreamId} {event : Event} (hPast : v.past = .dropped id event :: w.past)
    (counted : v.dispatcher.metrics.dropped = w.dispatcher.metrics.dropped + 1) :
    w.CountsDrops v :=
  ⟨[(id, event)], by rw [hPast, Entry.told_cons]; rfl, counted⟩

/-- Once the dispatcher was started, whatever happens. -/
theorem of_handling (h : Handling look (d, w) (e, v)) (accounts : w.Accounts d)
    (started : w.dispatcher.phase ≠ .unstarted) : w.CountsDrops v := by
  cases h with
  | quiet stays hQuiet =>
    refine of_aside ?_ hQuiet.working
    cases hQuiet with
    | serve e serves => exact (serves.accords accounts.roomy).dropped
    | hub | attach | detach => rw [System.dispatcher_updateSource]
    | _ => rfl
  | firing d hFiring => exact of_aside (by rw [hFiring.dispatcher]) hFiring.working
  | beside d hBeside => exact of_none hBeside.dropped (.inl rfl)
  | start unstarted => exact absurd unstarted started
  | drop event => exact of_dropped rfl rfl
  | giveUp w command rest =>
    cases command with
    | notify id event => exact of_dropped rfl rfl
    | invoke | shutdown => exact of_none rfl (.inl rfl)
  | refuse | hand | jobBegan | jobEnded => exact of_none rfl (.inr ⟨_, rfl, rfl⟩)
  | _ => exact of_none rfl (.inl rfl)

/-- Each notification that is given up in the course of a run is counted. -/
theorem of_run (reached : Reached look manners w) (started : w.dispatcher.phase ≠ .unstarted)
    (h : Run look manners w u) : w.CountsDrops u := by
  have hAccounts := (reached.of_handling System.Accounts.outset fun hStep h => h.step hStep).1
  suffices hAll : ∀ b, Handled look (.clear, w) b →
      b.2.Accounts b.1 ∧ b.2.dispatcher.phase ≠ .unstarted ∧ w.CountsDrops b.2 from
    (hAll _ (reached.handled h)).2.2
  intro b hHandled
  induction hHandled with
  | refl => exact ⟨hAccounts, started, of_none rfl (.inl rfl)⟩
  | tail _ hStep ih =>
    obtain ⟨hAccounts, hStarted, hCounts⟩ := ih
    exact ⟨hAccounts.step hStep, (hStep.lasts hAccounts).started hStarted,
      hCounts.trans (of_handling hStep hAccounts hStarted)⟩

end System.CountsDrops

/-- A stream that is torn down stays so. -/
theorem Step.torn (h : Step look w v) (made : w.Has r) (torn : (w.status r).state = .destroyed) :
    (v.status r).state = .destroyed := by
  cases h with
  | quiet h =>
    obtain p | ⟨new, own, rfl⟩ := h.persists
    · exact p.torn r torn
    · rw [System.status, (System.Grown.append w new).old made]
      exact torn
  | firing h => exact h.persists.torn r torn
  | enlist id config =>
    rw [System.status, (System.Grown.append w _).old made]
    exact torn
  | dispatcher | dispatching => exact torn

/-- A stream that is torn down stays so. -/
theorem Steps.torn (h : Steps look w v) (made : w.Has r) (torn : (w.status r).state = .destroyed) :
    (v.status r).state = .destroyed := by
  induction h with
  | refl => exact torn
  | tail before step ih =>
    exact step.torn (Nat.lt_of_lt_of_le made ((Steps.steady look).grows before)) ih

namespace System

end System
end HostedStreams
