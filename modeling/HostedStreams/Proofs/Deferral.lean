import HostedStreams.Proofs.Closing
import HostedStreams.Proofs.Shelving
import HostedStreams.Proofs.Undisturbed

/-! Closes from outside the worker. The stream's teardown is put off to the worker, which takes it
before any notification and any job. Until then nothing comes to pass of the stream, and whoever
asks something of it is turned away. -/
namespace HostedStreams

variable {κ : Client} {α : Type} {look : System κ → κ.Note} {manners : Surroundings κ → Prop}
  {env : Surroundings κ} {r : StreamRef} {u v w : System κ}

open Entry (told accepted? settled? dispatched?)

namespace System

/-- A stream of the worker's is closing, and its teardown is queued. -/
structure Waiting (r : StreamRef) (w : System κ) : Prop where
  served : w.Served r
  live : (w.status r).state ≠ .destroyed
  closing : (w.status r).closing = true
  running : w.dispatcher.phase = .running
  queued : (w.stream r).id ∈ w.dispatcher.teardowns

/-- The stream goes on waiting. Nothing comes to pass of it, the worker begins with no notification
and no job, and the stream's place in the queue does not get worse. -/
structure Waits (r : StreamRef) (w v : System κ) : Prop where
  waiting : v.Waiting r
  still : w.Still r v
  worked : v.worked = w.worked
  place : v.dispatcher.teardowns.idxOf (w.stream r).id ≤
    w.dispatcher.teardowns.idxOf (w.stream r).id

/-- The stream is torn down by one pass, which its sinks are handed in the worker's context, and the
worker begins with no notification and no job. -/
structure Departs (r : StreamRef) (w v : System κ) : Prop where
  torn : (v.status r).state = .destroyed
  fired : v.fired r = .destroyed :: w.fired r
  hearings : ∃ news, v.hearings r = news ++ w.hearings r ∧ ∀ x ∈ news, x = (.destroyed, true)
  worked : v.worked = w.worked

namespace Waits

theorem refl (h : w.Waiting r) : w.Waits r w :=
  ⟨h, ⟨rfl, rfl⟩, rfl, Nat.le_refl _⟩

theorem trans (known : (v.stream r).id = (u.stream r).id) (first : u.Waits r v)
    (second : v.Waits r w) : u.Waits r w := by
  refine ⟨second.waiting, first.still.trans second.still, second.worked.trans first.worked, ?_⟩
  have hPlace := second.place
  rw [known] at hPlace
  exact Nat.le_trans hPlace first.place

/-- Whatever a client does that leaves the worker's streams to it, the stream goes on waiting. -/
theorem conduct (reached : Reached look manners w) (h : w.Waiting r) {a : Act κ α}
    (conduct : Discipline.proper.Conduct look (Discipline.proper.Serves look manners) a) :
    w.Waits r (a.left w) := by
  have hThere : Undisturbed False r w (a.left w) := Undisturbed.conduct (fun h => h.elim) conduct w
  have hConduct := conduct.conduct Discipline.Serves.serves
  have hBides : Bides True w (a.left w) := Bides.conduct hConduct w
  have hEbb : Ebb r w (a.left w) := (Ebb.pervades look r).conduct hConduct w
  have hOutside := Outside.of_reached reached
  have live := hThere.live hOutside h.served (Launched.of_reached reached r h.served) h.live
  obtain ⟨more, hMore⟩ := hBides.teardowns trivial
  refine ⟨⟨hThere.conserves.served h.served, live, ?_, ?_, ?_⟩, ?_, hBides.worked trivial, ?_⟩
  · exact (hEbb.spent h.served.1 (.inl h.closing)).resolve_right live
  · exact (hThere.conserves.phase hOutside.rest.books).trans h.running
  · rw [hThere.conserves.id h.served.1, ← hMore]
    exact List.mem_append_left _ h.queued
  · rcases (hEbb.subsides h.served.1 (.inl h.closing)).live h.live with ⟨-, hStill⟩ | hEnded
    · exact hStill
    · exact absurd hEnded.torn live
  · rw [← hMore, List.idxOf_append_of_mem h.queued]

end Waits

/-- What becomes of the system where the worker takes a teardown out of its queue. -/
structure Clears (id : StreamId) (rest : List StreamId) (w v : System κ) : Prop where
  conserves : Conserves w v
  worked : v.worked = w.worked
  teardowns : rest <+: v.dispatcher.teardowns
  gone : ∀ q, (id, q) ∉ v.dispatcher.registry

/-- The worker takes teardowns before anything else. -/
theorem clears_of_step (reached : Reached look manners w) (serves : env.Serves look manners)
    (running : w.dispatcher.phase = .running) {id : StreamId} {rest : List StreamId}
    (queued : w.dispatcher.teardowns = id :: rest) :
    w.Clears id rest ((Worker.step env).left w) := by
  have he := ((Conserves.sustained look manners).serves serves).2
  have hb := ((Brings.sustained look manners).serves serves).2
  have hTended := Conserves.tended look Surroundings.any
  have hTaken : Conserves w (w.updateDispatcher fun d => { d with teardowns := rest }) :=
    hTended.aside w _ ⟨rfl, rfl, rfl, rfl, rfl, rfl, rfl⟩
  have hInside : Conserves w
      (w.updateDispatcher fun d => { d with teardowns := rest, inContext := true }) :=
    hTended.aside w _ ⟨rfl, rfl, rfl, rfl, rfl, rfl, rfl⟩
  have hBides : Bides True (w.updateDispatcher fun d =>
      { d with teardowns := rest, inContext := true }) _ := Bides.tearDown serves id _
  have hConserves := hTaken.trans (hTended.inContext (Conserves.tearDown look he id) _)
  rw [Worker.left_step_of_teardown running queued]
  refine ⟨hConserves, ?_, ?_, fun q => ?_⟩ <;> rw [Worker.left_inContext]
  · exact hBides.worked trivial
  · exact hBides.teardowns trivial
  · exact Worker.out_of_tearDown look he hb
      (hInside.books (AtRest.of_reached look reached).books) id q

/-- A step of the worker while the stream waits: its turn comes, or comes nearer. -/
theorem Waiting.step (reached : Reached look manners w) (h : w.Waiting r)
    (serves : env.Serves look manners) :
    w.Waits r ((Worker.step env).left w) ∧
        ((Worker.step env).left w).dispatcher.teardowns.idxOf (w.stream r).id <
          w.dispatcher.teardowns.idxOf (w.stream r).id ∨
      w.Departs r ((Worker.step env).left w) := by
  have hEbb := (Ebb.pervades look r).step serves w
  have hAttended := Attended.step serves (AtRest.of_reached look reached)
  have hRest := AtRest.of_reached look (reached.turn serves)
  cases hTeardowns : w.dispatcher.teardowns with
  | nil => exact absurd (hTeardowns ▸ h.queued) List.not_mem_nil
  | cons id rest =>
    have hClears := clears_of_step reached serves h.running hTeardowns
    generalize (Worker.step env).left w = v at *
    have hKnown := hClears.conserves.id h.served.1
    rcases (hEbb.subsides h.served.1 (.inl h.closing)).live h.live with ⟨live, hStill⟩ | hEnded
    · -- What was taken out is another stream's, for this one is still registered.
      have hOther : (w.stream r).id ≠ id := by
        rintro rfl
        have hListed := hRest.books.roster.enrolled (hClears.conserves.served h.served) live
        rw [hKnown] at hListed
        exact hClears.gone r hListed
      obtain ⟨more, hMore⟩ := hClears.teardowns
      have hQueued : (w.stream r).id ∈ rest :=
        (List.mem_cons.1 (hTeardowns ▸ h.queued)).resolve_left hOther
      have hPlace : v.dispatcher.teardowns.idxOf (w.stream r).id <
          (id :: rest).idxOf (w.stream r).id := by
        rw [← hMore, List.idxOf_append_of_mem hQueued, List.idxOf_cons_ne _ hOther.symm]
        exact Nat.lt_succ_self _
      refine .inl ⟨⟨⟨hClears.conserves.served h.served, live, ?_, ?_, ?_⟩, hStill, hClears.worked,
        hTeardowns ▸ Nat.le_of_lt hPlace⟩, hPlace⟩
      · exact (hEbb.spent h.served.1 (.inl h.closing)).resolve_right live
      · exact (hClears.conserves.phase (AtRest.of_reached look reached).books).trans h.running
      · rw [hKnown, ← hMore]
        exact List.mem_append_left _ hQueued
    · obtain ⟨news, hNews, hEnd⟩ := hEnded.hearings
      obtain ⟨heard, hHeard, hInside⟩ := hAttended.hearings r
      obtain rfl := List.append_cancel_right (hNews.symm.trans hHeard)
      exact .inr ⟨hEnded.torn, hEnded.fired,
        ⟨news, hNews, fun x hx => Prod.ext (hEnd x hx) (hInside x hx)⟩, hClears.worked⟩

/-- The stream waits until a step of the worker tears it down. -/
theorem Waiting.course (reached : Discipline.proper.Reached look manners w) (h : w.Waiting r)
    (hRun : Discipline.proper.Run look manners w u) :
    w.Waits r u ∨ ∃ x env, Discipline.proper.Run look manners w x ∧ w.Waits r x ∧
      Discipline.proper.Serves look manners env ∧ x.Departs r ((Worker.step env).left x) ∧
      Discipline.proper.Run look manners ((Worker.step env).left x) u := by
  have hReached {x : System κ} (before : Discipline.proper.Run look manners w x) :
      Reached look manners x := by
    obtain ⟨client, hBefore⟩ := reached.reached
    exact ⟨client, hBefore.trans before.run⟩
  have hKnown {x : System κ} (before : Discipline.proper.Run look manners w x) :
      (x.stream r).id = (w.stream r).id :=
    (((Steps.unconcerned look manners).run before.run).keeps h.served.1).1
  induction hRun with
  | refl => exact .inl (.refl h)
  | @act _ v a before conduct ih =>
    rcases ih with hWaits | ⟨x, env, hBefore, hWaits, serves, hDeparts, hLater⟩
    · exact .inl (hWaits.trans (hKnown before) (.conduct (hReached before) hWaits.waiting conduct))
    · exact .inr ⟨x, env, hBefore, hWaits, serves, hDeparts, hLater.act conduct⟩
  | @start v before unstarted settings executor ih =>
    rcases ih with hWaits | ⟨x, env, hBefore, hWaits, serves, hDeparts, hLater⟩
    · have hRunning := hWaits.waiting.running
      rw [unstarted] at hRunning
      cases hRunning
    · exact .inr ⟨x, env, hBefore, hWaits, serves, hDeparts,
        hLater.start unstarted settings executor⟩
  | @turn v env before serves ih =>
    rcases ih with hWaits | ⟨x, env', hBefore, hWaits, serves', hDeparts, hLater⟩
    · rcases hWaits.waiting.step (hReached before) serves.serves with ⟨hStep, -⟩ | hDeparts
      · exact .inl (hWaits.trans (hKnown before) hStep)
      · exact .inr ⟨v, env, before, hWaits, serves, hDeparts, .refl⟩
    · exact .inr ⟨x, env', hBefore, hWaits, serves', hDeparts, hLater.turn serves⟩

/-- What has been taken out of the queue up to there was handed to its stream or was given up. -/
theorem Accounts.settled (reached : Reached look manners w) :
    told accepted? w.past = told settled? w.past ++ w.dispatcher.mailbox.queued :=
  (reached.of_handling System.Accounts.outset fun hStep h => h.step hStep).1.line

end System

end HostedStreams
