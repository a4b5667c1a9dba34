import HostedStreams.Proofs.Shifts

/-! What becomes of a job that is handed in. The worker runs it once or never. Whoever handed it in
asks what it answered, and is told by the reply that the worker left, or, where the reply is lost,
by whether the dispatcher was told to stop meanwhile. -/
namespace HostedStreams

variable {κ : Client}

/-- What is said of a job of which there is such a reply. -/
def Reply.answer {Value : Type} (stopped : Bool) : Reply Value → Except DispatchError Value
  | .answered v => .ok v
  | .lost => .error (if stopped then .stopped else .jobPanicked)

/-- On the way from one system to the other the worker takes the job out of its queue and runs it,
and the job ends so. -/
inductive Ran (look : System κ → κ.Note) (manners : Surroundings κ → Prop) (ticket : Ticket)
    (job : κ.Job) (ended : Except Halt κ.Value) (v w : System κ) : Prop
  | intro {u : System κ} {env : Surroundings κ} {m : Mailbox (Command κ.Job)}
      (before : Run look manners v u) (serves : env.Serves look manners)
      (running : u.dispatcher.phase = .running) (clear : u.dispatcher.teardowns = [])
      (taken : u.dispatcher.mailbox.receive = some (.invoke ticket job, m))
      (ends : u.verdict env ticket job m = ended)
      (later : Run look manners ((Worker.step env).left u) w)

/-- A job that was run before a further run was run. -/
theorem Ran.run {look : System κ → κ.Note} {manners : Surroundings κ → Prop} {ticket : Ticket}
    {job : κ.Job} {ended : Except Halt κ.Value} {u v w : System κ}
    (h : Ran look manners ticket job ended u v) (further : Run look manners v w) :
    Ran look manners ticket job ended u w := by
  obtain ⟨before, serves, running, clear, taken, ends, later⟩ := h
  exact ⟨before, serves, running, clear, taken, ends, later.trans further⟩

/-- What the run is part of that a job was run in. -/
theorem Ran.whole {look : System κ → κ.Note} {manners : Surroundings κ → Prop} {ticket : Ticket}
    {job : κ.Job} {ended : Except Halt κ.Value} {v w : System κ}
    (h : Ran look manners ticket job ended v w) : Run look manners v w := by
  obtain ⟨before, serves, -, -, -, -, later⟩ := h
  exact (before.turn serves).trans later

/-- What a run leads to from what can come about can come about. -/
theorem Reached.run {look : System κ → κ.Note} {manners : Surroundings κ → Prop} {v w : System κ}
    (h : Reached look manners v) (run : Run look manners v w) : Reached look manners w := by
  obtain ⟨client, before⟩ := h
  exact ⟨client, before.trans run⟩

namespace System

variable {w v : System κ} {ticket : Ticket} {job : κ.Job} {reply : Reply κ.Value}

/-- Whoever has the ticket is told so when it asks. -/
def Tells (w : System κ) (ticket : Ticket)
    (answer : Option (Except DispatchError κ.Value)) : Prop :=
  ((Dispatcher.pollInvoke ticket).on w).1 = .ok answer

/-- The ticket has a place or a reply: whoever has it was not turned away by a closed queue. -/
def Owes (w : System κ) (ticket : Ticket) : Prop :=
  ticket ∈ w.dispatcher.mailbox.places ∨ ∃ reply, (ticket, reply) ∈ w.dispatcher.replies

/-- The job is yet to be run. -/
structure Pending (w : System κ) (ticket : Ticket) (job : κ.Job) : Prop where
  isOpen : w.dispatcher.mailbox.isOpen = true
  awaits : w.dispatcher.mailbox.Awaits ticket job

/-- The job was run, and there is this reply. -/
structure Replied (w : System κ) (ticket : Ticket) (reply : Reply κ.Value) : Prop where
  begun : 0 < w.begun ticket
  found : w.dispatcher.replies.find? (·.1 == ticket) = some (ticket, reply)

/-- The worker has left without having run the job. -/
structure Forlorn (w : System κ) (ticket : Ticket) : Prop where
  begun : w.begun ticket = 0
  ended : w.dispatcher.phase ≠ .running
  started : w.dispatcher.phase ≠ .unstarted
  lost : ∀ reply, (ticket, reply) ∈ w.dispatcher.replies →
    reply = .lost ∧ w.dispatcher.stopped = true

/-- While the queue is open the worker has not left. -/
theorem AtRest.running_of_open (h : w.AtRest) (isOpen : w.dispatcher.mailbox.isOpen = true) :
    w.dispatcher.phase = .running := by
  by_contra hEnded
  rw [h.books.ledger.shut hEnded] at isOpen
  cases isOpen

namespace Pending

/-- A job that is yet to be run was not begun. -/
theorem begun (h : w.Pending ticket job) (hw : w.Numbered) : w.begun ticket = 0 :=
  Nat.eq_zero_of_not_pos fun hBegan => hw.unspent h.awaits.mem_places (.inl hBegan)

theorem errand (h : w.Pending ticket job) (hw : w.Numbered) (errand : Errand w v) :
    v.Pending ticket job := by
  refine ⟨(Continues.of_errand errand).isOpen.trans h.isOpen, ?_⟩
  cases errand with
  | apart hv => exact hv.mailbox ▸ h.awaits
  | accept id event sent =>
    obtain rfl := Mailbox.trySend_accepted sent
    exact h.awaits.push _
  | invoke job => exact h.awaits.send _ _
  | shutdown => exact h.awaits.send _ _
  | poll other => exact h.awaits.poll hw.placed h.isOpen other

theorem errands (h : w.Pending ticket job) (hw : w.Numbered) (errands : Errands w v) :
    v.Pending ticket job := by
  suffices hBoth : v.Numbered ∧ v.Pending ticket job from hBoth.2
  induction errands with
  | refl => exact ⟨hw, h⟩
  | tail _ errand ih => exact ⟨ih.1.errand errand, ih.2.errand ih.1 errand⟩

/-- Another command is taken out of the queue. -/
theorem take (h : w.Pending ticket job) {command : Command κ.Job} {m : Mailbox (Command κ.Job)}
    (taken : w.dispatcher.mailbox.receive = some (command, m))
    (other : command ≠ .invoke ticket job) :
    (w.updateDispatcher fun d => { d with mailbox := m }).Pending ticket job := by
  refine ⟨?_, h.awaits.receive taken other⟩
  rw [← h.isOpen]
  unfold Mailbox.receive at taken
  split at taken
  · cases taken
  · cases taken
    rfl

/-- The queue is given up with the job or with the one who waits with it. -/
theorem vacate (h : w.Pending ticket job) (hw : w.Numbered)
    (told : w.dispatcher.stopped = true ∨ w.dispatcher.mailbox.items = []) :
    w.vacated.Forlorn ticket := by
  refine ⟨h.begun hw, by simp [vacated, updateDispatcher], by simp [vacated, updateDispatcher],
    fun reply hMem => ?_⟩
  rcases Numbered.mem_vacated.1 hMem with hOld | ⟨hLost, hItem⟩
  · exact absurd (.inr ⟨reply, hOld⟩) (hw.unspent h.awaits.mem_places)
  · refine ⟨hLost, told.resolve_right fun hNone => ?_⟩
    rw [hNone] at hItem
    cases hItem

end Pending

namespace Forlorn

theorem errands (h : w.Forlorn ticket) (errands : Errands w v) : v.Forlorn ticket := by
  have hContinues := Continues.of_errands errands
  refine ⟨(hContinues.begun ticket).trans h.begun, hContinues.phase ▸ h.ended,
    hContinues.phase ▸ h.started, fun reply hMem => ?_⟩
  rw [hContinues.replies] at hMem
  exact (h.lost reply hMem).imp_right hContinues.stopped

/-- A worker that has left runs nothing any more. -/
theorem shift {env : Surroundings κ} (h : w.Forlorn ticket) (hStep : Shift env w v) :
    v.Forlorn ticket := by
  cases hStep with
  | idle => exact h
  | teardown running | notified running | ran running | left running =>
    exact absurd running h.ended

end Forlorn

/-- What a turn of the worker does with a job that is yet to be run. -/
theorem Pending.shift {env : Surroundings κ} (h : w.Pending ticket job) (hw : w.Numbered)
    (hStep : Shift env w v) :
    v.Pending ticket job ∨ v.Forlorn ticket ∨
      w.dispatcher.phase = .running ∧ w.dispatcher.teardowns = [] ∧
        ∃ m, w.dispatcher.mailbox.receive = some (.invoke ticket job, m) := by
  cases hStep with
  | idle => exact .inl h
  | teardown running first later => exact .inl (h.errands hw later)
  | notified running clear taken later =>
    exact .inl ((h.take taken (by simp)).errands (hw.take taken) later)
  | @ran v other task m running clear taken works later =>
    by_cases hOther : (.invoke other task : Command κ.Job) = .invoke ticket job
    · exact .inr (.inr ⟨running, clear, m, hOther ▸ taken⟩)
    · left
      have hTaken := h.take taken hOther
      have hBegins := hw.begin running taken
      have hBeginning : (w.beginning other m).Pending ticket job := ⟨hTaken.isOpen, hTaken.awaits⟩
      have hWorked := hBeginning.errands hBegins works
      have hSettled := (hw.begin running taken).errands works
      have hSpent : ((env.work task).left (w.beginning other m)).Spent other := by
        left
        rw [(Continues.of_errands works).begun, begun_beginning, if_pos rfl]
        exact Nat.succ_pos _
      refine errands (w := ((env.work task).left (w.beginning other m)).settling other
        (w.verdict env other task m)) ⟨hWorked.isOpen, hWorked.awaits⟩
        (hSettled.settle hSpent _) later
  | @left x y v running out told leaving later =>
    right; left
    have hx : x.Pending ticket job ∧ x.Numbered := by
      rcases out with rfl | ⟨m, taken, rfl⟩
      · exact ⟨h, hw⟩
      · exact ⟨h.take taken (by simp), hw.take taken⟩
    have hy := (hx.1.vacate hx.2 told).errands leaving
    refine Forlorn.errands ?_ later
    exact ⟨hy.begun, by simp [updateDispatcher], by simp [updateDispatcher], hy.lost⟩

namespace Replied

theorem errands (h : w.Replied ticket reply) (errands : Errands w v) : v.Replied ticket reply := by
  have hContinues := Continues.of_errands errands
  exact ⟨hContinues.begun ticket ▸ h.begun, hContinues.replies ▸ h.found⟩

/-- A job of which there is a reply has begun. -/
theorem spent (h : w.Replied ticket reply) : w.Spent ticket :=
  .inl h.begun

/-- A turn of the worker leaves replies as they are. -/
theorem shift {env : Surroundings κ} (h : w.Replied ticket reply) (hw : w.Numbered)
    (hStep : Shift env w v) : v.Replied ticket reply := by
  cases hStep with
  | idle => exact h
  | teardown running first later => exact h.errands later
  | @notified _ _ _ m running clear taken later =>
    exact errands (w := w.updateDispatcher fun d => { d with mailbox := m })
      ⟨h.begun, h.found⟩ later
  | @ran v other task m running clear taken works later =>
    have hOther : other ≠ ticket := fun hSame =>
      hw.unspent (hw.out_of_receive taken).1 (hSame ▸ h.spent)
    have hBeginning : (w.beginning other m).Replied ticket reply := by
      refine ⟨?_, h.found⟩
      rw [begun_beginning]
      exact Nat.lt_of_lt_of_le h.begun (Nat.le_add_right _ _)
    have hWorked := hBeginning.errands works
    refine errands ⟨?_, ?_⟩ later
    · rw [begun_settling]
      exact hWorked.begun
    · change List.find? _ ((other, _) :: _) = _
      rw [List.find?_cons_of_neg (by simpa using hOther)]
      exact hWorked.found
  | @left x y v running out told leaving later =>
    have hx : x.Replied ticket reply ∧ x.Numbered := by
      rcases out with rfl | ⟨m, taken, rfl⟩
      · exact ⟨h, hw⟩
      · exact ⟨⟨h.begun, h.found⟩, hw.take taken⟩
    have hVacated : x.vacated.Replied ticket reply := by
      refine ⟨hx.1.begun, ?_⟩
      simp only [vacated, updateDispatcher]
      rw [List.find?_append, List.find?_eq_none.2, Option.none_or]
      · exact hx.1.found
      · -- What is given up now was not run before.
        intro given hMem hSame
        obtain ⟨t, hItem, rfl⟩ := List.mem_map.1 (List.mem_reverse.1 hMem)
        have hTicket : t = ticket := by simpa using hSame
        exact hx.2.unspent (List.mem_append_left _ hItem) (hTicket ▸ hx.1.spent)
    have hy := hVacated.errands leaving
    exact errands (w := y.updateDispatcher fun d => { d with phase := .finished })
      ⟨hy.begun, hy.found⟩ later

variable {look : System κ → κ.Note} {manners : Surroundings κ → Prop}

/-- Once there is a reply, it stays. -/
theorem run (reached : Reached look manners w) (h : w.Replied ticket reply)
    (run : Run look manners w v) : v.Replied ticket reply := by
  obtain ⟨client, before⟩ := reached
  induction run with
  | refl => exact h
  | act _ conduct ih => exact ih.errands (Errands.conduct conduct _)
  | @start v run unstarted settings executor ih =>
    have hNumbered := Numbered.of_reached ⟨client, before.trans run⟩
    exact absurd (hNumbered.unstarted unstarted ticket) (Nat.ne_of_gt ih.begun)
  | turn run serves ih =>
    have hReached : Reached look manners _ := ⟨client, before.trans run⟩
    exact ih.shift (.of_reached hReached) (.of_step serves (.of_reached look hReached))

/-- A job that was run has left the reply that tells how it ended. -/
theorem of_ran {ended : Except Halt κ.Value} (reached : Reached look manners w)
    (h : Ran look manners ticket job ended w v) : v.Replied ticket (.ofEnd ended) := by
  obtain ⟨client, first⟩ := reached
  obtain @⟨u, env, m, before, serves, running, clear, taken, ends, later⟩ := h
  have hReached : Reached look manners u := ⟨client, first.trans before⟩
  refine run (.turn hReached serves) ?_ later
  rw [Worker.left_step_of_command running clear taken]
  refine errands ?_ (Shift.runJob serves ticket job m)
  refine ⟨?_, ?_⟩
  · have hWorks := Continues.of_errands ((Errands.serves serves).work job (u.beginning ticket m))
    rw [begun_settling, hWorks.begun, begun_beginning, if_pos rfl]
    exact Nat.succ_pos _
  · rw [ends]
    exact List.find?_cons_of_pos (by simp)

end Replied

/-! What whoever has the ticket is told. -/

/-- The answer for whoever has the ticket. The reply is not looked for before the job has found its
place, nor where the queue was closed meanwhile. -/
def answer? (w : System κ) (ticket : Ticket) : Option (Except DispatchError κ.Value) :=
  match (w.dispatcher.mailbox.poll ticket).1 with
  | .closed => some (.error .stopped)
  | .full => none
  | .accepted =>
    (w.dispatcher.replies.find? (·.1 == ticket)).map (·.2.answer w.dispatcher.stopped)

/-- What is told of a ticket can be worked out from the system. -/
theorem tells_iff {answer : Option (Except DispatchError κ.Value)} :
    w.Tells ticket answer ↔ w.answer? ticket = answer := by
  have hAnswer : ((Dispatcher.pollInvoke ticket).on w).1 = .ok (w.answer? ticket) := by
    have hPoll : (Dispatcher.poll ticket : Act κ Mailbox.Sent).on w =
        (.ok (w.dispatcher.mailbox.poll ticket).1, w.updateDispatcher fun d =>
          { d with mailbox := (d.mailbox.poll ticket).2 }) := rfl
    rw [Dispatcher.pollInvoke, Act.on_bind_ok hPoll, answer?]
    cases (w.dispatcher.mailbox.poll ticket).1 with
    | closed | full => rfl
    | accepted =>
      simp only [Act.on_get_bind, updateDispatcher]
      cases w.dispatcher.replies.find? (·.1 == ticket) with
      | none => rfl
      | some found =>
        obtain ⟨_, reply⟩ := found
        cases reply <;> rfl
  rw [Tells, hAnswer, Except.ok.injEq]

/-- Nobody is told two things at once. -/
theorem Tells.unique {one other : Option (Except DispatchError κ.Value)} (h : w.Tells ticket one)
    (h' : w.Tells ticket other) : one = other :=
  (tells_iff.1 h).symm.trans (tells_iff.1 h')

/-- Who does not wait for room is told what the reply says. -/
theorem answer?_of_not_mem (h : ticket ∉ w.dispatcher.mailbox.places) :
    w.answer? ticket =
      (w.dispatcher.replies.find? (·.1 == ticket)).map (·.2.answer w.dispatcher.stopped) := by
  have hNone : w.dispatcher.mailbox.waiters.find? (·.ticket == ticket) = none := by
    refine List.find?_eq_none.2 fun x hx hSame => h (List.mem_append_right _ ?_)
    exact List.mem_map.2 ⟨x, hx, by simpa using hSame⟩
  rw [answer?, Mailbox.poll, hNone]

/-- Nothing is told of a job that is yet to be run. -/
theorem Pending.answer? (h : w.Pending ticket job) (hw : w.Numbered) :
    w.answer? ticket = none := by
  have hNone : w.dispatcher.replies.find? (·.1 == ticket) = none := by
    refine List.find?_eq_none.2 fun x hx hSame => hw.unspent h.awaits.mem_places (.inr ⟨x.2, ?_⟩)
    have hTicket : x.1 = ticket := by simpa using hSame
    exact hTicket ▸ hx
  have hOpen : (w.dispatcher.mailbox.poll ticket).1 ≠ .closed := by
    unfold Mailbox.poll
    split
    · simp
    · rw [if_neg (by simp [h.isOpen])]
      split <;> simp
  rw [System.answer?]
  split
  · exact absurd ‹_› hOpen
  · rfl
  · rw [hNone]
    rfl

/-- Of a job that was run its reply is told. -/
theorem Replied.answer? (h : w.Replied ticket reply) (hw : w.Numbered) :
    w.answer? ticket = some (reply.answer w.dispatcher.stopped) := by
  rw [answer?_of_not_mem (hw.spent ticket h.spent).2, h.found]
  rfl

/-- Of a job that will never be run nothing is told but that the dispatcher has stopped, and that
is told as long as it is owed. -/
theorem Forlorn.answer? (h : w.Forlorn ticket) (hw : w.AtRest) :
    (w.Owes ticket → w.answer? ticket = some (.error .stopped)) ∧
      (¬ w.Owes ticket → w.answer? ticket = none) := by
  have hShut := hw.books.ledger.shut h.ended
  have hLost : ∀ found, w.dispatcher.replies.find? (·.1 == ticket) = some found →
      found.2.answer w.dispatcher.stopped = .error .stopped := by
    intro found hFound
    have hTicket : found.1 = ticket := by simpa using List.find?_some hFound
    obtain ⟨hLost, hStopped⟩ := h.lost found.2 (hTicket ▸ List.mem_of_find?_eq_some hFound)
    rw [hLost, hStopped]
    rfl
  by_cases hPlace : ticket ∈ w.dispatcher.mailbox.places
  · refine ⟨fun _ => ?_, fun hNone => absurd (.inl hPlace) hNone⟩
    rw [Mailbox.places, hw.books.ledger.tidy.closed hShut] at hPlace
    obtain ⟨x, hx, hTicket⟩ := List.mem_map.1 hPlace
    have hSome : (w.dispatcher.mailbox.waiters.find? (·.ticket == ticket)).isSome :=
      List.find?_isSome.2 ⟨x, hx, by simpa using hTicket⟩
    obtain ⟨y, hy⟩ := Option.isSome_iff_exists.1 hSome
    simp [System.answer?, Mailbox.poll, hy, hShut]
  · rw [answer?_of_not_mem hPlace]
    cases hFound : w.dispatcher.replies.find? (·.1 == ticket) with
    | none =>
      refine ⟨fun hOwes => ?_, fun _ => rfl⟩
      obtain ⟨reply, hMem⟩ := hOwes.resolve_left hPlace
      exact absurd (by simp) (List.find?_eq_none.1 hFound _ hMem)
    | some found =>
      refine ⟨fun _ => congrArg some (hLost found hFound), fun hNone => ?_⟩
      have hTicket : found.1 = ticket := by simpa using List.find?_some hFound
      exact absurd (.inr ⟨found.2, hTicket ▸ List.mem_of_find?_eq_some hFound⟩) hNone

/-! What becomes of the job in a run. -/

section

variable {look : System κ → κ.Note} {manners : Surroundings κ → Prop}

/-- A job that was yet to be run still is, or it was run, or the worker has left without it. -/
theorem Pending.run (reached : Reached look manners v) (h : v.Pending ticket job)
    (run : Run look manners v w) :
    w.Pending ticket job ∨ w.Forlorn ticket ∨ ∃ ended, Ran look manners ticket job ended v w := by
  obtain ⟨client, before⟩ := reached
  induction run with
  | refl => exact .inl h
  | act run conduct ih =>
    have hNumbered := Numbered.of_reached ⟨client, before.trans run⟩
    have hErrands := fun v => Errands.conduct conduct v
    obtain hPending | hForlorn | ⟨ended, hRan⟩ := ih
    · exact .inl (hPending.errands hNumbered (hErrands _))
    · exact .inr (.inl (hForlorn.errands (hErrands _)))
    · exact .inr (.inr ⟨ended, hRan.run (.act .refl conduct)⟩)
  | start run unstarted settings executor ih =>
    have hRest := AtRest.of_reached look ⟨client, before.trans run⟩
    obtain hPending | hForlorn | ⟨ended, hRan⟩ := ih
    · have hRunning := hRest.running_of_open hPending.isOpen
      exact absurd (unstarted.symm.trans hRunning) (by simp)
    · exact absurd unstarted hForlorn.started
    · exact .inr (.inr ⟨ended, hRan.run (.start .refl unstarted settings executor)⟩)
  | @turn u env run serves ih =>
    have hReached : Reached look manners u := ⟨client, before.trans run⟩
    have hStep := Shift.of_step serves (.of_reached look hReached)
    obtain hPending | hForlorn | ⟨ended, hRan⟩ := ih
    · obtain hPending | hForlorn | ⟨running, clear, m, taken⟩ :=
        hPending.shift (.of_reached hReached) hStep
      · exact .inl hPending
      · exact .inr (.inl hForlorn)
      · exact .inr (.inr ⟨_, run, serves, running, clear, taken, rfl, .refl⟩)
    · exact .inr (.inl (hForlorn.shift hStep))
    · exact .inr (.inr ⟨ended, hRan.run (.turn .refl serves)⟩)

/-- A job that the worker has left without is not run any more. -/
theorem Forlorn.run (reached : Reached look manners v) (h : v.Forlorn ticket)
    (run : Run look manners v w) : w.Forlorn ticket := by
  obtain ⟨client, before⟩ := reached
  induction run with
  | refl => exact h
  | act _ conduct ih => exact ih.errands (Errands.conduct conduct _)
  | start _ unstarted settings executor ih => exact absurd unstarted ih.started
  | turn run serves ih =>
    exact ih.shift (.of_step serves (.of_reached look ⟨client, before.trans run⟩))

end
end System

/-- Who keeps what the action goes through takes it. -/
theorem Act.left_given {α : Type} {kept : Dispatcher κ → Bool} {act : Act κ α} {w : System κ}
    (h : kept w.dispatcher = true) : (act.given kept).left w = act.left w := by
  rw [Act.given, Act.left_get_bind, if_pos h, Act.left_bind_pure]

/-- Who keeps the dispatcher may hand a job in. -/
theorem Run.beginInvoke {look : System κ → κ.Note} {manners : Surroundings κ → Prop} {w : System κ}
    {env : Surroundings κ} (serves : env.Serves look manners) (held : w.dispatcher.held = true)
    (job : κ.Job) : Run look manners w ((Dispatcher.beginInvoke job).left w) := by
  have hCalled : Run look manners w (((Call.beginInvoke job).run env).left w) :=
    .act .refl (.call serves (.beginInvoke job))
  rwa [Call.run, Act.left_given held] at hCalled

/-- A job is refused and nothing is changed, or it is taken in under a new ticket and yet to be
run. -/
theorem Dispatcher.beginInvoke_cases (w : System κ) (job : κ.Job) :
    (((Dispatcher.beginInvoke job).on w).1 = .ok (.error .stopped) ∧
      ((Dispatcher.beginInvoke job).left w).dispatcher.mailbox = w.dispatcher.mailbox ∧
      ((Dispatcher.beginInvoke job).left w).past = w.past) ∨
    ((Dispatcher.beginInvoke job).on w).1 = .ok (.ok ⟨w.dispatcher.nextTicket⟩) ∧
      ((Dispatcher.beginInvoke job).left w).Pending ⟨w.dispatcher.nextTicket⟩ job := by
  by_cases hStopped : w.dispatcher.stopped = true
  · left
    simp only [beginInvoke, Act.on_get_bind, Act.left_get_bind, hStopped, if_true]
    exact ⟨rfl, rfl, rfl⟩
  · simp only [beginInvoke, Act.on_get_bind, Act.left_get_bind]
    rw [if_neg hStopped]
    let drawn := w.updateDispatcher fun d => { d with nextTicket := d.nextTicket + 1 }
    let ticket : Ticket := ⟨w.dispatcher.nextTicket⟩
    have hDraw : (Dispatcher.drawTicket : Act κ Ticket).on w = (.ok ticket, drawn) := rfl
    have hSend : (Dispatcher.send ticket (.invoke ticket job)).on drawn =
        (.ok (w.dispatcher.mailbox.send ticket (.invoke ticket job)).1,
          drawn.updateDispatcher fun d =>
            { d with mailbox := (w.dispatcher.mailbox.send ticket (.invoke ticket job)).2 }) := rfl
    rw [Act.on_bind_ok hDraw, Act.left_bind_ok hDraw, Act.on_bind_ok hSend, Act.left_bind_ok hSend]
    rcases w.dispatcher.mailbox.send_cases ticket (.invoke ticket job) with
      hSent | ⟨isOpen, hSent | hSent⟩ <;> rw [hSent]
    · exact .inl ⟨rfl, rfl, rfl⟩
    · exact .inr ⟨rfl, isOpen, .inl (List.mem_append_right _ (List.mem_singleton.2 rfl))⟩
    · exact .inr ⟨rfl, isOpen,
        .inr ⟨_, List.mem_append_right _ (List.mem_singleton.2 rfl), rfl, rfl⟩⟩

/-- What whoever handed the job in is told of it, and when, where the dispatcher has come from one
system to the other since. -/
structure Invocation (look : System κ → κ.Note) (manners : Surroundings κ → Prop) (ticket : Ticket)
    (job : κ.Job) (v w : System κ) : Prop where
  once : w.begun ticket ≤ 1
  begun : 0 < w.begun ticket ↔ ∃ ended, Ran look manners ticket job ended v w
  answered : ∀ x, w.Tells ticket (some (.ok x)) ↔ Ran look manners ticket job (.ok x) v w
  panicked : w.Tells ticket (some (.error .jobPanicked)) ↔
    (∃ p, Ran look manners ticket job (.error (.panic p)) v w) ∧ w.dispatcher.stopped = false
  stopped : w.Tells ticket (some (.error .stopped)) ↔
    (∃ p, Ran look manners ticket job (.error (.panic p)) v w) ∧ w.dispatcher.stopped = true ∨
    w.begun ticket = 0 ∧ w.dispatcher.phase ≠ .running ∧ w.Owes ticket
  nothing : w.Tells ticket none ↔
    w.begun ticket = 0 ∧ (w.dispatcher.phase = .running ∨ ¬ w.Owes ticket)
  failed : ∀ e, w.Tells ticket (some (.error e)) → e = .jobPanicked ∨ e = .stopped
  /-- What is owed is lost only by being told that the dispatcher has stopped. -/
  owed : w.Owes ticket →
    ((Dispatcher.pollInvoke ticket).left w).Owes ticket ∨ w.Tells ticket (some (.error .stopped))
  never : w.begun ticket = 0 → w.dispatcher.phase ≠ .running →
    ∀ x, Run look manners w x → x.begun ticket = 0

section

variable {look : System κ → κ.Note} {manners : Surroundings κ → Prop} {ticket : Ticket}
  {job : κ.Job} {v w : System κ}

/-- A job does not end by running out of bounds. -/
theorem Ran.ended {ended : Except Halt κ.Value} (h : Ran look manners ticket job ended v w) :
    (∃ x, ended = .ok x) ∨ ∃ p, ended = .error (.panic p) := by
  obtain @⟨u, env, m, -, serves, -, -, -, ends, -⟩ := h
  match ended with
  | .ok x => exact .inl ⟨x, rfl⟩
  | .error (.panic p) => exact .inr ⟨p, rfl⟩
  | .error .exhausted => exact absurd ends (serves.endure.work job _)

namespace Invocation

/-- What is told of a job that was not run. -/
theorem of_unrun (reached : Reached look manners v) (run : Run look manners v w)
    (unrun : w.begun ticket = 0)
    (stopped : w.Tells ticket (some (.error .stopped)) ↔
      w.dispatcher.phase ≠ .running ∧ w.Owes ticket)
    (silent : ¬ w.Tells ticket (some (.error .stopped)) → w.Tells ticket none)
    (owed : w.Owes ticket → ((Dispatcher.pollInvoke ticket).left w).Owes ticket ∨
      w.Tells ticket (some (.error .stopped)))
    (never : w.dispatcher.phase ≠ .running → ∀ x, Run look manners w x → x.begun ticket = 0) :
    Invocation look manners ticket job v w := by
  have hNever (ended : Except Halt κ.Value) : ¬ Ran look manners ticket job ended v w :=
    fun hRan => absurd unrun (Nat.ne_of_gt (System.Replied.of_ran reached hRan).begun)
  have hOnly {answer : Except DispatchError κ.Value} (h : w.Tells ticket (some answer)) :
      answer = .error .stopped := by
    by_contra hOther
    refine absurd (h.unique (silent fun hStopped => hOther ?_)) (by simp)
    exact Option.some.inj (h.unique hStopped)
  exact {
    once := (System.Numbered.of_reached (reached.run run)).once ticket
    begun := ⟨fun h => absurd unrun (Nat.ne_of_gt h),
      fun ⟨ended, hRan⟩ => absurd hRan (hNever ended)⟩
    answered := fun x => ⟨fun h => (nomatch hOnly h), fun hRan => absurd hRan (hNever _)⟩
    panicked := ⟨fun h => (nomatch hOnly h), fun ⟨⟨_, hRan⟩, _⟩ => absurd hRan (hNever _)⟩
    stopped := stopped.trans
      ⟨fun h => .inr ⟨unrun, h⟩, fun h => (h.resolve_left fun ⟨⟨_, hRan⟩, _⟩ => hNever _ hRan).2⟩
    nothing := by
      refine ⟨fun h => ⟨unrun, ?_⟩, fun ⟨_, h⟩ => silent fun hStopped => ?_⟩
      · by_contra hOwed
        exact absurd (h.unique (stopped.2 (by simpa using hOwed))) (by simp)
      · obtain ⟨hEnded, hOwes⟩ := stopped.1 hStopped
        exact h.elim hEnded fun hNot => hNot hOwes
    failed := fun e h => .inr (Except.error.inj (hOnly h))
    owed := owed
    never := fun _ => never }

/-- Nothing is told of a job that is yet to be run. -/
theorem of_pending (reached : Reached look manners v) (run : Run look manners v w)
    (h : w.Pending ticket job) : Invocation look manners ticket job v w := by
  have hReached := reached.run run
  have hNumbered := System.Numbered.of_reached hReached
  have hNothing := System.tells_iff.2 (h.answer? hNumbered)
  have hRunning := (System.AtRest.of_reached look hReached).running_of_open h.isOpen
  have hPolled := h.errands hNumbered (Errands.pollInvoke ticket w)
  refine of_unrun reached run (h.begun hNumbered) ?_ (fun _ => hNothing)
    (fun _ => .inl (.inl hPolled.awaits.mem_places)) fun hEnded => absurd hRunning hEnded
  exact ⟨fun hStopped => absurd (hNothing.unique hStopped) (by simp),
    fun ⟨hEnded, _⟩ => absurd hRunning hEnded⟩

/-- A job that the worker has left without running it is not run any more. -/
theorem of_forlorn (reached : Reached look manners v) (run : Run look manners v w)
    (h : w.Forlorn ticket) : Invocation look manners ticket job v w := by
  have hReached := reached.run run
  obtain ⟨hOwed, hNone⟩ := h.answer? (System.AtRest.of_reached look hReached)
  simp only [← System.tells_iff] at hOwed hNone
  refine of_unrun reached run h.begun ⟨fun hStopped => ⟨h.ended, ?_⟩, fun ⟨_, hOwes⟩ => hOwed hOwes⟩
    (fun hSilent => hNone fun hOwes => hSilent (hOwed hOwes)) (fun hOwes => .inr (hOwed hOwes))
    (fun _ x further => (h.run hReached further).begun)
  by_contra hOwes
  exact absurd ((hNone hOwes).unique hStopped) (by simp)

/-- What is told of a job that was run. -/
theorem of_ran {ended : Except Halt κ.Value} (reached : Reached look manners v)
    (h : Ran look manners ticket job ended v w) : Invocation look manners ticket job v w := by
  have hNumbered := System.Numbered.of_reached (reached.run h.whole)
  have hReplied := System.Replied.of_ran reached h
  have hPolled := hReplied.errands (Errands.pollInvoke ticket w)
  have hBegun := Nat.ne_of_gt hReplied.begun
  have hTells {ended : Except Halt κ.Value} (h : Ran look manners ticket job ended v w) :
      w.Tells ticket (some ((Reply.ofEnd ended).answer w.dispatcher.stopped)) :=
    System.tells_iff.2 ((System.Replied.of_ran reached h).answer? hNumbered)
  have hReturned {x : κ.Value} (hTold : w.Tells ticket (some (.ok x))) :
      Ran look manners ticket job (.ok x) v w := by
    have hSame := Option.some.inj (hTold.unique (hTells h))
    obtain ⟨y, rfl⟩ | ⟨p, rfl⟩ := h.ended
    · exact Except.ok.inj hSame ▸ h
    · cases hSame
  have hFailed {e : DispatchError} (hTold : w.Tells ticket (some (.error e))) :
      (∃ p, Ran look manners ticket job (.error (.panic p)) v w) ∧
        e = if w.dispatcher.stopped then .stopped else .jobPanicked := by
    have hSame := Option.some.inj (hTold.unique (hTells h))
    obtain ⟨y, rfl⟩ | ⟨p, rfl⟩ := h.ended
    · cases hSame
    · exact ⟨⟨p, h⟩, Except.error.inj hSame⟩
  have hPanicked (h : ∃ p, Ran look manners ticket job (.error (.panic p)) v w) :
      w.Tells ticket (some (.error (if w.dispatcher.stopped then .stopped else .jobPanicked))) := by
    obtain ⟨p, hRan⟩ := h
    exact hTells hRan
  exact {
    once := hNumbered.once ticket
    begun := ⟨fun _ => ⟨ended, h⟩, fun _ => hReplied.begun⟩
    answered := fun x => ⟨hReturned, hTells⟩
    panicked := by
      refine ⟨fun hTold => ?_, fun ⟨hRan, hGoes⟩ => by simpa [hGoes] using hPanicked hRan⟩
      obtain ⟨hRan, hSame⟩ := hFailed hTold
      exact ⟨hRan, by simpa using hSame⟩
    stopped := by
      refine ⟨fun hTold => .inl ?_, fun hOr => ?_⟩
      · obtain ⟨hRan, hSame⟩ := hFailed hTold
        exact ⟨hRan, by simpa using hSame⟩
      · obtain ⟨hRan, hStopped⟩ := hOr.resolve_right fun ⟨hUnrun, _⟩ => hBegun hUnrun
        simpa [hStopped] using hPanicked hRan
    nothing := ⟨fun hTold => absurd (hTold.unique (hTells h)) (by simp),
      fun ⟨hUnrun, _⟩ => absurd hUnrun hBegun⟩
    failed := fun e hTold => by
      have hSame := (hFailed hTold).2
      split at hSame <;> simp [hSame]
    owed := fun _ => .inl (.inr ⟨_, List.mem_of_find?_eq_some hPolled.found⟩)
    never := fun hUnrun => absurd hUnrun hBegun }

end Invocation

end

/-- A job is refused and nothing has changed, or it is taken in under a ticket. From then on,
whatever clients and the worker do, it is run once at most. Whoever handed it in is told what it
returned exactly when it was run and returned that, and that it panicked exactly when it was run and
panicked and the dispatcher was not told to stop so far. That the dispatcher has stopped is told
where the worker has left without running the job, which it then never does, and of a job that has
panicked where the dispatcher was told to stop meanwhile. -/
theorem invocations_told {look : System κ → κ.Note} {manners : Surroundings κ → Prop} {w : System κ}
    {env : Surroundings κ} (reached : Reached look manners w) (serves : env.Serves look manners)
    (held : w.dispatcher.held = true) (job : κ.Job) :
    (((Dispatcher.beginInvoke job).on w).1 = .ok (.error .stopped) ∧
      ((Dispatcher.beginInvoke job).left w).dispatcher.mailbox = w.dispatcher.mailbox ∧
      ((Dispatcher.beginInvoke job).left w).past = w.past) ∨
    ∃ ticket, ((Dispatcher.beginInvoke job).on w).1 = .ok (.ok ticket) ∧
      ∀ v, Run look manners ((Dispatcher.beginInvoke job).left w) v →
        Invocation look manners ticket job ((Dispatcher.beginInvoke job).left w) v := by
  obtain hRefused | ⟨hTaken, hPending⟩ := Dispatcher.beginInvoke_cases w job
  · exact .inl hRefused
  · refine .inr ⟨_, hTaken, fun v run => ?_⟩
    have hReached := reached.run (.beginInvoke serves held job)
    obtain hPending | hForlorn | ⟨ended, hRan⟩ := hPending.run hReached run
    · exact .of_pending hReached run hPending
    · exact .of_forlorn hReached run hForlorn
    · exact .of_ran hReached hRan

instance : DecidableEq Client.plain.Value :=
  inferInstanceAs (DecidableEq Unit)

/-- Surroundings in which every job panics. -/
def Surroundings.stumbling : Surroundings Client.plain :=
  { obliging with work := fun _ => throw (.panic .value) }

/-- A panic is all that they do. -/
theorem Surroundings.serves_stumbling : stumbling.Serves (fun _ => ()) Surroundings.any :=
  .intro (fun _ => False) (fun _ h => h.elim)
    ⟨fun _ _ _ => .pure _, fun _ _ => .pure _, fun _ _ _ => .pure _, fun _ _ => .pure _,
      fun _ => .pure _, .pure _, fun _ => .pure _, fun _ => .panic _⟩ trivial

/-- A dispatcher that was just started. -/
def launched : System Client.plain :=
  (Dispatcher.start {} true).left { client := () }

/-- The dispatcher was only started. -/
theorem reached_launched : Reached (fun _ => ()) Surroundings.any launched :=
  ⟨(), .start .refl rfl {} true⟩

/-- A job was handed in and has panicked, and then the dispatcher was told to stop. -/
def stumbled : System Client.plain :=
  (Call.each Surroundings.stumbling [⟨_, .beginShutdown⟩]).left
    ((Worker.step Surroundings.stumbling).left ((Dispatcher.beginInvoke ()).left launched))

/-- The worker runs the job before the dispatcher is told to stop. -/
theorem run_stumbled :
    Run (fun _ => ()) Surroundings.any ((Dispatcher.beginInvoke ()).left launched) stumbled :=
  .act (.turn .refl Surroundings.serves_stumbling) (.each Surroundings.serves_stumbling _)

/-- The job was run once, and still it is said that the dispatcher has stopped. -/
theorem invocations_told_stumbled :
    ((Dispatcher.beginInvoke ()).on launched).1 = .ok (.ok ⟨0⟩) ∧
    Invocation (fun _ => ()) Surroundings.any ⟨0⟩ () ((Dispatcher.beginInvoke ()).left launched)
      stumbled ∧
    stumbled.Tells ⟨0⟩ (some (.error .stopped)) ∧ stumbled.begun ⟨0⟩ = 1 := by
  have hTaken : ((Dispatcher.beginInvoke ()).on launched).1 = .ok (.ok ⟨0⟩) := rfl
  refine ⟨hTaken, ?_, rfl, by decide +kernel⟩
  obtain ⟨hRefused, -⟩ | ⟨ticket, hTicket, hTold⟩ :=
    invocations_told reached_launched Surroundings.serves_stumbling rfl ()
  · cases hTaken.symm.trans hRefused
  · cases hTaken.symm.trans hTicket
    exact hTold stumbled run_stumbled

/-- It is said that the dispatcher has stopped of a job that was run, if the dispatcher was told to
stop before anybody asked. And where the worker was cancelled, it is said that a job has panicked
that was never run. -/
theorem not_told_stumbled :
    (¬ ∀ (w v : System Client.plain) (ticket : Ticket), Reached (fun _ => ()) Surroundings.any w →
      w.dispatcher.held = true → ((Dispatcher.beginInvoke ()).on w).1 = .ok (.ok ticket) →
      Run (fun _ => ()) Surroundings.any ((Dispatcher.beginInvoke ()).left w) v →
      v.Tells ticket (some (.error .stopped)) → v.begun ticket = 0) ∧
    ¬ ∀ (env : Surroundings Client.plain) (w : System Client.plain) (ticket : Ticket),
      Reached (fun _ => ()) Surroundings.any w →
      ((Dispatcher.beginInvoke ()).on w).1 = .ok (.ok ticket) →
      ((Dispatcher.kill env).left ((Dispatcher.beginInvoke ()).left w)).Tells ticket
        (some (.error .jobPanicked)) →
      0 < ((Dispatcher.kill env).left ((Dispatcher.beginInvoke ()).left w)).begun ticket := by
  constructor
  · intro h
    exact absurd (h launched stumbled ⟨0⟩ reached_launched rfl rfl run_stumbled rfl)
      (by decide +kernel)
  · intro h
    exact absurd (h .obliging launched ⟨0⟩ reached_launched rfl rfl) (by decide +kernel)

end HostedStreams
