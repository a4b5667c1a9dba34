import HostedStreams.Proofs.Deferral
import HostedStreams.Proofs.Invocations

/-! Jobs wait for what came before them. The queue gives out what was put in first, so behind a job
there are only notifications that were accepted later; and the worker takes teardowns before any
command, so it begins no job while one is left. -/
namespace HostedStreams

variable {κ : Client}

open Entry (told accepted? settled? dropped?)

namespace System

variable {n : Nat} {ticket : Ticket} {job : κ.Job} {v w : System κ}

/-- Wherever the job is in the queue, at least so many notifications were accepted before those
behind it. -/
structure Behind (n : Nat) (ticket : Ticket) (job : κ.Job) (w : System κ) : Prop where
  enough : n ≤ (told accepted? w.past).length
  behind : ∀ before after, w.dispatcher.mailbox.items = before ++ .invoke ticket job :: after →
    n + (after.filterMap (·.notification?)).length ≤ (told accepted? w.past).length
  waiting : ∀ x ∈ w.dispatcher.mailbox.waiters, x.item.notification? = none

/-- What was accepted can be read off the line of entries. -/
theorem told_accepted_of_line (h : v.past.filter (·.queueing) = w.past.filter (·.queueing)) :
    told accepted? v.past = told accepted? w.past := by
  have hAmong (u : System κ) : told accepted? u.past =
      told accepted? (u.past.filter (·.queueing)) := by
    rw [told, told, List.filterMap_filter]
    congr 2
    funext e
    cases e <;> rfl
  rw [hAmong, h, ← hAmong]

namespace Behind

/-- What leaves the queue leaves at its front. -/
theorem of_suffix (h : w.Behind n ticket job)
    (accepted : told accepted? v.past = told accepted? w.past)
    (suffix : v.dispatcher.mailbox.items <:+ w.dispatcher.mailbox.items)
    (waiting : ∀ x ∈ v.dispatcher.mailbox.waiters, x.item.notification? = none) :
    v.Behind n ticket job := by
  refine ⟨accepted ▸ h.enough, fun before after hItems => ?_, waiting⟩
  obtain ⟨front, hFront⟩ := suffix
  rw [accepted]
  refine h.behind (front ++ before) after ?_
  rw [← hFront, hItems, List.append_assoc]

/-- What is put into the queue is put at its end. -/
theorem of_push (h : w.Behind n ticket job) {command : Command κ.Job}
    (items : v.dispatcher.mailbox.items = w.dispatcher.mailbox.items ++ [command])
    (accepted : told accepted? v.past = told accepted? w.past ++ command.notification?.toList)
    (waiting : ∀ x ∈ v.dispatcher.mailbox.waiters, x.item.notification? = none) :
    v.Behind n ticket job := by
  have hEnough : n ≤ (told accepted? v.past).length := by
    rw [accepted, List.length_append]
    exact Nat.le_trans h.enough (Nat.le_add_right _ _)
  refine ⟨hEnough, fun before after hItems => ?_, waiting⟩
  rw [items] at hItems
  rcases List.eq_nil_or_concat after with rfl | ⟨rest, last, rfl⟩
  · exact hEnough
  · -- The command came last, so the job was there before.
    rw [List.concat_eq_append, ← List.cons_append, ← List.append_assoc] at hItems
    obtain ⟨hOld, hLast⟩ := List.append_inj' hItems rfl
    obtain rfl := List.head_eq_of_cons_eq hLast
    have hBehind := h.behind before rest hOld
    rw [accepted, List.length_append, List.concat_eq_append, List.filterMap_append,
      List.length_append]
    have hSame : ([command].filterMap (·.notification?)).length =
        command.notification?.toList.length := by cases command <;> rfl
    omega

/-- An errand puts nothing in front of what waits. -/
theorem errand (h : w.Behind n ticket job) (errand : Errand w v) : v.Behind n ticket job := by
  have hPast : told accepted? w.past =
      told accepted? w.past ++ (none : Option (StreamId × Event)).toList := by simp
  have hKept (f : Dispatcher κ → Dispatcher κ)
      (hf : (f w.dispatcher).mailbox = w.dispatcher.mailbox) :
      (w.updateDispatcher f).Behind n ticket job :=
    h.of_suffix rfl (by rw [updateDispatcher, hf]) (by rw [updateDispatcher, hf]; exact h.waiting)
  -- A job or the end of the worker is sent.
  have hSend (other : Ticket) (command : Command κ.Job) (hOther : command.notification? = none)
      {f : Dispatcher κ → Dispatcher κ}
      (hf : (f w.dispatcher).mailbox = (w.dispatcher.mailbox.send other command).2) :
      (w.updateDispatcher f).Behind n ticket job := by
    rcases w.dispatcher.mailbox.send_cases other command with hSent | ⟨-, hSent | hSent⟩ <;>
      rw [hSent] at hf
    · exact hKept f hf
    · exact h.of_push (by rw [updateDispatcher, hf]; rfl) (by rw [hOther]; exact hPast)
        (by rw [updateDispatcher, hf]; exact h.waiting)
    · refine h.of_suffix rfl (by rw [updateDispatcher, hf]) fun x hx => ?_
      rw [updateDispatcher, hf] at hx
      rcases List.mem_append.1 hx with hOld | hNew
      · exact h.waiting x hOld
      · rw [List.mem_singleton.1 hNew]
        exact hOther
  cases errand with
  | apart hv =>
    exact h.of_suffix (told_accepted_of_line hv.line) (hv.mailbox ▸ List.suffix_refl _)
      (hv.mailbox ▸ h.waiting)
  | accept id event sent =>
    obtain rfl := Mailbox.trySend_accepted sent
    exact h.of_push rfl (Entry.told_cons ..) h.waiting
  | invoke job => exact hSend _ _ rfl rfl
  | shutdown => exact hSend _ _ rfl rfl
  | poll other =>
    have hFewer : ∀ y ∈ w.dispatcher.mailbox.waiters.filter (·.ticket != other),
        y.item.notification? = none := fun y hy => h.waiting y (List.mem_filter.1 hy).1
    rcases w.dispatcher.mailbox.poll_cases other with
      hSame | ⟨x, found, ⟨-, hPoll⟩ | ⟨-, hPoll⟩⟩
    · exact hKept _ hSame
    · exact h.of_suffix rfl (by rw [updateDispatcher, hPoll]) (by rwa [updateDispatcher, hPoll])
    · have hOther := h.waiting x (List.mem_of_find?_eq_some found)
      exact h.of_push (by rw [updateDispatcher, hPoll]; rfl) (by rw [hOther]; exact hPast)
        (by rwa [updateDispatcher, hPoll])

theorem errands (h : w.Behind n ticket job) (errands : Errands w v) : v.Behind n ticket job := by
  induction errands with
  | refl => exact h
  | tail _ errand ih => exact ih.errand errand

/-- The oldest command is taken out. -/
theorem take (h : w.Behind n ticket job) {command : Command κ.Job} {m : Mailbox (Command κ.Job)}
    (taken : w.dispatcher.mailbox.receive = some (command, m)) :
    (w.updateDispatcher fun d => { d with mailbox := m }).Behind n ticket job := by
  refine h.of_suffix rfl ⟨[command], (Mailbox.items_of_receive taken).symm⟩ fun x hx => ?_
  have hMem : (x.ticket, x.item) ∈ m.waiters.map fun x => (x.ticket, x.item) :=
    List.mem_map_of_mem hx
  rw [Mailbox.waiting_of_receive taken] at hMem
  obtain ⟨y, hy, hSame⟩ := List.mem_map.1 hMem
  rw [← (Prod.mk.inj hSame).2]
  exact h.waiting y hy

/-- A step of the worker takes from the front of the queue. -/
theorem shift {env : Surroundings κ} (h : w.Behind n ticket job) (hStep : Shift env w v) :
    v.Behind n ticket job := by
  have hRecord (u : System κ) (e : Entry κ.Note) (he : e.accepted? = none) :
      told accepted? (e :: u.past) = told accepted? u.past := by
    rw [Entry.told_cons, he, Option.toList_none, List.append_nil]
  cases hStep with
  | idle => exact h
  | teardown running first later => exact h.errands later
  | notified running clear taken later => exact (h.take taken).errands later
  | @ran v other task m running clear taken works later =>
    have hBegun : (w.beginning other m).Behind n ticket job :=
      (h.take taken).of_suffix (hRecord _ _ rfl) (List.suffix_refl _) (h.take taken).waiting
    have hWorked := hBegun.errands works
    exact (hWorked.of_suffix (v := System.settling _ other _) (hRecord _ _ rfl)
      (List.suffix_refl _) hWorked.waiting).errands later
  | @left x y v running out told leaving later =>
    have hx : x.Behind n ticket job := by
      rcases out with rfl | ⟨m, taken, rfl⟩
      · exact h
      · exact h.take taken
    have hy := (hx.of_suffix (v := x.vacated) rfl (List.nil_suffix) hx.waiting).errands leaving
    exact (hy.of_suffix (v := y.updateDispatcher fun d => { d with phase := .finished }) rfl
      (List.suffix_refl _) hy.waiting).errands later

variable {look : System κ → κ.Note} {manners : Surroundings κ → Prop}

/-- A run puts nothing in front of what waits. -/
theorem run (reached : Reached look manners w) (h : w.Behind n ticket job)
    (run : Run look manners w v) : v.Behind n ticket job := by
  obtain ⟨client, before⟩ := reached
  induction run with
  | refl => exact h
  | act _ conduct ih => exact ih.errands (Errands.conduct conduct _)
  | start run unstarted settings executor ih =>
    simp only [Dispatcher.start]
    split
    · exact ih
    · split
      · exact ih
      · split
        · exact ih
        · exact ih.of_suffix rfl List.nil_suffix fun _ hx => absurd hx List.not_mem_nil
  | turn run serves ih =>
    exact ih.shift (.of_step serves (.of_reached look ⟨client, before.trans run⟩))

/-- A job that nobody has handed in yet is not in the queue. -/
theorem of_fresh (reached : Reached look manners w) (job : κ.Job) :
    w.Behind (told accepted? w.past).length ⟨w.dispatcher.nextTicket⟩ job where
  enough := Nat.le_refl _
  behind before after hItems := by
    refine absurd ?_ (Numbered.of_reached reached).fresh
    exact List.mem_append_left _ (List.mem_filterMap.2 ⟨_, hItems ▸ List.mem_append_right _
      List.mem_cons_self, rfl⟩)
  waiting x hx := Command.notification?_eq_none.2
    ((AtRest.of_reached look reached).books.ledger.tidy.waiting x hx).1

/-- Where the job comes out of the queue, all that was accepted before has come out. -/
theorem settled (reached : Reached look manners w) (h : w.Behind n ticket job)
    {m : Mailbox (Command κ.Job)}
    (taken : w.dispatcher.mailbox.receive = some (.invoke ticket job, m)) :
    n ≤ (told settled? w.past).length := by
  have hItems := Mailbox.items_of_receive taken
  have hBehind := h.behind [] m.items hItems
  have hSettled := congrArg List.length (Accounts.settled reached)
  have hQueued : w.dispatcher.mailbox.queued = m.items.filterMap (·.notification?) := by
    rw [Mailbox.queued, hItems]
    rfl
  rw [List.length_append, hQueued] at hSettled
  omega

end Behind

section

variable {look : System κ → κ.Note} {manners : Surroundings κ → Prop} {r : StreamRef}

/-- A dispatcher that was started does not go back behind that. -/
theorem started_of_run (reached : Reached look manners w) (run : Run look manners w v)
    (started : w.dispatcher.phase ≠ .unstarted) : v.dispatcher.phase ≠ .unstarted :=
  have hAccounts := (reached.of_handling System.Accounts.outset fun hStep h => h.step hStep).1
  (Handled.lasts hAccounts (reached.handled run)).started started

/-- What was written down stays so. -/
theorem past_of_run (reached : Reached look manners w) (run : Run look manners w v) :
    w.past <:+ v.past := by
  suffices hAll : ∀ b, Handled look (.clear, w) b → w.past <:+ b.2.past from
    hAll _ (reached.handled run)
  intro b hHandled
  induction hHandled with
  | refl => exact List.suffix_refl _
  | tail _ hStep ih =>
    rcases hStep.past with hSame | ⟨x, hNew, -⟩
    · exact hSame ▸ ih
    · exact hNew ▸ ih.trans (List.suffix_cons _ _)

/-- A teardown waits until the worker has carried it out. -/
theorem torn_of_queued (reached : Reached look manners w)
    (started : w.dispatcher.phase ≠ .unstarted) (served : w.Served r)
    (queued : (w.stream r).id ∈ w.dispatcher.teardowns)
    (run : Run look manners w v) :
    (w.stream r).id ∈ v.dispatcher.teardowns ∨ (v.status r).state = .destroyed := by
  have hSteps {x y : System κ} (run : Run look manners x y) : Steps look x y :=
    (Steps.unconcerned look manners).run run
  have hStays {x y : System κ} (before : Run look manners w x) (later : Run look manners x y)
      (torn : (x.status r).state = .destroyed) : (y.status r).state = .destroyed :=
    (hSteps later).torn
      (Nat.lt_of_lt_of_le served.1 ((Steps.steady look).grows (hSteps before))) torn
  induction run with
  | refl => exact .inl queued
  | @act _ x a before conduct ih =>
    have hBides : Bides True x (a.left x) := Bides.conduct conduct x
    exact ih.imp (fun hQueued => (hBides.teardowns trivial).subset hQueued)
      (hStays before (.act .refl conduct))
  | start before unstarted => exact absurd unstarted (started_of_run reached before started)
  | @turn x env before serves ih =>
    refine ih.elim (fun hQueued => ?_) fun hTorn => .inr (hStays before (.turn .refl serves) hTorn)
    by_cases running : x.dispatcher.phase = .running
    · cases hTeardowns : x.dispatcher.teardowns with
      | nil => exact absurd (hTeardowns ▸ hQueued) List.not_mem_nil
      | cons id rest =>
        have hClears := clears_of_step (reached.run before) serves running hTeardowns
        have hLater := hSteps (before.turn serves)
        obtain ⟨hId, hBinding⟩ := hLater.keeps served.1
        have hServed : ((Worker.step env).left x).Served r :=
          ⟨Nat.lt_of_lt_of_le served.1 ((Steps.steady look).grows hLater), hBinding.trans served.2⟩
        by_cases hTorn : (((Worker.step env).left x).status r).state = .destroyed
        · exact .inr hTorn
        · -- What was taken out is another stream's, for this one is still registered.
          have hRest := AtRest.of_reached look (reached.run (before.turn serves))
          have hListed := hRest.books.roster.enrolled hServed hTorn
          rw [hId] at hListed
          have hOther : (w.stream r).id ≠ id := fun hSame => hClears.gone r (hSame ▸ hListed)
          rw [hTeardowns] at hQueued
          exact .inl (hClears.teardowns.subset ((List.mem_cons.1 hQueued).resolve_left hOther))
    · have hIdle : (Worker.step env).left x = x := by
        simp only [Worker.step, Act.left_get_bind]
        rw [if_pos running]
        rfl
      exact .inl (by rwa [hIdle])

end

/-- The worker is done with what came before an earlier moment. -/
structure Done (look : System κ → κ.Note) (manners : Surroundings κ → Prop) (w v : System κ) :
    Prop where
  /-- The notifications that were accepted by then were handed to their streams or given up. -/
  settled : told accepted? w.past <+: told settled? v.past
  /-- They are all counted, by their kinds or as dropped. -/
  counted : (told settled? v.past).length =
    v.dispatcher.metrics.events.total + v.dispatcher.metrics.dropped
  drops : w.CountsDrops v
  /-- No teardown is left that was queued by then, or since. -/
  clear : v.dispatcher.teardowns = []
  torn : ∀ x, Run look manners w x → Run look manners x v → ∀ r, x.Served r →
    (x.stream r).id ∈ x.dispatcher.teardowns → (v.status r).state = .destroyed

/-- Where the worker comes to a job, it is done with what came before the job. -/
theorem Done.of_taken {look : System κ → κ.Note} {manners : Surroundings κ → Prop} {u : System κ}
    {m : Mailbox (Command κ.Job)} (reached : Reached look manners w)
    (started : w.dispatcher.phase ≠ .unstarted)
    (handedIn : Run look manners w ((Dispatcher.beginInvoke job).left w))
    (before : Run look manners ((Dispatcher.beginInvoke job).left w) u)
    (clear : u.dispatcher.teardowns = [])
    (taken : u.dispatcher.mailbox.receive = some (.invoke ⟨w.dispatcher.nextTicket⟩ job, m)) :
    Done look manners w u := by
  have hRun := handedIn.trans before
  have hReached := reached.run hRun
  have hAccounts := (hReached.of_handling System.Accounts.outset fun hStep h => h.step hStep).1
  have hBehind := ((Behind.of_fresh reached job).errands (Errands.beginInvoke job w)).run
    (reached.run handedIn) before
  refine ⟨?_, hAccounts.counted, .of_run reached started hRun, clear,
    fun x first later r hr hQueued => ?_⟩
  · -- What was accepted first is settled first, so it is enough that enough was settled.
    have hGrown : told accepted? w.past <+: told accepted? u.past :=
      List.reverse_prefix.2 ((past_of_run reached hRun).filterMap _)
    exact List.prefix_of_prefix_length_le hGrown ⟨_, (Accounts.settled hReached).symm⟩
      (hBehind.settled hReached taken)
  · have hTorn := torn_of_queued (reached.run first) (started_of_run reached first started) hr
      hQueued later
    rw [clear] at hTorn
    exact hTorn.resolve_left List.not_mem_nil

end System

/-- Whoever is told that a job has returned, or that it has panicked, has handed in a job that the
worker has run; and when it began the job, it was done with all notifications that were accepted
and all teardowns that were queued before the job was handed in. -/
theorem invocations_wait {look : System κ → κ.Note} {manners : Surroundings κ → Prop}
    {env : Surroundings κ} {w v : System κ} {ticket : Ticket} {job : κ.Job}
    {answer : Except DispatchError κ.Value} (reached : Reached look manners w)
    (serves : env.Serves look manners) (held : w.dispatcher.held = true)
    (accepted : ((Dispatcher.beginInvoke job).on w).1 = .ok (.ok ticket))
    (run : Run look manners ((Dispatcher.beginInvoke job).left w) v)
    (heard : v.Tells ticket (some answer)) (ended : answer ≠ .error .stopped) :
    ∃ u env' m, Run look manners ((Dispatcher.beginInvoke job).left w) u ∧
      env'.Serves look manners ∧ u.dispatcher.phase = .running ∧
      u.dispatcher.mailbox.receive = some (.invoke ticket job, m) ∧ u.begun ticket = 0 ∧
      System.Done look manners w u ∧ Run look manners ((Worker.step env').left u) v ∧
      answer = Reply.answer v.dispatcher.stopped (.ofEnd (u.verdict env' ticket job m)) := by
  have hHandedIn : Run look manners w ((Dispatcher.beginInvoke job).left w) :=
    .beginInvoke serves held job
  have hReached := reached.run hHandedIn
  have hNumbered := System.Numbered.of_reached (hReached.run run)
  obtain ⟨hRefused, -⟩ | ⟨hTaken, hPending⟩ := Dispatcher.beginInvoke_cases w job
  · cases accepted.symm.trans hRefused
  · cases accepted.symm.trans hTaken
    rw [System.tells_iff] at heard
    obtain hPending | hForlorn | ⟨end_, hRan⟩ := hPending.run hReached run
    · cases (hPending.answer? hNumbered).symm.trans heard
    · obtain ⟨hOwed, hNone⟩ := hForlorn.answer? (System.AtRest.of_reached look (hReached.run run))
      by_cases hOwes : v.Owes ⟨w.dispatcher.nextTicket⟩
      · exact absurd (Option.some.inj (heard.symm.trans (hOwed hOwes))) ended
      · cases (hNone hOwes).symm.trans heard
    · have hAnswer := (System.Replied.of_ran hReached hRan).answer? hNumbered
      obtain @⟨u, env', m, before, serves', running, clear, taken, rfl, later⟩ := hRan
      have hUnspent := (System.Numbered.of_reached (hReached.run before)).unspent
        ((System.Numbered.of_reached (hReached.run before)).out_of_receive taken).1
      have hStarted := (System.AtRest.of_reached look reached).books.ledger.made held
      exact ⟨u, env', m, before, serves', running, taken,
        Nat.eq_zero_of_not_pos fun hBegan => hUnspent (.inl hBegan),
        .of_taken reached hStarted hHandedIn before clear taken, later,
        Option.some.inj (heard.symm.trans hAnswer)⟩

/-- A dispatcher that serves two streams. For one of them a notification waits, and the teardown of
the other one does. -/
def burdened : System Client.plain :=
  (Call.each Surroundings.obliging [⟨_, .createStream { url := "" }⟩,
    ⟨_, .createStream { url := "" }⟩, ⟨_, .notify (.drawn 0) .created⟩,
    ⟨_, .close ⟨1⟩⟩]).left launched

theorem reached_burdened : Reached (fun _ => ()) Surroundings.any burdened :=
  .act reached_launched (.each (Surroundings.serves_obliging trivial) _)

/-- A job was handed in, and the worker has had three turns since. -/
def unburdened : System Client.plain :=
  (Worker.step Surroundings.obliging).left ((Worker.step Surroundings.obliging).left
    ((Worker.step Surroundings.obliging).left ((Dispatcher.beginInvoke ()).left burdened)))

/-- The turns are those of a worker in obliging surroundings. -/
theorem run_unburdened :
    Run (fun _ => ()) Surroundings.any ((Dispatcher.beginInvoke ()).left burdened) unburdened :=
  have serves := Surroundings.serves_obliging trivial
  .turn (.turn (.turn .refl serves) serves) serves

/-- When the job began, the stream was torn down and the notification was handed out. -/
theorem invocations_wait_unburdened :
    ((Dispatcher.beginInvoke ()).on burdened).1 = .ok (.ok ⟨0⟩) ∧
    told accepted? burdened.past = [(.drawn 0, .created)] ∧
    burdened.dispatcher.teardowns = [.drawn 1] ∧ unburdened.Tells ⟨0⟩ (some (.ok ())) ∧
    ∃ u, Run (fun _ => ()) Surroundings.any ((Dispatcher.beginInvoke ()).left burdened) u ∧
      System.Done (fun _ => ()) Surroundings.any burdened u ∧ u.begun ⟨0⟩ = 0 := by
  have hTaken : ((Dispatcher.beginInvoke ()).on burdened).1 = .ok (.ok ⟨0⟩) := by decide +kernel
  have hTold : unburdened.Tells ⟨0⟩ (some (.ok ())) := System.tells_iff.2 (by decide +kernel)
  obtain ⟨u, -, -, before, -, -, -, unbegun, done, -⟩ := invocations_wait reached_burdened
    (Surroundings.serves_obliging trivial) (by decide +kernel) hTaken run_unburdened hTold (by simp)
  exact ⟨hTaken, by decide +kernel, by decide +kernel, hTold, u, before, done, unbegun⟩

/-- Where the worker was cancelled, it is said that a job has panicked before which a notification
was accepted that was neither handed out nor given up, and before which a teardown was queued that
was not carried out. -/
theorem not_waiting_burdened :
    ¬ ∀ (env : Surroundings Client.plain) (w : System Client.plain) (ticket : Ticket),
      Reached (fun _ => ()) Surroundings.any w →
      ((Dispatcher.beginInvoke ()).on w).1 = .ok (.ok ticket) →
      ((Dispatcher.kill env).left ((Dispatcher.beginInvoke ()).left w)).Tells ticket
        (some (.error .jobPanicked)) →
      told accepted? w.past <+:
        told settled? ((Dispatcher.kill env).left ((Dispatcher.beginInvoke ()).left w)).past ∨
      ∀ r, w.Served r → (w.stream r).id ∈ w.dispatcher.teardowns →
        (((Dispatcher.kill env).left ((Dispatcher.beginInvoke ()).left w)).status r).state =
          .destroyed := by
  intro h
  have hTold : ((Dispatcher.kill .obliging).left
      ((Dispatcher.beginInvoke ()).left burdened)).Tells ⟨0⟩ (some (.error .jobPanicked)) :=
    System.tells_iff.2 (by decide +kernel)
  rcases h .obliging burdened ⟨0⟩ reached_burdened (by decide +kernel) hTold with hSettled | hTorn
  · exact absurd hSettled (by decide +kernel)
  · exact absurd (hTorn ⟨1⟩ ⟨by decide +kernel, by decide +kernel⟩ (by decide +kernel))
      (by decide +kernel)

end HostedStreams
