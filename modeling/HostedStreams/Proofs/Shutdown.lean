import HostedStreams.Proofs.Leaving
import HostedStreams.Proofs.Passes

/-! The end of the dispatcher. At rest its books are in order, and where no worker runs any
more, nothing is left of the streams that it served. -/
namespace HostedStreams

variable {κ : Client}

/-- The books are in order, and the worker is not in the middle of leaving. -/
structure System.AtRest (w : System κ) : Prop where
  books : w.Books 0
  settled : w.dispatcher.phase ≠ .finishing

namespace System.AtRest

variable (look : System κ → κ.Note) {env : Surroundings κ} (he : env.Within Conserves)
  {w v : System κ}

/-- What keeps the books in order keeps the system at rest. -/
theorem conserves (h : w.AtRest) (hv : Conserves w v) : v.AtRest :=
  ⟨hv.books h.books, by rw [hv.phase h.books]; exact h.settled⟩

theorem outset (client : κ.State) : ({ client } : System κ).AtRest where
  books := {
    ledger := .outset
    roster := {
      listed := fun hMem => absurd hMem List.not_mem_nil
      enrolled := fun hr => absurd hr.1 (Nat.not_lt_zero _)
      drawn := fun hr => absurd hr.1 (Nat.not_lt_zero _)
      distinct := fun hr => absurd hr.1 (Nat.not_lt_zero _) } }
  settled h := by cases h

/-- The dispatcher is started. -/
theorem start (h : w.AtRest) (unstarted : w.dispatcher.phase = .unstarted) (settings : Settings)
    (executor : Bool) : ((Dispatcher.start settings executor).left w).AtRest := by
  simp only [Dispatcher.start]
  split
  · exact h
  · split
    · exact h
    · split
      · exact h
      · simp only [Act.left_modify_bind, Act.left_pure]
        exact ⟨h.books.updateDispatcher (h.books.ledger.empty (.inl unstarted)).symm (.started _ _),
          by simp [System.updateDispatcher]⟩

include look he

/-- The worker carries a command out that does not end it. -/
theorem conserves_carryOut {command : Command κ.Job} {m : Mailbox (Command κ.Job)}
    (hTaken : w.dispatcher.mailbox.receive = some (command, m)) (hGoes : command ≠ .shutdown) :
    Conserves w ((Worker.carryOut env command).left
      (w.updateDispatcher fun d => { d with mailbox := m })) := by
  have hTended := Conserves.tended look Surroundings.any
  cases command with
  | notify id event =>
    apply hTended.related_inContext
    apply hTended.related_dispatch trivial he
    -- The notification is out of the queue and off the count.
    refine .of_persists (.of_streams rfl (Nat.le_refl _)) fun hw => ?_
    have hOut : Dispatcher.Ledger 1 { w.dispatcher with mailbox := m } := hw.receive hTaken
    have hAside : Dispatcher.Aside { w.dispatcher with mailbox := m }
        { w.dispatcher with mailbox := m, inContext := true } :=
      ⟨rfl, rfl, rfl, rfl, rfl, rfl, rfl⟩
    exact ⟨(hOut.aside hAside).1.lower, rfl, rfl⟩
  | invoke ticket job =>
    have hOut : Conserves w (w.updateDispatcher fun d => { d with mailbox := m }) :=
      .of_updateDispatcher fun hw => ⟨hw.receive hTaken, rfl, rfl⟩
    exact hOut.trans (hTended.inContext (hTended.runJob trivial he ticket job) _)
  | shutdown => exact absurd rfl hGoes

/-- A step of the worker. If it leaves, it has left when the step is over. -/
theorem step (hEndure : env.Endure) (h : w.AtRest) : ((Worker.step env).left w).AtRest := by
  have hTended := Conserves.tended look Surroundings.any
  have ended {v : System κ} (hv : v.Books 0)
      (hEnd : v.dispatcher.stopped = true ∨ v.dispatcher.held = false) :
      ((Worker.finish env >>= fun _ => pure true).left v).AtRest := by
    rw [Act.left_bind_pure]
    obtain ⟨hBooks, hPhase⟩ := (Conserves.ends_finish look he hEndure hv hEnd).left
    exact ⟨hBooks, by simp [hPhase]⟩
  simp only [Worker.step, Act.left_get_bind]
  split
  · exact h
  · split
    · rename_i id rest _
      simp only [Act.left_modify_bind]
      rw [Act.left_bind_pure]
      have hTaken : Conserves w (w.updateDispatcher fun d => { d with teardowns := rest }) :=
        hTended.aside w _ ⟨rfl, rfl, rfl, rfl, rfl, rfl, rfl⟩
      exact h.conserves (hTaken.trans (hTended.inContext (Conserves.tearDown look he id) _))
    · split
      · rename_i command m hTaken
        simp only [Act.left_modify_bind]
        by_cases hEnd : command = .shutdown
        · subst hEnd
          have hTold := (h.books.ledger.tidy.receive hTaken).2.2.2 rfl
          have hReceived := h.books.ledger.receive hTaken
          exact ended (h.books.updateDispatcher rfl hReceived) (.inl hTold)
        · rw [Act.left_bind_pure]
          exact h.conserves (conserves_carryOut look he hTaken hEnd)
      · split
        · exact h
        · rename_i hGone
          exact ended h.books (.inr (by simp_all))

omit he in
/-- Between what clients do and turns of the worker, the books are in order. -/
theorem of_reached {manners : Surroundings κ → Prop} (h : Reached look manners w) : w.AtRest := by
  obtain ⟨client, hRun⟩ := h
  have hSustained := Conserves.sustained look manners
  induction hRun with
  | refl => exact outset client
  | act _ conduct ih =>
    exact ih.conserves (hSustained.conduct (fun _ => hSustained.serves) conduct _)
  | start _ unstarted settings executor ih => exact ih.start unstarted settings executor
  | turn _ serves ih => exact ih.step look (hSustained.serves serves).2 serves.endure

end System.AtRest

/-- What is served before a step is served after it. -/
theorem Step.served {look : System κ → κ.Note} {w v : System κ} (h : Step look w v) {r : StreamRef}
    (hr : w.Served r) : v.Served r := by
  cases h with
  | quiet h =>
    obtain p | ⟨made, own, rfl⟩ := h.persists
    · exact p.served.2 hr
    · exact (System.Grown.append w made).served.2 (.inl hr)
  | firing h => exact h.persists.served.2 hr
  | enlist id config => exact (System.Grown.append w _).served.2 (.inl hr)
  | dispatcher f => exact hr
  | dispatching e => exact hr

namespace System

/-- The stream was returned to somebody who had it made for the worker. -/
def Returned (look : System κ → κ.Note) (w : System κ) (r : StreamRef) : Prop :=
  ∃ (u : System κ) (env : Surroundings κ) (config : StreamConfig),
    env.Serves look Surroundings.any ∧
    ((Dispatcher.createStream env config).on u).1 = .ok (.ok r) ∧
    Steps look ((Dispatcher.createStream env config).left u) w

/-- A stream that was returned is served. -/
theorem Returned.served {look : System κ → κ.Note} {w : System κ} {r : StreamRef}
    (h : w.Returned look r) : w.Served r := by
  obtain ⟨u, env, config, serves, made, later⟩ := h
  have he := ((Conserves.sustained look _).serves serves).2
  apply later.preserve fun hStep hr => hStep.served hr
  exact Conserves.served_of_createStream look he made

/-- No worker runs any more, or somebody who waits for its end is told that it has ended. -/
def Stopped (w : System κ) : Prop :=
  w.dispatcher.phase ≠ .running ∨
    ∃ ticket answer, ((Dispatcher.pollShutdown ticket).on w).1 = .ok (some answer)

/-- What the worker leaves behind. -/
structure WoundUp (look : System κ → κ.Note) (w : System κ) : Prop where
  /-- Each stream that was made for the worker is torn down, by one pass. -/
  torn : ∀ r, w.Served r ∨ w.Returned look r → (w.status r).state = .destroyed ∧
    ((w.passes r).map (·.1.kind)).count .destroyed = 1
  registry : w.dispatcher.registry = []
  active : w.dispatcher.metrics.activeStreams = 0
  depth : w.dispatcher.metrics.queueDepth = 0

end System

/-- Only a worker that does not run any more has ended for those who wait. -/
theorem phase_ne_of_pollShutdown {w : System κ} {ticket : Ticket}
    {answer : Except DispatchError Unit}
    (h : ((Dispatcher.pollShutdown ticket).on w).1 = .ok (some answer)) :
    w.dispatcher.phase ≠ .running := by
  intro running
  obtain ⟨sent, -, h, -⟩ := Act.of_on_bind_ok h
  have running : ((Dispatcher.poll ticket).left w).dispatcher.phase = .running := running
  split at h
  · cases h
  · obtain ⟨_, hGet, h, -⟩ := Act.of_on_bind_ok h
    cases hGet
    rw [running] at h
    cases h

/-- Where no worker runs, nothing is left to it. -/
theorem System.AtRest.woundUp {look : System κ → κ.Note} {w : System κ} (h : w.AtRest)
    (hLived : w.AllLived) (ended : w.dispatcher.phase ≠ .running) : w.WoundUp look := by
  have hLedger := h.books.ledger
  have hEmpty : w.dispatcher.registry = [] := by
    apply hLedger.registry_of_idle
    cases hPhase : w.dispatcher.phase with
    | running => exact absurd hPhase ended
    | finishing => exact absurd hPhase h.settled
    | _ => rfl
  have hNothing : w.dispatcher.mailbox.notifications = 0 := by
    rw [Mailbox.notifications, hLedger.tidy.closed (hLedger.shut ended)]
    rfl
  have hTorn {r : StreamRef} (hr : w.Served r) : (w.status r).state = .destroyed := by
    apply Decidable.byContradiction
    intro live
    have hMem := h.books.roster.enrolled hr live
    rw [hEmpty] at hMem
    exact List.not_mem_nil hMem
  refine ⟨?_, hEmpty, ?_, ?_⟩
  · intro r hr
    have hServed := hr.elim id Returned.served
    have hCourse := ((hLived r).1 hServed.1).coursed.course
    rw [w.passes_eq]
    exact ⟨hTorn hServed, hCourse.count_destroyed.trans (if_pos (hTorn hServed))⟩
  · rw [hLedger.gauge, hEmpty]
    rfl
  · rw [hLedger.depth, hNothing]
    rfl

namespace Reached

variable {look : System κ → κ.Note} {manners : Surroundings κ → Prop} {env : Surroundings κ}
  {w : System κ}

variable (serves : env.Serves look manners)

include serves

/-- What comes of turns of the worker can come about. -/
theorem turns (h : Reached look manners w) : Reached look manners ((Worker.turn env).left w) := by
  rw [Worker.turn]
  generalize Worker.turnLength = n
  induction n generalizing w with
  | zero => exact h
  | succ n ih =>
    apply Act.holds_bind (h.turn serves)
    intro more _
    split
    · exact ih (h.turn serves)
    · exact h.turn serves

/-- Whoever waits for the worker's end until it comes finds it ended. -/
theorem await_shutdown {n : Nat} {ticket : Ticket} {answer : Except DispatchError Unit}
    (h : Reached look manners w)
    (hEnd : ((Dispatcher.await env (Dispatcher.pollShutdown ticket) n).on w).1 = .ok answer) :
    Reached look manners ((Dispatcher.await env (Dispatcher.pollShutdown ticket) n).left w) ∧
      ((Dispatcher.await env (Dispatcher.pollShutdown ticket) n).left w).dispatcher.phase ≠
        .running := by
  induction n generalizing w with
  | zero => cases hEnd
  | succ n ih =>
    have hPolled := h.act (.call serves (.pollShutdown ticket))
    have hSustained := Conserves.sustained look manners
    have hPoll : (Dispatcher.pollShutdown ticket).Within Conserves :=
      hSustained.call serves.mannered (hSustained.serves serves).2 (.pollShutdown ticket)
    have hPhase := (hPoll w).phase
      (System.AtRest.of_reached look h).books
    rw [Dispatcher.await] at hEnd ⊢
    obtain ⟨told, hTold, hEnd, hLeft⟩ := Act.of_on_bind_ok hEnd
    rw [hLeft]
    cases told with
    | some a =>
      refine ⟨hPolled, ?_⟩
      rw [Act.left_pure, hPhase]
      exact phase_ne_of_pollShutdown hTold
    | none =>
      obtain ⟨_, -, hEnd, hLeft⟩ := Act.of_on_bind_ok hEnd
      rw [hLeft]
      exact ih (hPolled.turns serves) hEnd

end Reached

/-- Once the worker has ended, because it was told to or because nobody is left who could
send it anything, every stream that was ever made for it is torn down, by one pass, and
neither a stream nor a notification is accounted for any more, whatever hosts, sinks and
jobs have done meanwhile. -/
theorem stopped_woundUp {look : System κ → κ.Note} {w : System κ}
    (reached : Reached look Surroundings.any w) :
    (w.Stopped → w.WoundUp look) ∧
    ∀ (env : Surroundings κ) (bound : Nat) (answer : Except DispatchError Unit),
      env.Serves look Surroundings.any → w.dispatcher.held = true → w.dispatcher.stopped = false →
      ((Dispatcher.shutdown env bound).on w).1 = .ok answer →
      ((Dispatcher.shutdown env bound).left w).WoundUp look := by
  have woundUp {v : System κ} (h : Reached look Surroundings.any v)
      (ended : v.dispatcher.phase ≠ .running) : v.WoundUp look :=
    (System.AtRest.of_reached look h).woundUp (Always.lived _ look v h).1 ended
  constructor
  · intro stopped
    apply woundUp reached
    rcases stopped with ended | ⟨ticket, answer, told⟩
    · exact ended
    · exact phase_ne_of_pollShutdown told
  · intro env bound answer serves held running hEnd
    have hBegan : Reached look Surroundings.any ((Dispatcher.beginShutdown).left w) := by
      have hCalled := reached.act (.call serves .beginShutdown)
      rw [Call.run, Act.given, Act.left_get_bind, if_pos held] at hCalled
      rwa [Act.left_bind_pure] at hCalled
    rw [Dispatcher.shutdown] at hEnd ⊢
    obtain ⟨begun, hBegun, hEnd, hLeft⟩ := Act.of_on_bind_ok hEnd
    rw [hLeft]
    cases begun with
    | none =>
      change (Act.on (if w.dispatcher.stopped = true then _ else _) w).1 = _ at hBegun
      rw [running] at hBegun
      cases hBegun
    | some ticket =>
      obtain ⟨hReached, ended⟩ := hBegan.await_shutdown serves hEnd
      exact woundUp hReached ended

/-- A dispatcher that serves one stream, for which a notification waits. -/
def serving : System Client.plain :=
  (Call.each Surroundings.obliging [⟨_, .createStream { url := "" }⟩,
    ⟨_, .notify (.drawn 0) (.opened {})⟩]).left ((Dispatcher.start {} true).left { client := () })

theorem reached_serving : Reached (fun _ => ()) Surroundings.any serving :=
  .act ⟨(), .start .refl rfl {} true⟩ (.each (Surroundings.serves_obliging trivial) _)

/-- Its owner tells it to end, or gives it up. -/
theorem stopped_woundUp_serving :
    serving.dispatcher.metrics.activeStreams = 1 ∧ serving.dispatcher.metrics.queueDepth = 1 ∧
    ((Dispatcher.shutdown Surroundings.obliging 2).left serving).WoundUp (fun _ => ()) ∧
    ((Dispatcher.shutdown Surroundings.obliging 2).left serving).Served ⟨0⟩ ∧
    ((Worker.step Surroundings.obliging).left ((Worker.step Surroundings.obliging).left
      ((Call.giveUp false).run Surroundings.obliging |>.left serving))).WoundUp (fun _ => ()) := by
  have serves : Surroundings.obliging.Serves (fun _ => ()) Surroundings.any :=
    Surroundings.serves_obliging trivial
  have hGivenUp := reached_serving.act (.call serves (.giveUp false))
  refine ⟨by decide +kernel, by decide +kernel, ?_, ⟨by decide +kernel, by decide +kernel⟩, ?_⟩
  · exact (stopped_woundUp reached_serving).2 _ 2 (.ok ()) serves (by decide +kernel)
      (by decide +kernel) (by decide +kernel)
  · exact (stopped_woundUp ((hGivenUp.turn serves).turn serves)).1 (.inl (by decide +kernel))

end HostedStreams
