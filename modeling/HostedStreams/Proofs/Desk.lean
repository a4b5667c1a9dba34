import HostedStreams.Proofs.Lenient
import HostedStreams.Proofs.Shutdown

/-! Runs as sequences of steps in which nothing of the dispatcher's queue and counts is left
open. Beside what clients and streams do, each step is one thing that the worker does with its
queue, and it goes by what the worker has on its desk: the notification that it has taken
out and not yet done with, or what it found in the queue when it left. -/
namespace HostedStreams

variable {κ : Client} {α β : Type}

/-- What the worker has taken out of the queue and is not done with. -/
inductive Desk (κ : Client) where
  | clear
  /-- A notification, of which it is still to be seen what becomes. -/
  | taken (id : StreamId) (event : Event)
  /-- A notification that was handed to its stream and is not counted yet. -/
  | handed (event : Event)
  /-- What is left of the queue that the worker gives up. -/
  | leaving (rest : List (Command κ.Job))

/-- Whether the worker gives up its queue. -/
def Desk.leaves : Desk κ → Bool
  | .leaving _ => true
  | .clear | .taken .. | .handed _ => false

/-- One thing that happens to the system and to the worker's desk. -/
inductive Handling (look : System κ → κ.Note) : Desk κ × System κ → Desk κ × System κ → Prop
  | quiet {d : Desk κ} (stays : d.leaves = false) {w v : System κ} (h : Quiet look w v)
      (calm : v.dispatcher.metrics.rejected = w.dispatcher.metrics.rejected) :
      Handling look (d, w) (d, v)
  | refuse (d : Desk κ) {w : System κ} {id : StreamId} {event : Event} {reason : DispatchError}
      {label : String} (refuses : w.dispatcher.Refuses id reason label) :
      Handling look (d, w) (d, (w.record (.refused id event reason)).updateMetrics
        (Metrics.countRejected label))
  | firing (d : Desk κ) {o : Origin} {w v : System κ} (h : Firing o w v) :
      Handling look (d, w) (d, v)
  | beside (d : Desk κ) {w : System κ} {f : Dispatcher κ → Dispatcher κ}
      (h : w.dispatcher.Beside (f w.dispatcher)) : Handling look (d, w) (d, w.updateDispatcher f)
  | enlist (d : Desk κ) (w : System κ) (id : StreamId) (config : StreamConfig) :
      Handling look (d, w) (d, { w with streams := w.streams ++
        [{ id, config, binding := .worker, status := { seekable := config.seekable } }] })
  | context (w : System κ) (inside : Bool) :
      Handling look (.clear, w)
        (.clear, w.updateDispatcher fun d => { d with inContext := inside })
  | start {w : System κ} (unstarted : w.dispatcher.phase = .unstarted) (capacity : Nat)
      (defaults : StreamDefaults) :
      Handling look (.clear, w) (.clear, w.updateDispatcher fun _ =>
        { phase := .running, mailbox := { capacity }, defaults, held := true
          notifierHeld := true })
  /-- A command that is no notification is taken out of the queue. -/
  | draw {w : System κ} {command : Command κ.Job} {m : Mailbox (Command κ.Job)}
      (taken : w.dispatcher.mailbox.receive = some (command, m))
      (other : command.isNotify = false) :
      Handling look (.clear, w) (.clear, w.updateDispatcher fun d => { d with mailbox := m })
  /-- A notification is taken out of the queue. -/
  | take {w : System κ} {id : StreamId} {event : Event} {m : Mailbox (Command κ.Job)}
      (taken : w.dispatcher.mailbox.receive = some (.notify id event, m)) :
      Handling look (.clear, w) (.taken id event, w.updateDispatcher fun d =>
        { d with mailbox := m, inContext := true, metrics := d.metrics.lowerDepth })
  /-- None of the worker's streams takes the notification any more. -/
  | drop {w : System κ} {id : StreamId} (event : Event)
      (gone : ∀ r, w.Served r → (w.stream r).id = id → (w.status r).state = .destroyed) :
      Handling look (.taken id event, w)
        (.clear, (w.record (.dropped id event)).updateMetrics Metrics.countDropped)
  /-- The stream is there that takes the notification. -/
  | hand {w : System κ} {id : StreamId} (event : Event)
      (running : w.dispatcher.phase = .running)
      (live : ∀ r, w.Served r → (w.stream r).id = id → (w.status r).state ≠ .destroyed) :
      Handling look (.taken id event, w) (.handed event, w.record (.dispatched id event))
  | count (w : System κ) (event : Event) :
      Handling look (.handed event, w)
        (.clear, w.updateMetrics (Metrics.countEvent event.kind.name))
  | jobBegan {w : System κ} (ticket : Ticket) (running : w.dispatcher.phase = .running) :
      Handling look (.clear, w) (.clear, w.record (.jobBegan ticket))
  | jobEnded (w : System κ) (ticket : Ticket) (completed : Bool) :
      Handling look (.clear, w) (.clear, w.record (.jobEnded ticket completed))
  | leave (w : System κ) :
      Handling look (.clear, w) (.leaving w.dispatcher.mailbox.items, w.updateDispatcher fun d =>
        { d with phase := .finishing, mailbox := d.mailbox.close })
  | giveUp (w : System κ) (command : Command κ.Job) (rest : List (Command κ.Job)) :
      Handling look (.leaving (command :: rest), w)
        (.leaving rest, (Worker.discard command).left w)
  | gaveUp (w : System κ) : Handling look (.leaving [], w) (.clear, w)
  | finished (w : System κ) :
      Handling look (.clear, w) (.clear, w.updateDispatcher fun d => { d with phase := .finished })

/-- Any number of things happen one after the other. -/
abbrev Handled (look : System κ → κ.Note) : Desk κ × System κ → Desk κ × System κ → Prop :=
  Relation.ReflTransGen (Handling look)

/-- What happens to the desk is at most a step of the run. -/
theorem Handling.steps {look : System κ → κ.Note} {d e : Desk κ} {w v : System κ}
    (h : Handling look (d, w) (e, v)) : Steps look w v := by
  have counted {w : System κ} {e : Entry κ.Note} (he : e.dispatching = true)
      (f : Dispatcher κ → Dispatcher κ) : Steps look w ((w.record e).updateDispatcher f) :=
    .tail (.single (.dispatching e he)) (.dispatcher f)
  cases h with
  | quiet stays h => exact .single (.quiet h)
  | refuse d refuses => exact .single (.quiet (.refuse ..))
  | firing d h => exact .single (.firing h)
  | enlist d w id config => exact .single (.enlist id config)
  | beside | context | start | draw | take | count | leave | finished =>
    exact .single (.dispatcher _)
  | drop event => exact counted rfl _
  | hand | jobBegan | jobEnded => exact .single (.dispatching _ rfl)
  | giveUp w command rest =>
    cases command with
    | notify id event => exact counted (e := .dropped id event) rfl fun d =>
        { d with metrics := d.metrics.lowerDepth.countDropped }
    | invoke ticket job => exact .single (.dispatcher fun d =>
        { d with replies := (ticket, .lost) :: d.replies })
    | shutdown => exact .refl
  | gaveUp w => exact .refl

/-- What happens to the desk is part of the run. -/
theorem Handled.steps {look : System κ → κ.Note} {a b : Desk κ × System κ}
    (h : Handled look a b) : Steps look a.2 b.2 := by
  induction h with
  | refl => exact .refl
  | tail _ h ih => exact ih.trans h.steps

namespace Desk

/-- However it ends, what is done leaves the desk as it is. -/
def Bears (look : System κ → κ.Note) (d : Desk κ) : Outcome κ :=
  fun _ w v => Handled look (d, w) (d, v)

variable (look : System κ → κ.Note) (manners : Surroundings κ → Prop)

/-- Outside passes the desk stays as it is. -/
theorem steady {d : Desk κ} (stays : d.leaves = false) : Outcome.Steady look (d.Bears look) where
  refl _ := .refl
  trans := .trans
  panic _ _ := .refl
  resumed := .trans
  replaced := .trans
  grows h := (Steps.steady look).grows h.steps
  quiet h calm := .single (.quiet stays h calm)
  refuse refuses := .single (.refuse d refuses)

/-- What clients do, and what the worker does beside its queue, leaves the desk as it is. -/
theorem patient {d : Desk κ} (stays : d.leaves = false) :
    Outcome.Patient look manners (d.Bears look) where
  toSteady := steady look stays
  fireHub _ he _ event :=
    (steady look stays).heeds_fireHub he (fun h => .single (.firing d h)) event
  destroy _ he _ := (steady look stays).heeds_destroy he fun h => .single (.firing d h)
  apply _ he _ event := (steady look stays).heeds_apply he (fun h => .single (.firing d h)) event
  contained h := h
  beside h := .single (.beside d h)
  enlist w id config := .single (.enlist d w id config)

end Desk

/-- Who a notification reaches that was looked for in vain. -/
theorem System.Books.gone {w : System κ} (h : w.Books 0) {id : StreamId}
    (out : w.dispatcher.registered? id = none) (r : StreamRef) (hr : w.Served r)
    (hId : (w.stream r).id = id) : (w.status r).state = .destroyed := by
  apply Decidable.byContradiction
  intro live
  have hMem := h.roster.enrolled hr live
  rw [hId] at hMem
  exact Dispatcher.not_mem_of_registered? out hMem

/-- Nobody but the registered stream has its identifier. -/
theorem System.Books.eq_of_registered? {w : System κ} (h : w.Books 0) {id : StreamId}
    {q r : StreamRef} (known : w.dispatcher.registered? id = some q) (hr : w.Served r)
    (hId : (w.stream r).id = id) : r = q := by
  obtain ⟨hq, hSame⟩ := h.roster.listed (Dispatcher.mem_of_registered? known)
  exact h.roster.distinct hr hq (hId.trans hSame.symm)

namespace Handled

variable (look : System κ → κ.Note) {manners : Surroundings κ → Prop} {env : Surroundings κ}
  {w : System κ}

/-- What the worker does in its context is done while it is noted that it does. -/
theorem leads_inContext {u : System κ} {act : Act κ α}
    (h : act.Leads (Desk.clear.Bears look) u
      (w.updateDispatcher fun d => { d with inContext := true })) :
    (Worker.inContext act).Leads (Desk.clear.Bears look) u w := by
  simp only [Worker.inContext, Act.leads_get_bind, Act.leads_modify_bind]
  exact (Desk.steady look (d := .clear) rfl).leads_after h fun v => .single (.context v _)

/-- To enter and leave the context does not touch the desk. -/
theorem inContext {act : Act κ α} (h : act.Heeds (Desk.clear.Bears look)) :
    (Worker.inContext act).Heeds (Desk.clear.Bears look) :=
  fun w => leads_inContext look
    ((Desk.steady look (d := .clear) rfl).leads_trans (.single (.context w true)) h)

/-- The dispatcher is started with an empty desk. -/
theorem start {w : System κ} (unstarted : w.dispatcher.phase = .unstarted) (settings : Settings)
    (executor : Bool) :
    Handled look (.clear, w) (.clear, (Dispatcher.start settings executor).left w) := by
  simp only [Dispatcher.start]
  split
  · exact .refl
  · split
    · exact .refl
    · split
      · exact .refl
      · exact .single (.start unstarted _ _)

/-- The worker gives up what is left of the queue, command by command. -/
theorem discards (rest : List (Command κ.Job)) : ∀ w : System κ,
    Handled look (.leaving rest, w) (.clear, (rest.forM Worker.discard).left w) := by
  induction rest with
  | nil => exact fun w => .single (.gaveUp w)
  | cons command rest ih =>
    intro w
    have hReturns : (Worker.discard command).Returns w := by cases command <;> exact ⟨(), rfl⟩
    have hLeft : ((command :: rest).forM Worker.discard).left w =
        (rest.forM Worker.discard).left ((Worker.discard command).left w) :=
      hReturns.left_bind fun _ _ => rfl
    rw [hLeft]
    exact .head (.giveUp w command rest) (ih _)

/-- A registered stream that is not torn down is the one that takes the notification. -/
theorem hand {id : StreamId} {r : StreamRef} (hw : w.Books 0)
    (running : w.dispatcher.phase = .running) (known : w.dispatcher.registered? id = some r)
    (live : (w.status r).state ≠ .destroyed) (event : Event) :
    Handled look (.taken id event, w) (.handed event,
      (w.updateStream r fun s => { s with handles := s.handles + 1 }).record
        (.dispatched id event)) := by
  have hHeld : w.Persists (w.updateStream r fun s => { s with handles := s.handles + 1 }) :=
    .updateStream r (fun _ => rfl) (fun _ => rfl) (fun _ => rfl) fun h => h
  refine .tail (.single (.quiet rfl (.handles r (· + 1)) rfl)) (.hand event running ?_)
  intro q hq hId
  obtain rfl := hw.eq_of_registered? known (hHeld.served.1 hq) ((hHeld.id q).symm.trans hId)
  rw [System.status_updateStream]
  split <;> exact live

variable (serves : env.Serves look manners)

include serves

/-- The client that serves leaves the desk as it is. -/
theorem heed {d : Desk κ} (stays : d.leaves = false) : env.Heed (d.Bears look) :=
  ((Desk.patient look manners stays).sustained.serves serves).1.2

theorem mannered : manners env :=
  ((Desk.patient look manners (d := .clear) rfl).sustained.serves serves).1.1

/-- A notification that was taken out of the queue is handed to its stream and counted, or
dropped, whatever its stream, its sinks and their panics do. -/
theorem dispatch {id : StreamId} {event : Event}
    (hw : (w.updateMetrics Metrics.lowerDepth).Books 0) (running : w.dispatcher.phase = .running) :
    Handled look (.taken id event, w.updateMetrics Metrics.lowerDepth)
      (.clear, (Worker.dispatch env id event).left w) := by
  have hm := mannered look serves
  have he := ((Conserves.sustained look manners).serves serves).2
  simp only [Worker.dispatch, Act.left_modify_bind]
  generalize hu : w.updateMetrics Metrics.lowerDepth = u at hw ⊢
  replace running : u.dispatcher.phase = .running := hu ▸ running
  have hConserves := (Conserves.tended look manners).find? hm he id u
  have hFind :=
    (Desk.patient look manners (d := .taken id event) rfl).find? hm (heed look serves rfl) id u
  obtain ⟨found, v, hEnd, hFound⟩ := System.ends_find? env u id
  rw [Act.left, hEnd] at hConserves
  rw [Act.Leads, Act.left, hEnd] at hFind
  rw [Act.left_bind_ok hEnd]
  cases found with
  | none =>
    have hv := hConserves.books hw
    exact hFind.tail (.drop event (hv.gone hFound))
  | some r =>
    obtain ⟨known, live, rfl⟩ := hFound
    have hMore := hand look hw running known live event
    simp only [StreamRef.holding, StreamRef.acquire, Act.left_modify_bind, Act.left_after]
    generalize (v.updateStream r fun s => { s with handles := s.handles + 1 }).record
      (.dispatched id event) = u at hMore ⊢
    have hHanded := Desk.patient look manners (d := .handed event) rfl
    have hClear := Desk.patient look manners (d := .clear) rfl
    have hTaken := hHanded.heeds_contained (hHanded.receive
      (hHanded.apply hm (heed look serves rfl) r) event) u
    obtain ⟨_, hReturns⟩ := (serves.endure.receive r event).returns_contained u
    rw [Act.left_bind_ok (Act.on_of_end hReturns)]
    refine (hMore.trans hTaken).trans (.head (.count _ event) ?_)
    have hRest : Act.Heeds (Desk.clear.Bears look) (do
        if ((← get).status r).state = .destroyed then Registry.forget env id) := by
      intro w
      simp only [Act.leads_get_bind]
      split
      · exact hClear.forget hm (heed look serves rfl) id w
      · exact .refl
    exact .trans (hRest _) (hClear.release hm (heed look serves rfl) r _)

/-- A job is run with nothing else on the desk. -/
theorem runJob (running : w.dispatcher.phase = .running) (ticket : Ticket) (job : κ.Job) :
    (Worker.runJob env ticket job).Leads (Desk.clear.Bears look) w w := by
  have hm := mannered look serves
  have he := heed look serves (d := .clear) rfl
  have hR := Desk.patient look manners (d := .clear) rfl
  have hWork := (hR.sustained.serves serves).2
  simp only [Worker.runJob, Act.leads_modify_bind]
  refine hR.leads_trans (.single (.jobBegan ticket running)) ?_
  refine hR.heeds_bind (fun w => Outcome.Steady.leads_contain hR.contained (hWork job w)) ?_
  intro ended
  cases ended with
  | ok v =>
    refine hR.heeds_bind (fun w => .single (.jobEnded w ticket true)) fun _ => ?_
    exact hR.heeds_bind (hR.reply ticket _) fun _ => hR.pruneRegistry hm he
  | error _ =>
    refine hR.heeds_bind (fun w => ?_) fun _ => ?_
    · exact .trans (.single (.jobEnded w ticket false)) (hR.countPanic _)
    · exact hR.heeds_bind (hR.reply ticket _) fun _ => hR.pruneRegistry hm he

/-- The worker that leaves takes the whole queue on its desk and drops it piece by piece. -/
theorem finish : (Worker.finish env).Heeds (Desk.clear.Bears look) := by
  have hm := mannered look serves
  have he := heed look serves (d := .clear) rfl
  have hR := Desk.patient look manners (d := .clear) rfl
  intro w
  simp only [Worker.finish, Act.leads_get_bind, Act.leads_modify_bind]
  refine hR.leads_bind (.head (.leave w) (discards look _ _)) fun _ _ => ?_
  refine hR.heeds_bind (inContext look fun w => ?_) (fun _ => ?_) _
  · simp only [Act.leads_get_bind]
    refine hR.heeds_bind (hR.heeds_beside fun _ => ?_) (fun _ => ?_) w
    · exact ⟨rfl, rfl, rfl, rfl, rfl, rfl, rfl, rfl, rfl, rfl⟩
    · apply hR.heeds_bind (hR.heeds_forM (hR.tearDown hm he) _)
      intro _ w
      refine hR.heeds_forM (fun entry => ?_) _ w
      cases entry with
      | mk id r => exact hR.closeDownRegistered hm he id r
  · refine hR.heeds_bind (fun w => .single (.finished w)) fun _ w => ?_
    simp only [Act.leads_get_bind]
    split
    · exact hR.abandon hm he w
    · exact hR.refl w

/-- A command is carried out with the desk clear before and after. -/
theorem carryOut (h : w.Books 0) (running : w.dispatcher.phase = .running)
    {command : Command κ.Job} {m : Mailbox (Command κ.Job)}
    (taken : w.dispatcher.mailbox.receive = some (command, m)) :
    Handled look (.clear, w) (.clear, (Worker.carryOut env command).left
      (w.updateDispatcher fun d => { d with mailbox := m })) := by
  cases command with
  | notify id event =>
    simp only [Worker.carryOut, Worker.inContext, Act.left_get_bind, Act.left_modify_bind,
      Act.left_after]
    refine .head (.take taken) (.tail (dispatch look serves (h.take taken) running) ?_)
    exact .context _ _
  | invoke ticket job =>
    refine .head (.draw taken rfl) (leads_inContext look ?_)
    exact (Desk.steady look (d := .clear) rfl).trans (.single (.context _ true))
      (runJob look serves
        (w := (w.updateDispatcher fun d => { d with mailbox := m }).updateDispatcher
          fun d => { d with inContext := true }) running ticket job)
  | shutdown => exact .head (.draw taken rfl) (finish look serves _)

/-- A step of the worker. -/
theorem step (h : w.Books 0) : Handled look (.clear, w) (.clear, (Worker.step env).left w) := by
  have hm := mannered look serves
  have he := heed look serves (d := .clear) rfl
  have hR := Desk.patient look manners (d := .clear) rfl
  simp only [Worker.step, Act.left_get_bind]
  split
  · exact .refl
  · rename_i hPhase
    have running : w.dispatcher.phase = .running := by simpa using hPhase
    split
    · rename_i id rest _
      simp only [Act.left_modify_bind]
      rw [Act.left_bind_pure]
      have hTaken := hR.heeds_beside (f := fun d => { d with teardowns := rest })
        (fun _ => ⟨rfl, rfl, rfl, rfl, rfl, rfl, rfl, rfl, rfl, rfl⟩) w
      exact .trans hTaken (inContext look (hR.tearDown hm he id) _)
    · split
      · rename_i command m taken
        simp only [Act.left_modify_bind]
        rw [Act.left_bind_pure]
        exact carryOut look serves h running taken
      · split
        · exact .refl
        · rw [Act.left_bind_pure]
          exact finish look serves w

end Handled

/-- Every run is a sequence of things that happen, and between the worker's steps its desk is
clear. -/
theorem Reached.handled {look : System κ → κ.Note} {manners : Surroundings κ → Prop}
    {w v : System κ} (h : Reached look manners w) (hRun : Run look manners w v) :
    Handled look (.clear, w) (.clear, v) := by
  obtain ⟨client, hBefore⟩ := h
  have hSustained := (Desk.patient look manners (d := .clear) rfl).sustained
  induction hRun with
  | refl => exact .refl
  | act _ conduct ih =>
    exact ih.trans (hSustained.conduct (fun _ h => (hSustained.serves h).1) conduct _)
  | start _ unstarted settings executor ih =>
    exact ih.trans (Handled.start look unstarted settings executor)
  | turn later serves ih =>
    have hReached : Reached look manners _ := ⟨client, hBefore.trans later⟩
    exact ih.trans (Handled.step look serves (System.AtRest.of_reached look hReached).books)

/-- One thing that happens writes down at most one entry, and only a client that looks around
writes a note, while the worker does not give up its queue. -/
theorem Handling.past {look : System κ → κ.Note} {d e : Desk κ} {w v : System κ}
    (h : Handling look (d, w) (e, v)) :
    v.past = w.past ∨ ∃ x, v.past = x :: w.past ∧
      ∀ n, x = .note n → look w = n ∧ d.leaves = false := by
  cases h with
  | quiet stays h =>
    exact h.past.imp_right fun ⟨x, hPast, hNote⟩ => ⟨x, hPast, fun n hx => ⟨hNote n hx, stays⟩⟩
  | firing d h =>
    exact h.past.imp_right fun ⟨x, hPast, hNone⟩ => ⟨x, hPast, fun n hx => absurd hx (hNone n)⟩
  | refuse | drop | hand | jobBegan | jobEnded => exact .inr ⟨_, rfl, fun n hx => by cases hx⟩
  | giveUp w command rest =>
    cases command with
    | notify id event => exact .inr ⟨_, rfl, fun n hx => by cases hx⟩
    | invoke | shutdown => exact .inl rfl
  | _ => exact .inl rfl

/-- What holds at the outset, of the system and of the worker's desk, and is preserved by
everything that happens, holds where a run has come to, and the desk is clear there. It holds as
well of whatever was there when a client looked around. -/
theorem Reached.of_handling {look : System κ → κ.Note} {manners : Surroundings κ → Prop}
    {I : Desk κ → System κ → Prop} (outset : ∀ client, I .clear { client })
    (step : ∀ {d e w v}, Handling look (d, w) (e, v) → I d w → I e v)
    {w : System κ} (h : Reached look manners w) :
    I .clear w ∧ ∀ n, .note n ∈ w.past →
      ∃ d v, d.leaves = false ∧ I d v ∧ look v = n := by
  obtain ⟨client, hRun⟩ := h
  have hHandled := Reached.handled ⟨client, .refl⟩ hRun
  suffices hBoth : ∀ a, Handled look (.clear, { client }) a →
      I a.1 a.2 ∧ ∀ n, .note n ∈ a.2.past → ∃ d v, d.leaves = false ∧ I d v ∧ look v = n from
    hBoth _ hHandled
  intro a h
  induction h with
  | refl => exact ⟨outset client, fun n hn => by cases hn⟩
  | tail _ hStep ih =>
    obtain ⟨hOld, hNotes⟩ := ih
    refine ⟨step hStep hOld, fun n hn => ?_⟩
    obtain hPast | ⟨x, hPast, hNote⟩ := hStep.past
    · exact hNotes n (hPast ▸ hn)
    · rw [hPast] at hn
      rcases List.mem_cons.1 hn with hNew | hOldNote
      · obtain ⟨hLook, stays⟩ := hNote n hNew.symm
        exact ⟨_, _, stays, hOld, hLook⟩
      · exact hNotes n hOldNote

end HostedStreams
