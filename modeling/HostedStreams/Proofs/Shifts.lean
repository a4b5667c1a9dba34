import HostedStreams.Proofs.Bides
import HostedStreams.Proofs.Tickets

/-! What a step of the worker does with the queue of commands. It carries out a teardown, hands a
notification out, runs a job or leaves, and besides it does only what is done outside the worker
too. -/
namespace HostedStreams

variable {κ : Client}

/-- The answer for a job that has ended so. -/
def Reply.ofEnd {Value : Type} : Except Halt Value → Reply Value
  | .ok v => .answered v
  | .error _ => .lost

namespace System

/-- The system in which the worker begins the job that it has taken out of the queue. -/
def beginning (w : System κ) (ticket : Ticket) (m : Mailbox (Command κ.Job)) : System κ :=
  (w.updateDispatcher fun d => { d with mailbox := m, inContext := true }).record (.jobBegan ticket)

/-- How the job ends that the worker begins. -/
def verdict (w : System κ) (env : Surroundings κ) (ticket : Ticket) (job : κ.Job)
    (m : Mailbox (Command κ.Job)) : Except Halt κ.Value :=
  ((env.work job).on (w.beginning ticket m)).1

/-- The end of the job is written down and answered. -/
def settling (w : System κ) (ticket : Ticket) (ended : Except Halt κ.Value) : System κ :=
  (w.record (.jobEnded ticket ended.isOk)).updateDispatcher fun d =>
    { d with replies := (ticket, .ofEnd ended) :: d.replies }

/-- The queue is given up with all that it holds. -/
def vacated (w : System κ) : System κ :=
  w.updateDispatcher fun d => { d with
    phase := .finishing
    mailbox := d.mailbox.close
    replies := ((d.mailbox.items.filterMap (·.ticket?)).map (·, .lost)).reverse ++ d.replies }

/-- The job that begins has begun once more, and no other one. -/
theorem begun_beginning (w : System κ) (ticket : Ticket) (m : Mailbox (Command κ.Job))
    (t : Ticket) :
    (w.beginning ticket m).begun t = w.begun t + if ticket = t then 1 else 0 := by
  rw [beginning, begun_record]
  simp only [Entry.begins, decide_eq_true_eq]
  rfl

/-- No job begins at the end of another one. -/
theorem begun_settling (w : System κ) (ticket : Ticket) (ended : Except Halt κ.Value) (t : Ticket) :
    (w.settling ticket ended).begun t = w.begun t :=
  begun_record ..

end System

/-- What a step of the worker does with the queue of commands. -/
inductive Shift (env : Surroundings κ) (w : System κ) : System κ → Prop
  | idle : Shift env w w
  | teardown {v : System κ} {id : StreamId} {rest : List StreamId}
      (running : w.dispatcher.phase = .running) (first : w.dispatcher.teardowns = id :: rest)
      (later : Errands w v) : Shift env w v
  | notified {v : System κ} {id : StreamId} {event : Event} {m : Mailbox (Command κ.Job)}
      (running : w.dispatcher.phase = .running) (clear : w.dispatcher.teardowns = [])
      (taken : w.dispatcher.mailbox.receive = some (.notify id event, m))
      (later : Errands (w.updateDispatcher fun d => { d with mailbox := m }) v) : Shift env w v
  | ran {v : System κ} {ticket : Ticket} {job : κ.Job} {m : Mailbox (Command κ.Job)}
      (running : w.dispatcher.phase = .running) (clear : w.dispatcher.teardowns = [])
      (taken : w.dispatcher.mailbox.receive = some (.invoke ticket job, m))
      (works : Errands (w.beginning ticket m) ((env.work job).left (w.beginning ticket m)))
      (later : Errands (((env.work job).left (w.beginning ticket m)).settling ticket
        (w.verdict env ticket job m)) v) : Shift env w v
  | left {x y v : System κ} (running : w.dispatcher.phase = .running)
      (out : x = w ∨ ∃ m, w.dispatcher.mailbox.receive = some (.shutdown, m) ∧
        x = w.updateDispatcher fun d => { d with mailbox := m })
      (told : x.dispatcher.stopped = true ∨ x.dispatcher.mailbox.items = [])
      (leaving : Errands x.vacated y)
      (later : Errands (y.updateDispatcher fun d => { d with phase := .finished }) v) :
      Shift env w v

namespace Shift

variable {env : Surroundings κ} {w : System κ}

/-- The commands that are left are given up one by one. -/
theorem discards (rest : List (Command κ.Job)) : ∀ w : System κ,
    (w.updateDispatcher fun d => { d with
      replies := ((rest.filterMap (·.ticket?)).map (·, .lost)).reverse ++ d.replies }).Apart
        ((rest.forM Worker.discard).left w) := by
  induction rest with
  | nil => exact fun w => .refl w
  | cons command rest ih =>
    intro w
    have hReturns : (Worker.discard command).Returns w := by cases command <;> exact ⟨(), rfl⟩
    have hLeft : ((command :: rest).forM Worker.discard).left w =
        (rest.forM Worker.discard).left ((Worker.discard command).left w) :=
      hReturns.left_bind fun _ _ => rfl
    rw [hLeft]
    have hRest := ih ((Worker.discard command).left w)
    cases command with
    | notify id event =>
      exact ⟨hRest.phase, hRest.mailbox, hRest.replies, hRest.nextTicket, hRest.stopped, hRest.line⟩
    | invoke ticket job =>
      refine ⟨hRest.phase, hRest.mailbox, hRest.replies.trans ?_, hRest.nextTicket, hRest.stopped,
        hRest.line⟩
      simp [Command.ticket?, Worker.discard, Worker.reply, System.updateDispatcher]
    | shutdown => exact hRest

variable {look : System κ → κ.Note} {manners : Surroundings κ → Prop}
  (serves : env.Serves look manners)

include serves

/-- The worker runs a job. -/
theorem runJob (ticket : Ticket) (job : κ.Job) (m : Mailbox (Command κ.Job)) :
    Errands (((env.work job).left (w.beginning ticket m)).settling ticket
        (w.verdict env ticket job m))
      ((Worker.inContext (Worker.runJob env ticket job)).left
        (w.updateDispatcher fun d => { d with mailbox := m })) := by
  have hPrune := Errands.aloof.prune (Errands.serves serves)
  rw [Worker.left_inContext]
  refine Errands.aloof.trans (v := (Worker.runJob env ticket job).left
    (w.updateDispatcher fun d => { d with mailbox := m, inContext := true })) ?_
    (Errands.aloof.apart (.updateDispatcher (by constructor <;> rfl)))
  simp only [Worker.runJob, Act.left_modify_bind]
  change Errands _ (((env.work job).contain >>= _).left (w.beginning ticket m))
  have hEndures := serves.endure.work job (w.beginning ticket m)
  have hContain := Act.on_contain (env.work job) (w.beginning ticket m)
  cases hEnd : w.verdict env ticket job m with
  | ok v =>
    rw [System.verdict] at hEnd
    rw [hEnd] at hContain
    rw [Act.left_bind_ok hContain]
    exact hPrune _
  | error halt =>
    rw [System.verdict] at hEnd
    cases halt with
    | panic p =>
      rw [hEnd] at hContain
      rw [Act.left_bind_ok hContain]
      refine Errands.aloof.trans (Errands.aloof.apart ?_) (hPrune _)
      exact ⟨rfl, rfl, rfl, rfl, rfl, rfl⟩
    | exhausted => exact absurd hEnd hEndures

variable (hw : w.AtRest)

include hw

/-- The worker leaves. -/
theorem finish (hEnd : w.dispatcher.stopped = true ∨ w.dispatcher.held = false) :
    ∃ y, Errands w.vacated y ∧ Errands (y.updateDispatcher fun d => { d with phase := .finished })
      ((Worker.finish env).left w) := by
  have hServes := Errands.serves serves
  have he := ((Conserves.sustained look manners).serves serves).2
  have hLeaving : (w.updateDispatcher fun d =>
      { d with phase := .finishing, mailbox := d.mailbox.close }).Books
      w.dispatcher.mailbox.notifications :=
    hw.books.updateDispatcher rfl (hw.books.ledger.leave hEnd)
  have hDiscards := discards w.dispatcher.mailbox.items (w.updateDispatcher fun d =>
    { d with phase := .finishing, mailbox := d.mailbox.close })
  obtain ⟨_, v, hGivenUp, hv, leaving⟩ := Worker.ends_discards _ hLeaving rfl
  rw [Act.left, hGivenUp] at hDiscards
  have hEntered := hv.aside (f := fun d => { d with inContext := true })
    fun _ => ⟨rfl, rfl, rfl, rfl, rfl, rfl, rfl⟩
  obtain ⟨_, y, hCleared, -⟩ := Worker.ends_inContext
    (Conserves.ends_clearing look he serves.endure hEntered leaving)
    (Q := fun _ => True) fun _ _ _ => trivial
  have hClearing := Errands.aloof.inContext (Errands.aloof.clearing hServes) v
  rw [Act.left, hCleared] at hClearing
  refine ⟨y, .trans (.single (.apart hDiscards)) hClearing, ?_⟩
  rw [Worker.finish, Act.left_get_bind, Act.left_modify_bind, Act.left_bind_ok hGivenUp]
  change Errands _ (((Worker.inContext (Worker.clearing env)) >>= _).left v)
  rw [Act.left_bind_ok hCleared]
  simp only [Act.left_modify_bind, Act.left_get_bind]
  split
  · exact Errands.aloof.abandon hServes _
  · exact .refl

/-- What a step of the worker does. -/
theorem of_step : Shift env w ((Worker.step env).left w) := by
  have hServes := Errands.serves serves
  by_cases running : w.dispatcher.phase = .running
  · cases hTeardowns : w.dispatcher.teardowns with
    | cons id rest =>
      rw [Worker.left_step_of_teardown running hTeardowns]
      refine .teardown running hTeardowns (Errands.aloof.trans ?_
        (Errands.aloof.inContext (Errands.aloof.tearDown hServes id) _))
      exact Errands.aloof.apart (.updateDispatcher (by constructor <;> rfl))
    | nil =>
      cases hTaken : w.dispatcher.mailbox.receive with
      | some taken =>
        obtain ⟨command, m⟩ := taken
        rw [Worker.left_step_of_command running hTeardowns hTaken]
        cases command with
        | notify id event =>
          exact .notified running hTeardowns hTaken
            (Errands.aloof.inContext (Errands.aloof.dispatch hServes id event) _)
        | invoke ticket job =>
          exact .ran running hTeardowns hTaken (hServes.work job _) (runJob serves ticket job m)
        | shutdown =>
          have hTold := (hw.books.ledger.tidy.receive hTaken).2.2.2 rfl
          have hRest : (w.updateDispatcher fun d => { d with mailbox := m }).AtRest :=
            ⟨hw.books.updateDispatcher rfl (hw.books.ledger.receive hTaken), hw.settled⟩
          obtain ⟨y, hLeaving, hLater⟩ := finish serves hRest (.inl hTold)
          exact .left running (.inr ⟨m, hTaken, rfl⟩) (.inl hTold) hLeaving hLater
      | none =>
        simp only [Worker.step, Act.left_get_bind]
        rw [if_neg (by simp [running])]
        simp only [hTeardowns, hTaken]
        split
        · exact .idle
        · rename_i hGone
          rw [Act.left_bind_pure]
          have hEmpty : w.dispatcher.mailbox.items = [] := by
            unfold Mailbox.receive at hTaken
            split at hTaken
            · assumption
            · cases hTaken
          obtain ⟨y, hLeaving, hLater⟩ := finish serves hw (.inr (by simp_all))
          exact .left running (.inl rfl) (.inr hEmpty) hLeaving hLater
  · simp only [Worker.step, Act.left_get_bind]
    rw [if_pos running]
    exact .idle

end Shift

namespace System.Numbered

variable {env : Surroundings κ} {w v : System κ}

/-- A command is taken out of the queue. -/
theorem take (h : w.Numbered) {command : Command κ.Job} {m : Mailbox (Command κ.Job)}
    (taken : w.dispatcher.mailbox.receive = some (command, m)) :
    (w.updateDispatcher fun d => { d with mailbox := m }).Numbered := by
  have hOld {t : Ticket} (ht : t ∈ m.places) : t ∈ w.dispatcher.mailbox.places := by
    rw [Mailbox.places_of_receive taken]
    exact List.mem_append_right _ ht
  exact {
    placed := h.placed.receive taken
    drawn := fun t ht => h.drawn t (hOld ht)
    spent := fun t ht => ⟨(h.spent t ht).1, fun hPlace => (h.spent t ht).2 (hOld hPlace)⟩
    once := h.once
    unstarted := h.unstarted }

/-- The ticket of a job that is taken out of the queue has no other place. -/
theorem out_of_receive (h : w.Numbered) {ticket : Ticket} {job : κ.Job}
    {m : Mailbox (Command κ.Job)}
    (taken : w.dispatcher.mailbox.receive = some (.invoke ticket job, m)) :
    ticket ∈ w.dispatcher.mailbox.places ∧ ticket ∉ m.places := by
  have hDistinct := h.placed.distinct
  have hPlaces := Mailbox.places_of_receive taken
  rw [hPlaces] at hDistinct ⊢
  exact ⟨List.mem_cons_self, (List.nodup_cons.1 hDistinct).1⟩

/-- The ticket of a job that begins is spent. -/
theorem begin (h : w.Numbered) (running : w.dispatcher.phase = .running) {ticket : Ticket}
    {job : κ.Job} {m : Mailbox (Command κ.Job)}
    (taken : w.dispatcher.mailbox.receive = some (.invoke ticket job, m)) :
    (w.beginning ticket m).Numbered := by
  obtain ⟨hPlace, hOut⟩ := h.out_of_receive taken
  have hTaken := h.take taken
  have hBegun := w.begun_beginning ticket m
  refine ⟨hTaken.placed, hTaken.drawn, fun t ht => ?_, fun t => ?_, fun hPhase => ?_⟩
  · by_cases hSame : ticket = t
    · exact hSame ▸ ⟨h.drawn ticket hPlace, hOut⟩
    · rw [Spent, hBegun, if_neg hSame] at ht
      exact hTaken.spent t ht
  · rw [hBegun]
    split
    · rename_i hSame
      have hNever := mt (fun hSome => Or.inl hSome) (h.unspent (hSame ▸ hPlace))
      omega
    · exact h.once t
  · exact absurd (running.symm.trans hPhase) (by simp)

/-- A spent ticket is answered. -/
theorem settle (h : w.Numbered) {ticket : Ticket} (spent : w.Spent ticket)
    (ended : Except Halt κ.Value) : (w.settling ticket ended).Numbered := by
  have hBegun := w.begun_settling ticket ended
  refine ⟨h.placed, h.drawn, fun t ht => ?_, fun t => hBegun t ▸ h.once t,
    fun hPhase t => (hBegun t).trans (h.unstarted hPhase t)⟩
  rw [Spent, hBegun] at ht
  rcases ht with hBegan | ⟨answer, hMem⟩
  · exact h.spent t (.inl hBegan)
  · rcases List.mem_cons.1 hMem with hNew | hOld
    · exact (Prod.mk.inj hNew).1 ▸ h.spent ticket spent
    · exact h.spent t (.inr ⟨answer, hOld⟩)

/-- What was given up with the queue: a job of it, and no other. -/
theorem mem_vacated {t : Ticket} {answer : Reply κ.Value} :
    (t, answer) ∈ w.vacated.dispatcher.replies ↔
      (t, answer) ∈ w.dispatcher.replies ∨
        answer = .lost ∧ t ∈ w.dispatcher.mailbox.items.filterMap (·.ticket?) := by
  simp only [vacated, updateDispatcher, List.mem_append, List.mem_reverse, List.mem_map,
    Prod.mk.injEq]
  constructor
  · rintro (⟨_, hItem, rfl, rfl⟩ | hOld)
    · exact .inr ⟨rfl, hItem⟩
    · exact .inl hOld
  · rintro (hOld | ⟨rfl, hItem⟩)
    · exact .inr hOld
    · exact .inl ⟨t, hItem, rfl, rfl⟩

/-- The tickets of all that is given up are spent. -/
theorem vacate (h : w.Numbered) : w.vacated.Numbered := by
  have hWaits {t : Ticket} (ht : t ∈ w.vacated.dispatcher.mailbox.places) :
      t ∈ w.dispatcher.mailbox.places := List.mem_append_right _ ht
  refine ⟨h.placed.close, fun t ht => h.drawn t (hWaits ht), fun t ht => ?_, h.once,
    fun hPhase => by cases hPhase⟩
  rcases ht with hBegan | ⟨answer, hMem⟩
  · obtain ⟨hLess, hOut⟩ := h.spent t (.inl hBegan)
    exact ⟨hLess, fun hPlace => hOut (hWaits hPlace)⟩
  · rcases mem_vacated.1 hMem with hOld | ⟨-, hItem⟩
    · obtain ⟨hLess, hOut⟩ := h.spent t (.inr ⟨answer, hOld⟩)
      exact ⟨hLess, fun hPlace => hOut (hWaits hPlace)⟩
    · -- Who has the ticket in the queue does not wait as well.
      refine ⟨h.drawn t (List.mem_append_left _ hItem), fun hPlace => ?_⟩
      exact (List.nodup_append.1 h.placed.distinct).2.2 t hItem t hPlace rfl

/-- A step of the worker keeps tickets numbered. -/
theorem shift (h : w.Numbered) (hStep : Shift env w v) : v.Numbered := by
  cases hStep with
  | idle => exact h
  | teardown running first later => exact h.errands later
  | notified running clear taken later => exact (h.take taken).errands later
  | @ran v ticket job m running clear taken works later =>
    have hWorked := (h.begin running taken).errands works
    refine (hWorked.settle (.inl ?_) _).errands later
    rw [(Continues.of_errands works).begun, begun_beginning, if_pos rfl]
    exact Nat.succ_pos _
  | @left x y v running out told leaving later =>
    have hx : x.Numbered := by
      rcases out with rfl | ⟨m, taken, rfl⟩
      · exact h
      · exact h.take taken
    have hy := hx.vacate.errands leaving
    refine Numbered.errands ?_ later
    exact ⟨hy.placed, hy.drawn, hy.spent, hy.once, fun hPhase => by cases hPhase⟩

/-- Between what clients do and turns of the worker, tickets are in order. -/
theorem of_reached {look : System κ → κ.Note} {manners : Surroundings κ → Prop}
    (h : Reached look manners w) : w.Numbered := by
  obtain ⟨client, hRun⟩ := h
  induction hRun with
  | refl => exact outset client
  | act before conduct ih => exact ih.errands (Errands.conduct conduct _)
  | @start w before unstarted settings executor ih =>
    simp only [Dispatcher.start]
    split
    · exact ih
    · split
      · exact ih
      · split
        · exact ih
        · have hNone := ih.unstarted unstarted
          refine ⟨⟨List.nodup_nil, fun _ hx => absurd hx List.not_mem_nil⟩,
            fun _ ht => absurd ht List.not_mem_nil, fun t ht => ?_, ih.once,
            fun hPhase => by cases hPhase⟩
          rcases ht with hBegan | ⟨_, hMem⟩
          · exact absurd (hNone t) (Nat.ne_of_gt hBegan)
          · exact absurd hMem List.not_mem_nil
  | turn before serves ih => exact ih.shift (.of_step serves (.of_reached look ⟨client, before⟩))

end System.Numbered
end HostedStreams
