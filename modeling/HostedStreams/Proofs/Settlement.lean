import HostedStreams.Proofs.Conservation
import HostedStreams.Proofs.Tidiness

/-! What becomes of the notifications that were accepted for one stream. They are handed to it in
the order in which they were accepted, each one once, and none is passed over before the stream is
torn down or the worker has stopped. What the worker writes down when it hands a notification to a
stream is what the stream receives. -/
namespace HostedStreams

variable {κ : Client}

open Entry (told accepted? dispatched? dropped? settled?)

/-- The events of those notifications that are meant for the stream of the identifier. -/
def StreamId.among (id : StreamId) (notifications : List (StreamId × Event)) : List Event :=
  (notifications.filter (·.1 = id)).map (·.2)

namespace StreamId

/-- Notifications for a stream come in a row if they do among all. -/
theorem among_append (id : StreamId) (l m : List (StreamId × Event)) :
    id.among (l ++ m) = id.among l ++ id.among m := by
  rw [among, List.filter_append, List.map_append, among, among]

/-- What comes first among all comes first among those for the stream. -/
theorem among_prefix (id : StreamId) {l m : List (StreamId × Event)} (h : l <+: m) :
    id.among l <+: id.among m :=
  (h.filter _).map _

end StreamId

/-- It is written down that the host was asked to start the stream. -/
def Entry.Asked {Note : Type} (r : StreamRef) (past : List (Entry Note)) : Prop :=
  ∃ id config, @Entry.hostCall _ id (.start config) r ∈ past

/-- Whether the host is asked to start the stream. -/
def Entry.asks {Note : Type} (r : StreamRef) : Entry Note → Bool
  | @Entry.hostCall _ _ (.start _) q => q = r
  | _ => false

/-- Whether a notification for the identifier is accepted. -/
def Entry.accepts {Note : Type} (id : StreamId) : Entry Note → Bool
  | .accepted other _ => other = id
  | _ => false

/-- It is written down that the stream's teardown began. -/
def Entry.Torn {Note : Type} (r : StreamRef) (past : List (Entry Note)) : Prop :=
  ∃ standing, .pass (.stream r) .destroyed standing ∈ past

namespace System

variable {w v : System κ} {r : StreamRef}

/-- The teardown of a stream that is torn down was written down, and no other. -/
theorem AllLived.torn_iff (h : w.AllLived) (made : w.Has r) :
    Entry.Torn r w.past ↔ (w.status r).state = .destroyed := by
  have hCount := ((h r).1 made).coursed.course.count_destroyed
  have hMem : .destroyed ∈ (w.life r).passes.map (·.1.kind) ↔ Entry.Torn r w.past := by
    simp only [Life.passes, life, List.map_reverse, List.mem_reverse, List.mem_map,
      List.mem_filterMap]
    constructor
    · rintro ⟨⟨event, standing⟩, ⟨deed, ⟨e, he, hDeed⟩, hPass⟩, hKind⟩
      cases deed <;> cases hPass
      obtain rfl := Entry.deed?_eq_pass.1 hDeed
      cases event <;> cases hKind
      exact ⟨standing, he⟩
    · rintro ⟨standing, he⟩
      exact ⟨(.destroyed, standing), ⟨.pass .destroyed standing, ⟨_, he, Entry.deed?_eq_pass.2 rfl⟩,
        rfl⟩, rfl⟩
  rw [← hMem, ← List.count_pos_iff, hCount]
  change 0 < (if (w.status r).state = .destroyed then 1 else 0) ↔ _
  split <;> simp [*]

/-- Only a stream that was made is started. -/
theorem AllLived.has_of_asked (h : w.AllLived) (asked : Entry.Asked r w.past) : w.Has r := by
  apply Decidable.byContradiction
  intro hNot
  obtain ⟨id, config, hMem⟩ := asked
  have hNone := List.filterMap_eq_nil_iff.1 ((h r).2 hNot) _ hMem
  simp [Entry.deed?] at hNone

/-- What may be said of a notification for the stream that was given up. -/
def Excused (w : System κ) (r : StreamRef) (later past : List (Entry κ.Note)) : Prop :=
  (Entry.Torn r past ∧ ∀ event, .dispatched (w.stream r).id event ∉ later) ∨
  (w.dispatcher.phase ≠ .running ∧ (∀ id event, .dispatched id event ∉ later) ∧
    ∀ ticket, .jobBegan ticket ∉ later)

/-- What is written down of notifications comes in order, and those that were given up are
excused. -/
structure Settles (w : System κ) : Prop where
  lived : w.AllLived
  prefixed : ∀ past, past <:+ w.past → told settled? past <+: told accepted? past
  excused : ∀ r, w.Served r → ∀ later event past,
    w.past = later ++ .dropped (w.stream r).id event :: past → Entry.Asked r past →
      w.Excused r later past

end System

/-- Streams that are there stay known as before. -/
theorem Step.keeps {look : System κ → κ.Note} {w v : System κ} (h : Step look w v) {r : StreamRef}
    (hr : w.Has r) :
    (v.stream r).id = (w.stream r).id ∧ (v.stream r).binding = (w.stream r).binding := by
  cases h with
  | quiet h =>
    obtain p | ⟨made, own, rfl⟩ := h.persists
    · exact ⟨p.id r, p.binding r⟩
    · rw [(System.Grown.append w made).old hr]
      exact ⟨rfl, rfl⟩
  | firing h => exact ⟨h.persists.id r, h.persists.binding r⟩
  | enlist id config =>
    rw [(System.Grown.append w _).old hr]
    exact ⟨rfl, rfl⟩
  | dispatcher | dispatching => exact ⟨rfl, rfl⟩

/-- No steps change what a stream is known by, or whom it was made for. -/
theorem Steps.keeps {look : System κ → κ.Note} {w v : System κ} (h : Steps look w v)
    {r : StreamRef} (hr : w.Has r) :
    (v.stream r).id = (w.stream r).id ∧ (v.stream r).binding = (w.stream r).binding := by
  induction h with
  | refl => exact ⟨rfl, rfl⟩
  | tail before step ih =>
    obtain ⟨hId, hBinding⟩ := step.keeps (Nat.lt_of_lt_of_le hr ((Steps.steady look).grows before))
    exact ⟨hId.trans ih.1, hBinding.trans ih.2⟩

/-- Whether the worker writes the entry when it goes about its queue. -/
def Entry.working {Note : Type} : Entry Note → Bool
  | .dispatched .. | .dropped .. | .jobBegan _ => true
  | _ => false

/-- What the worker writes down, and when. -/
inductive System.Writes (w : System κ) : Entry κ.Note → Prop
  | aside {x : Entry κ.Note} (h : x.working = false) : Writes w x
  | dispatched {id : StreamId} (event : Event) (running : w.dispatcher.phase = .running)
      (live : ∀ r, w.Served r → (w.stream r).id = id → (w.status r).state ≠ .destroyed) :
      Writes w (.dispatched id event)
  | dropped {id : StreamId} (event : Event)
      (gone : ∀ r, w.Served r → (w.stream r).id = id → (w.status r).state = .destroyed) :
      Writes w (.dropped id event)
  | givenUp (id : StreamId) (event : Event) (leaving : w.dispatcher.phase = .finishing) :
      Writes w (.dropped id event)
  | jobBegan (ticket : Ticket) (running : w.dispatcher.phase = .running) :
      Writes w (.jobBegan ticket)

/-- Outside passes the worker writes nothing. -/
theorem Quiet.working {look : System κ → κ.Note} {w v : System κ} (h : Quiet look w v) :
    v.past = w.past ∨ ∃ x, v.past = x :: w.past ∧ x.working = false := by
  cases h with
  | note | start | cancel | uncancelled | read | unread | write | abort | answer | accept
  | refuse =>
    exact .inr ⟨_, rfl, rfl⟩
  | _ => exact .inl (by simp [System.updateClient, System.updateSink, System.updateDispatcher])

/-- In passes of themselves the worker writes nothing. -/
theorem Firing.working {o : Origin} {w v : System κ} (h : Firing o w v) :
    v.past = w.past ∨ ∃ x, v.past = x :: w.past ∧ x.working = false := by
  cases h with
  | take | tearDown | start => exact .inr ⟨_, rfl, rfl⟩
  | hand o event a alive attached kept =>
    subst kept
    exact .inr ⟨_, rfl, rfl⟩
  | prune | clear => exact .inl (by simp)

/-- What the worker writes goes with what it has on its desk. -/
theorem Handling.writes {look : System κ → κ.Note} {d e : Desk κ} {w v : System κ}
    (h : Handling look (d, w) (e, v)) (accounts : w.Accounts d) :
    v.past = w.past ∨ ∃ x, v.past = x :: w.past ∧ w.Writes x := by
  have aside (h : v.past = w.past ∨ ∃ x, v.past = x :: w.past ∧ x.working = false) :
      v.past = w.past ∨ ∃ x, v.past = x :: w.past ∧ w.Writes x :=
    h.imp_right fun ⟨x, hPast, hAside⟩ => ⟨x, hPast, .aside hAside⟩
  cases h with
  | quiet stays hQuiet => exact aside hQuiet.working
  | firing d hFiring => exact aside hFiring.working
  | refuse | jobEnded => exact .inr ⟨_, rfl, .aside rfl⟩
  | hand event running live => exact .inr ⟨_, rfl, .dispatched event running live⟩
  | drop event gone => exact .inr ⟨_, rfl, .dropped event gone⟩
  | jobBegan ticket running => exact .inr ⟨_, rfl, .jobBegan ticket running⟩
  | giveUp w command rest =>
    cases command with
    | notify id event => exact .inr ⟨_, rfl, .givenUp id event (accounts.leaving _ rfl)⟩
    | invoke | shutdown => exact .inl rfl
  | _ => exact .inl rfl

namespace System

variable {w v : System κ} {r : StreamRef}

/-- Where a notification was given up, one was accepted. -/
theorem Accounts.accepted_ne_nil {desk : Desk κ} (h : w.Accounts desk) {id : StreamId}
    {event : Event} (hMem : .dropped id event ∈ w.past) : told accepted? w.past ≠ [] := by
  intro hNone
  have hSettled : (id, event) ∈ told settled? w.past := by
    rw [told, List.mem_reverse, List.mem_filterMap]
    exact ⟨_, hMem, rfl⟩
  rw [h.line] at hNone
  rw [(List.append_eq_nil_iff.1 hNone).1] at hSettled
  cases hSettled

/-- What excuses a notification that was given up still does when more has happened. -/
theorem Excused.later {later past : List (Entry κ.Note)} (h : w.Excused r later past)
    (hId : (v.stream r).id = (w.stream r).id)
    (ended : w.dispatcher.phase ≠ .running → v.dispatcher.phase ≠ .running) :
    v.Excused r later past := by
  rw [Excused, hId]
  exact h.imp_right fun ⟨hEnded, hNothing⟩ => ⟨ended hEnded, hNothing⟩

/-- The worker writes down nothing that spoils an excuse. -/
theorem Excused.cons {later past : List (Entry κ.Note)} {x : Entry κ.Note}
    (h : w.Excused r later past) (writes : w.Writes x) (hServed : w.Served r)
    (torn : Entry.Torn r past → (w.status r).state = .destroyed) :
    w.Excused r (x :: later) past := by
  obtain ⟨hTorn, hNone⟩ | ⟨hEnded, hNone, hIdle⟩ := h
  · refine .inl ⟨hTorn, fun event hMem => ?_⟩
    rcases List.mem_cons.1 hMem with rfl | hMem
    · cases writes with
      | aside h => cases h
      | dispatched event running live => exact live r hServed rfl (torn hTorn)
    · exact hNone event hMem
  · refine .inr ⟨hEnded, fun id event hMem => ?_, fun ticket hMem => ?_⟩
    · rcases List.mem_cons.1 hMem with rfl | hMem
      · cases writes with
        | aside h => cases h
        | dispatched event running => exact hEnded running
      · exact hNone id event hMem
    · rcases List.mem_cons.1 hMem with rfl | hMem
      · cases writes with
        | aside h => cases h
        | jobBegan ticket running => exact hEnded running
      · exact hIdle ticket hMem

/-- A notification that is given up is excused. -/
theorem Writes.excused {event : Event} (h : w.Writes (.dropped (w.stream r).id event))
    (hServed : w.Served r) (torn : (w.status r).state = .destroyed → Entry.Torn r w.past) :
    w.Excused r [] w.past := by
  cases h with
  | aside h => cases h
  | dropped event gone => exact .inl ⟨torn (gone r hServed rfl), fun _ => List.not_mem_nil⟩
  | givenUp id event leaving =>
    exact .inr ⟨by simp [leaving], fun _ _ => List.not_mem_nil, fun _ => List.not_mem_nil⟩

theorem Settles.outset (client : κ.State) : ({ client } : System κ).Settles where
  lived := .outset client
  prefixed past hPast := by
    obtain rfl := List.suffix_nil.1 hPast
    exact List.prefix_rfl
  excused r _ later event past hPast := by cases later <;> cases hPast

/-- Whatever happens, notifications are settled in order or for a reason. -/
theorem Settles.step {look : System κ → κ.Note} {d e : Desk κ}
    (hStep : Handling look (d, w) (e, v)) (accounts : w.Accounts d) (h : w.Settles) :
    v.Settles := by
  have hSteps := hStep.steps
  have hAfter := accounts.step hStep
  have hLived : v.AllLived := hSteps.preserve (fun hStep h => h.step hStep) h.lived
  have hWrites := hStep.writes accounts
  -- A stream of which something is told was there before.
  have known {past : List (Entry κ.Note)} {r : StreamRef} (hr : v.Served r)
      (hPast : past <:+ w.past) (asked : Entry.Asked r past) :
      w.Served r ∧ (v.stream r).id = (w.stream r).id := by
    obtain ⟨id, config, hMem⟩ := asked
    have hHas := h.lived.has_of_asked ⟨id, config, hPast.subset hMem⟩
    obtain ⟨hId, hBinding⟩ := hSteps.keeps hHas
    exact ⟨⟨hHas, hBinding ▸ hr.2⟩, hId⟩
  have excused {later past : List (Entry κ.Note)} {event : Event} {r : StreamRef} (hr : v.Served r)
      (hPast : w.past = later ++ .dropped (v.stream r).id event :: past)
      (asked : Entry.Asked r past) : w.Served r ∧ (v.stream r).id = (w.stream r).id ∧
        w.Excused r later past ∧ told accepted? w.past ≠ [] := by
    have hSuffix : past <:+ w.past := ⟨later ++ [.dropped (v.stream r).id event], by simp [hPast]⟩
    obtain ⟨hServed, hId⟩ := known hr hSuffix asked
    rw [hId] at hPast
    have hMem : .dropped (w.stream r).id event ∈ w.past := by
      rw [hPast]
      simp
    exact ⟨hServed, hId, h.excused r hServed later event past hPast asked,
      accounts.accepted_ne_nil hMem⟩
  -- Nothing was accepted before the dispatcher was started.
  have ended (hSome : told accepted? w.past ≠ []) :=
    (hStep.lasts accounts).ended fun unstarted => hSome (accounts.unstarted unstarted).2.1
  obtain hSame | ⟨x, hPast, hWrite⟩ := hWrites
  · refine ⟨hLived, hSame ▸ h.prefixed, fun r hr later event past hSplit asked => ?_⟩
    rw [hSame] at hSplit
    obtain ⟨-, hId, hExcused, hSome⟩ := excused hr hSplit asked
    exact hExcused.later hId (ended hSome)
  · refine ⟨hLived, fun past hSuffix => ?_, fun r hr later event past hSplit asked => ?_⟩
    · rw [hPast] at hSuffix
      rcases List.suffix_cons_iff.1 hSuffix with rfl | hSuffix
      · rw [← hPast]
        exact ⟨_, hAfter.line.symm⟩
      · exact h.prefixed past hSuffix
    · rw [hPast] at hSplit
      cases later with
      | nil =>
        obtain ⟨rfl, rfl⟩ := List.cons.inj hSplit
        obtain ⟨hServed, hId⟩ := known hr (List.suffix_refl _) asked
        rw [hId] at hWrite
        have hExcused := hWrite.excused hServed (h.lived.torn_iff hServed.1).2
        have hSome := hAfter.accepted_ne_nil (hPast ▸ List.mem_cons_self)
        rw [hPast, Entry.told_cons] at hSome
        exact hExcused.later hId (ended (by simpa [accepted?] using hSome))
      | cons y later =>
        obtain ⟨rfl, hOld⟩ := List.cons.inj hSplit
        obtain ⟨hServed, hId, hExcused, hSome⟩ := excused hr hOld asked
        refine (hExcused.cons hWrite hServed fun hTorn => ?_).later hId (ended hSome)
        obtain ⟨standing, hMem⟩ := hTorn
        exact (h.lived.torn_iff hServed.1).1 ⟨standing, hOld ▸ by simp [hMem]⟩

/-- Nobody spoke of the stream before it was started: no notification was accepted for its
identifier before the host was asked to start it, which is when it is first told to anybody. -/
def Unspoken (w : System κ) (r : StreamRef) : Prop :=
  ∀ event past, (.accepted (w.stream r).id event :: past) <:+ w.past → Entry.Asked r past

/-- Nobody spoke of the stream if nothing was accepted for its identifier up to the first request
to start it. -/
theorem unspoken_of_takeWhile {w : System κ} {r : StreamRef}
    (h : (w.journal.takeWhile (!·.asks r)).all (!·.accepts (w.stream r).id) = true) :
    w.Unspoken r := by
  rintro event past ⟨later, hPast⟩
  by_contra hNone
  have hBefore : ∀ e ∈ past.reverse, (!e.asks r) = true := by
    intro e he
    cases e with
    | @hostCall id call q =>
      cases call with
      | start config =>
        by_cases hq : q = r
        · subst hq
          exact absurd ⟨id, config, List.mem_reverse.1 he⟩ hNone
        · simp [Entry.asks, hq]
      | _ => rfl
    | _ => rfl
  have hJournal : w.journal =
      (past.reverse ++ [.accepted (w.stream r).id event]) ++ later.reverse := by
    rw [journal, ← hPast]
    simp
  have hMem : .accepted (w.stream r).id event ∈ w.journal.takeWhile (!·.asks r) := by
    rw [hJournal, List.takeWhile_append_of_pos]
    · simp
    · intro e he
      rcases List.mem_append.1 he with he | he
      · exact hBefore e he
      · obtain rfl := List.mem_singleton.1 he
        rfl
  have hNot := List.all_eq_true.1 h _ hMem
  simp [Entry.accepts] at hNot

/-- The system in which the worker, with the rest of its queue before it, has written down that it
hands the event to the stream, which it keeps meanwhile. -/
def handing (w : System κ) (r : StreamRef) (event : Event) (rest : Mailbox (Command κ.Job)) :
    System κ :=
  ((w.updateDispatcher fun d =>
      { d with mailbox := rest, inContext := true, metrics := d.metrics.lowerDepth }).updateStream r
    fun s => { s with handles := s.handles + 1 }).record (.dispatched (w.stream r).id event)

/-- What becomes of the notifications that were accepted for the stream. -/
structure Settled (w : System κ) (r : StreamRef) : Prop where
  /-- At every moment those were handed to it that were accepted first, in order. -/
  inOrder : ∀ past, past <:+ w.past →
    (w.stream r).id.among (told dispatched? past) <+: (w.stream r).id.among (told accepted? past)
  /-- Each is handed to it once, is given up, or waits in the queue. -/
  once : (w.stream r).id.among (told accepted? w.past) =
    (w.stream r).id.among (told dispatched? w.past) ++
      ((w.stream r).id.among (told dropped? w.past) ++
        (w.stream r).id.among w.dispatcher.mailbox.queued)
  /-- None is given up before the stream's teardown has begun or the worker has stopped. -/
  excused : ∀ later event past, w.past = later ++ .dropped (w.stream r).id event :: past →
    w.Excused r later past
  /-- Nobody else is registered under its identifier. -/
  registered : ∀ q, w.dispatcher.registered? (w.stream r).id = some q → q = r
  /-- When the worker comes to a notification for it, it receives the event that was notified as
  soon as this is written down, and whatever else there is to do is done afterwards. -/
  handed : ∀ look manners env, env.Serves look manners → w.dispatcher.phase = .running →
    w.dispatcher.teardowns = [] → w.dispatcher.registered? (w.stream r).id = some r →
    (w.status r).state ≠ .destroyed → ∀ event rest,
    w.dispatcher.mailbox.receive = some (.notify (w.stream r).id event, rest) →
      Steps look ((r.receive env event).left (w.handing r event rest)) ((Worker.step env).left w)

end System

namespace Worker

variable {look : System κ → κ.Note} {manners : Surroundings κ → Prop} {env : Surroundings κ}
  {w : System κ} {r : StreamRef} {id : StreamId}

/-- A stream that is registered and not torn down receives what is dispatched, right after this is
written down. -/
theorem steps_dispatch (serves : env.Serves look manners)
    (known : w.dispatcher.registered? id = some r) (live : (w.status r).state ≠ .destroyed)
    (event : Event) :
    Steps look
      ((r.receive env event).left (((w.updateMetrics Metrics.lowerDepth).updateStream r fun s =>
        { s with handles := s.handles + 1 }).record (.dispatched id event)))
      ((dispatch env id event).left w) := by
  have hTended := (Steps.unconcerned look manners).tended
  obtain ⟨mannered, hWithin⟩ := (Steps.unconcerned look manners).sustained.serves serves
  simp only [dispatch, Act.left_modify_bind]
  rw [Act.left_bind_ok
    (System.on_find?_of_live (w := w.updateMetrics Metrics.lowerDepth) known live)]
  apply hTended.related_holding mannered hWithin
  simp only [Act.left_modify_bind]
  apply hTended.related_bind (hTended.related_contained .refl)
  intro _ _
  simp only [Act.left_modify_bind, Act.left_get_bind]
  have hCounted (v : System κ) :
      Steps look v (v.updateMetrics (Metrics.countEvent event.kind.name)) :=
    .single (.dispatcher _)
  split
  · exact hTended.related_forget mannered hWithin (hCounted _) ((hCounted _).tail (.dispatcher _))
  · exact hCounted _

/-- What the worker's next command notifies a stream of is what the stream receives. -/
theorem steps_step_of_notification (serves : env.Serves look manners)
    (running : w.dispatcher.phase = .running) (clear : w.dispatcher.teardowns = [])
    (known : w.dispatcher.registered? (w.stream r).id = some r)
    (live : (w.status r).state ≠ .destroyed) {event : Event} {rest : Mailbox (Command κ.Job)}
    (taken : w.dispatcher.mailbox.receive = some (.notify (w.stream r).id event, rest)) :
    Steps look ((r.receive env event).left (w.handing r event rest)) ((step env).left w) := by
  have hDispatch := steps_dispatch
    (w := w.updateDispatcher fun d => { d with mailbox := rest, inContext := true })
    serves known live event
  rw [left_step_of_command running clear taken, carryOut, left_inContext]
  exact hDispatch.tail (.dispatcher _)

end Worker

/-- Where nothing is handed to a stream once one of its notifications was given up, those that
were handed to it came first. -/
theorem Entry.among_settled {Note : Type} (id : StreamId) (past : List (Entry Note))
    (h : ∀ later event before, past = later ++ .dropped id event :: before →
      ∀ other, .dispatched id other ∉ later) :
    id.among (told settled? past) =
      id.among (told dispatched? past) ++ id.among (told dropped? past) := by
  induction past with
  | nil => rfl
  | cons e past ih =>
    have hOld := ih fun later event before hPast other hMem =>
      h (e :: later) event before (congrArg _ hPast) other (List.mem_cons_of_mem _ hMem)
    simp only [told_cons, StreamId.among_append, hOld]
    cases e with
    | dispatched other event =>
      by_cases hId : other = id
      · subst hId
        -- So far nothing was given up.
        have hNone : other.among (told dropped? past) = [] := by
          apply List.eq_nil_iff_forall_not_mem.2
          intro dropped hMem
          simp only [StreamId.among, told, List.mem_map, List.mem_filter, List.mem_reverse,
            List.mem_filterMap, decide_eq_true_eq] at hMem
          obtain ⟨⟨_, _⟩, ⟨⟨e, he, hDropped⟩, rfl⟩, rfl⟩ := hMem
          cases e <;> cases hDropped
          obtain ⟨later, before, rfl⟩ := List.append_of_mem he
          exact h (.dispatched _ event :: later) _ before rfl event List.mem_cons_self
        rw [hNone]
        simp [settled?, dispatched?, dropped?, StreamId.among]
      · simp [settled?, dispatched?, dropped?, StreamId.among, hId]
    | dropped other event => simp [settled?, dispatched?, dropped?, StreamId.among]
    | _ => simp [settled?, dispatched?, dropped?, StreamId.among]

namespace System

variable {look : System κ → κ.Note} {manners : Surroundings κ → Prop} {w : System κ} {r : StreamRef}

/-- The notifications that were accepted for a stream of which nobody spoke before are settled in
order, or for a reason. -/
theorem settled_of_reached (h : Reached look manners w) (hServed : w.Served r)
    (unspoken : w.Unspoken r) : w.Settled r := by
  have hBooks := (AtRest.of_reached look h).books
  obtain ⟨⟨hAccounts, hSettles⟩, -⟩ :=
    h.of_handling (I := fun d w => w.Accounts d ∧ w.Settles)
      (fun client => ⟨.outset client, .outset client⟩)
      fun hStep ⟨hAccounts, hSettles⟩ => ⟨hAccounts.step hStep, hSettles.step hStep hAccounts⟩
  have hExcused (later : List (Entry κ.Note)) (event : Event) (past : List (Entry κ.Note))
      (hPast : w.past = later ++ .dropped (w.stream r).id event :: past) :
      w.Excused r later past := by
    apply hSettles.excused r hServed later event past hPast
    -- What was given up was accepted before.
    have hMem : ((w.stream r).id, event) ∈ told accepted? past := by
      have hPrefix := hSettles.prefixed _ ⟨later, hPast.symm⟩
      simp only [Entry.told_cons, accepted?, Option.toList_none, List.append_nil] at hPrefix
      exact hPrefix.subset (by simp [settled?, dispatched?, dropped?])
    rw [told, List.mem_reverse, List.mem_filterMap] at hMem
    obtain ⟨e, he, hAccepted⟩ := hMem
    cases e <;> cases hAccepted
    obtain ⟨between, before, rfl⟩ := List.append_of_mem he
    obtain ⟨id, config, hAsked⟩ := unspoken event before
      ⟨later ++ .dropped (w.stream r).id event :: between, by simp [hPast]⟩
    exact ⟨id, config, by simp [hAsked]⟩
  have hApart (past : List (Entry κ.Note)) (hPast : past <:+ w.past) :
      (w.stream r).id.among (told settled? past) =
        (w.stream r).id.among (told dispatched? past) ++
          (w.stream r).id.among (told dropped? past) := by
    apply Entry.among_settled
    rintro later event before rfl other hMem
    obtain ⟨further, hFurther⟩ := hPast
    obtain ⟨-, hNone⟩ | ⟨-, hNone, -⟩ :=
      hExcused (further ++ later) event before (by simp [← hFurther])
    · exact hNone other (List.mem_append_right _ hMem)
    · exact hNone _ other (List.mem_append_right _ hMem)
  constructor
  · intro past hPast
    have hPrefix := (w.stream r).id.among_prefix (hSettles.prefixed past hPast)
    rw [hApart past hPast] at hPrefix
    exact (List.prefix_append _ _).trans hPrefix
  · rw [hAccounts.line, StreamId.among_append, hApart _ (List.suffix_refl _), List.append_assoc]
    rfl
  · exact hExcused
  · intro q known
    exact (hBooks.eq_of_registered? known hServed rfl).symm
  · intro look manners env serves running clear known live event rest taken
    exact Worker.steps_step_of_notification serves running clear known live taken

end System
end HostedStreams
