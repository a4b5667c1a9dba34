import HostedStreams.Proofs.Leaving
import HostedStreams.Proofs.Shaken

/-! What the worker does where sinks panic, against what it does where none does. It holds back the
panic of what it hands over or tears down, and goes on as if there had been none. -/
namespace HostedStreams

variable {κ : Client} {α β : Type} {temper even : Temper κ} {w v : System κ} {r : StreamRef}

/-- What is contained leaves behind what it would leave behind alone, but for the count of panics.
-/
theorem left_contained (a : Act κ α) (w : System κ) :
    (Worker.contained a).left w = a.left w ∨
      (Worker.contained a).left w = (a.left w).updateMetrics Metrics.countPanic := by
  apply Act.holds_bind
    (P := fun v => v = a.left w ∨ v = (a.left w).updateMetrics Metrics.countPanic)
  · exact .inl (Act.left_contain a w)
  · intro ended _
    rw [Act.left_contain]
    cases ended with
    | ok _ => exact .inl rfl
    | error _ => exact .inr rfl

/-- Panics are counted on both sides, and then both sides go on. -/
theorem same_contained {a : Act κ α} {b : Act κ β} (h : Act.Near temper a b w v) (ha : a.Endures)
    (hb : b.Endures) : Act.Same temper (Worker.contained a) (Worker.contained b) w v := by
  obtain ⟨_, hFirst⟩ := ha.returns_contained w
  obtain ⟨_, hSecond⟩ := hb.returns_contained v
  have hLeft : ((Worker.contained a).left w).Alike temper (b.left v) := by
    rcases left_contained a w with hLeft | hLeft <;> rw [hLeft]
    · exact h.2
    · exact h.2.panic_left
  refine ⟨hFirst.trans hSecond.symm, ?_⟩
  rcases left_contained b v with hOther | hOther <;> rw [hOther]
  · exact hLeft
  · exact hLeft.panic_right

/-- What is run in the worker's context. -/
theorem near_inContext {a : Act κ α} {b : Act κ β} (h : w.Alike temper v)
    (hRun : Act.Near temper a b (w.updateDispatcher fun d => { d with inContext := true })
      (v.updateDispatcher fun d => { d with inContext := true })) :
    Act.Near temper (Worker.inContext a) (Worker.inContext b) w v := by
  simp only [Worker.inContext, Act.near_get_bind, Act.near_modify_bind, h.inContext]
  exact hRun.after (Act.same_modify (hRun.2.updateDispatcher fun _ n => ⟨n, rfl⟩)).near

/-! The registry. -/

section

variable (bearing : Bearing κ) (even : Temper κ)

/-- A stream that is torn down already is released in the same way. -/
theorem same_release_of_torn (h : w.Alike temper v) (torn : (w.status r).state = .destroyed) :
    Act.Same temper (r.release (.recording bearing temper)) (r.release (.recording bearing even))
      w v := by
  have hOther : (v.status r).state = .destroyed := (congrArg Status.state (h.status r)).trans torn
  obtain ⟨_, hFirst⟩ : (r.release (.recording bearing temper)).Returns w :=
    System.returns_release_of_torn torn
  obtain ⟨_, hSecond⟩ : (r.release (.recording bearing even)).Returns v :=
    System.returns_release_of_torn hOther
  refine ⟨hFirst.trans hSecond.symm, ?_⟩
  rw [System.left_release_of_torn torn, System.left_release_of_torn hOther]
  exact h.updateHandles r (· - 1)

theorem same_remove (h : w.Alike temper v) (id : StreamId) :
    Act.Same temper (Registry.remove id) (Registry.remove id) w v := by
  simp only [Registry.remove, Act.same_get_bind]
  rw [h.reads (f := Dispatcher.registered? id) fun _ _ => rfl]
  split
  · exact Act.same_pure h _
  · simp only [Act.same_modify_bind]
    exact Act.same_pure (h.updateDispatcher fun _ n => ⟨n, rfl⟩) _

/-- To forget a stream that is torn down already is the same in both. -/
theorem same_forget_of_torn (h : w.Alike temper v) {id : StreamId}
    (known : w.dispatcher.registered? id = some r) (torn : (w.status r).state = .destroyed) :
    Act.Same temper (Registry.forget (.recording bearing temper) id)
      (Registry.forget (.recording bearing even) id) w v := by
  apply (same_remove h id).bind
  intro found hFound
  have hLeft : (Registry.remove id).left w = w.struck id := by
    rw [Act.left, System.on_remove_of_some known]
  rw [System.on_remove_of_some known] at hFound
  cases hFound
  refine same_release_of_torn bearing even (same_remove h id).2 ?_
  rw [hLeft]
  exact torn

theorem same_find? (h : w.Alike temper v) (id : StreamId) :
    Act.Same temper (Registry.find? (.recording bearing temper) id)
      (Registry.find? (.recording bearing even) id) w v := by
  simp only [Registry.find?, Act.same_get_bind]
  rw [h.reads (f := Dispatcher.registered? id) fun _ _ => rfl]
  cases known : w.dispatcher.registered? id with
  | none => exact Act.same_pure h _
  | some r =>
    simp only [h.status]
    split
    · rename_i torn
      have hForgotten := same_forget_of_torn bearing even h known torn
      exact hForgotten.bind fun _ _ => Act.same_pure hForgotten.2 _
    · exact Act.same_pure h _

/-- The handles of streams that are torn down are given up. -/
theorem same_releases (l : List (StreamId × StreamRef)) (h : w.Alike temper v)
    (torn : ∀ entry ∈ l, (w.status entry.2).state = .destroyed) :
    Act.Same temper (l.forM fun (_, r) => r.release (.recording bearing temper))
      (l.forM fun (_, r) => r.release (.recording bearing even)) w v := by
  induction l generalizing w v with
  | nil => exact Act.same_pure h _
  | cons entry rest ih =>
    have hTorn := torn entry List.mem_cons_self
    have hFirst := same_release_of_torn bearing even h hTorn
    apply hFirst.bind
    intro _ _
    apply ih hFirst.2
    intro other hOther
    rw [System.left_release_of_torn hTorn, w.status_handles entry.2 other.2 (· - 1)]
    exact torn other (List.mem_cons_of_mem _ hOther)

theorem same_prune (h : w.Alike temper v) :
    Act.Same temper (Registry.prune (.recording bearing temper))
      (Registry.prune (.recording bearing even)) w v := by
  simp only [Registry.prune, Act.same_get_bind, h.status]
  rw [h.reads (f := (·.registry)) fun _ _ => rfl]
  split
  · simp only [Act.same_modify_bind]
    apply same_releases bearing even _ (h.updateDispatcher fun _ n => ⟨n, rfl⟩)
    exact fun entry hEntry => of_decide_eq_true (List.mem_filter.1 hEntry).2
  · exact Act.same_pure h _

/-- Jobs do not depend on sinks. -/
theorem same_runJob (h : w.Alike temper v) (ticket : Ticket) (job : κ.Job) :
    Act.Same temper (Worker.runJob (.recording bearing temper) ticket job)
      (Worker.runJob (.recording bearing even) ticket job) w v := by
  have hRun := (same_recalling (bearing.work job) (h.record (.jobBegan ticket))).contain
  simp only [Worker.runJob, Act.same_modify_bind]
  apply hRun.bind
  intro ended _
  cases ended with
  | ok _ =>
    simp only [Worker.reply, Act.same_modify_bind]
    exact same_prune bearing even ((hRun.2.record _).updateDispatcher fun _ n => ⟨n, rfl⟩)
  | error _ =>
    simp only [Worker.reply, Act.same_modify_bind]
    refine same_prune bearing even (System.Alike.updateDispatcher ?_ fun _ n => ⟨n, rfl⟩)
    exact (hRun.2.record _).updateMetrics fun _ n => ⟨n + 1, rfl⟩

end

section

variable (bearing : Bearing κ) (hEven : even.Even)

include hEven

theorem near_forget (h : w.Alike temper v) (id : StreamId) :
    Act.Near temper (Registry.forget (.recording bearing temper) id)
      (Registry.forget (.recording bearing even) id) w v := by
  apply (same_remove h id).bind_near
  intro found _
  cases found with
  | none => exact Act.near_pure (same_remove h id).2 _ _
  | some r => exact near_release bearing hEven (same_remove h id).2 r

theorem near_abandon (h : w.Alike temper v) :
    Act.Near temper (Registry.abandon (.recording bearing temper))
      (Registry.abandon (.recording bearing even)) w v := by
  have hReleases (l : List (StreamId × StreamRef)) : ∀ {w v : System κ}, w.Alike temper v →
      Act.Near temper
        (l.foldr (fun (_, r) rest => (r.release (.recording bearing temper)).after rest) (pure ()))
        (l.foldr (fun (_, r) rest => (r.release (.recording bearing even)).after rest) (pure ()))
        w v := by
    induction l with
    | nil => exact fun h => Act.near_pure h _ _
    | cons entry rest ih =>
      intro w v h
      have hFirst := near_release bearing hEven h entry.2
      exact hFirst.after (ih hFirst.2)
  simp only [Registry.abandon, Act.near_get_bind, Act.near_modify_bind]
  rw [h.reads (f := (·.registry)) fun _ _ => rfl]
  exact hReleases _ (h.updateDispatcher fun _ n => ⟨n, rfl⟩)

end

/-! What the worker carries out. -/

theorem same_discard (h : w.Alike temper v) (command : Command κ.Job) :
    Act.Same temper (Worker.discard command) (Worker.discard command) w v := by
  cases command with
  | notify id event =>
    exact Act.same_modify ((h.record _).updateMetrics fun _ n => ⟨n, rfl⟩)
  | invoke ticket job => exact Act.same_modify (h.updateDispatcher fun _ n => ⟨n, rfl⟩)
  | shutdown => exact Act.same_pure h _

/-- Sinks that take note, or panic, do not wait for the worker. -/
theorem endure_recording (look : System κ → κ.Note) (bearing : Bearing κ) (temper : Temper κ) :
    (Surroundings.recording bearing temper).Endure :=
  (Surroundings.serves_recording look bearing temper).endure

section

variable (look : System κ → κ.Note) (bearing : Bearing κ) (hEven : even.Even)

include look hEven

/-- A notification reaches its stream, unless what it stands for is cut short. -/
theorem near_dispatch (steadfast : temper.Steadfast) (h : w.Alike temper v) (id : StreamId)
    (event : Event) :
    Act.Near temper (Worker.dispatch (.recording bearing temper) id event)
      (Worker.dispatch (.recording bearing even) id event) w v := by
  have hLowered := h.updateMetrics (f := Metrics.lowerDepth) fun _ n => ⟨n, rfl⟩
  have hSearch := same_find? bearing even hLowered id
  simp only [Worker.dispatch, Act.near_modify_bind]
  apply hSearch.bind_near
  intro found _
  cases found with
  | none => exact (Act.same_modify ((hSearch.2.record _).updateMetrics fun _ n => ⟨n, rfl⟩)).near
  | some r =>
    apply near_holding bearing hEven
    simp only [Act.near_modify_bind]
    have hHanded := same_contained
      (near_receive bearing hEven
        ((hSearch.2.updateHandles r (· + 1)).record (.dispatched id event)) steadfast r rfl)
      ((endure_recording look bearing temper).receive r event)
      ((endure_recording look bearing even).receive r event)
    apply hHanded.bind_near
    intro _ _
    have hCounted := hHanded.2.updateMetrics (f := Metrics.countEvent event.kind.name)
      fun _ n => ⟨n, rfl⟩
    simp only [Act.near_modify_bind, Act.near_get_bind]
    rw [hCounted.status]
    split
    · exact near_forget bearing hEven hCounted id
    · exact Act.near_pure hCounted _ _

omit look hEven in
/-- However its sinks take it, the teardown of a stream tears it down. -/
theorem torn_destroy_recording (r : StreamRef) (w : System κ) :
    (((r.destroy (.recording bearing temper)).left w).status r).state = .destroyed := by
  by_cases live : (w.status r).state = .destroyed
  · rwa [System.left_destroy_of_torn live]
  · have hTorn : ((w.updateStatus r Status.tornDown).status r).state = .destroyed := by
      rw [System.status_updateStatus, if_pos ⟨rfl, System.has_of_state_ne live⟩]
      rfl
    simp only [StreamRef.destroy, Act.left_get_bind]
    rw [if_pos live, Act.left_modify_bind]
    rw [← status_fire_recording bearing temper r .destroyed] at hTorn
    apply Act.holds_bind (P := fun u => (u.status r).state = .destroyed) hTorn
    intro _ _
    change ((System.updateSource (.stream r) Source.clear _).status r).state = .destroyed
    rw [System.status_updateSource]
    exact hTorn

/-- A teardown that is scheduled ends the same way, for the worker holds the panic back. -/
theorem same_tearDown (h : w.Alike temper v) (id : StreamId) :
    Act.Same temper (Worker.tearDown (.recording bearing temper) id)
      (Worker.tearDown (.recording bearing even) id) w v := by
  have hRemoved := same_remove h id
  apply hRemoved.bind
  intro found _
  cases found with
  | none => exact Act.same_pure hRemoved.2 _
  | some r =>
    have hTorn := same_contained (near_destroy bearing hEven hRemoved.2 r)
      ((endure_recording look bearing temper).destroy r)
      ((endure_recording look bearing even).destroy r)
    apply hTorn.bind
    intro _ _
    apply same_release_of_torn bearing even hTorn.2
    rcases left_contained (r.destroy (.recording bearing temper)) ((Registry.remove id).left w) with
      hLeft | hLeft <;> rw [hLeft]
    · exact torn_destroy_recording bearing r _
    · exact torn_destroy_recording bearing r _

/-- The worker closes a stream in the same way up to a panic when its handle is given up. -/
theorem near_workerClose (h : w.Alike temper v) (id : StreamId) (r : StreamRef) :
    Act.Near temper (Worker.close (.recording bearing temper) id r)
      (Worker.close (.recording bearing even) id r) w v := by
  apply near_holding bearing hEven
  have hClosed := same_contained
    (near_close bearing hEven (h.updateHandles r (· + 1)) r)
    ((endure_recording look bearing temper).close r) ((endure_recording look bearing even).close r)
  exact hClosed.bind_near fun _ _ => (same_tearDown look bearing hEven hClosed.2 id).near

/-! The end of the worker. -/

/-- The worker closes all streams that are left in the same way. -/
theorem near_closeAll (l : List (StreamId × StreamRef)) (h : w.Alike temper v) (hw : w.Books 0)
    (leaving : w.dispatcher.phase = .finishing)
    (known : ∀ entry ∈ l, w.Served entry.2 ∧ (w.stream entry.2).id = entry.1) :
    Act.Near temper (l.forM fun (id, r) => Worker.close (.recording bearing temper) id r)
      (l.forM fun (id, r) => Worker.close (.recording bearing even) id r) w v := by
  have hServes := Surroundings.serves_recording look bearing temper
  have he := ((Conserves.sustained look _).serves hServes).2
  induction l generalizing w v with
  | nil => exact Act.near_pure h _ _
  | cons entry rest ih =>
    obtain ⟨hr, hId⟩ := known entry List.mem_cons_self
    have hFirst := near_workerClose look bearing hEven h entry.1 entry.2
    have hEnds := Conserves.ends_close look he hServes.endure hw leaving hr hId
    have hLeft := hEnds.left.1
    apply hFirst.bind_returns hEnds.returns
    intro _ _ _ _
    apply ih hFirst.2 (hLeft.books hw) ((hLeft.phase hw).trans leaving)
    intro other hOther
    obtain ⟨hr, hId⟩ := known other (List.mem_cons_of_mem _ hOther)
    exact ⟨hLeft.served hr, (hLeft.id hr.1).trans hId⟩

/-- The context is cleared in the same way. -/
theorem near_clearing (h : w.Alike temper v) (hw : w.Books 0)
    (leaving : w.dispatcher.phase = .finishing) :
    Act.Near temper (Worker.clearing (.recording bearing temper))
      (Worker.clearing (.recording bearing even)) w v := by
  have hServes := Surroundings.serves_recording look bearing temper
  have he := ((Conserves.sustained look _).serves hServes).2
  have hTaken := hw.aside (f := fun d => { d with teardowns := [] })
    fun _ => ⟨rfl, rfl, rfl, rfl, rfl, rfl, rfl⟩
  simp only [Worker.clearing, Act.near_get_bind, Act.near_modify_bind]
  rw [h.reads (f := (·.teardowns)) fun _ _ => rfl]
  have hDown := Act.same_forM (f := Worker.tearDown (.recording bearing temper))
    (g := Worker.tearDown (.recording bearing even))
    (fun id _ _ h => same_tearDown look bearing hEven h id) w.dispatcher.teardowns
    (h.updateDispatcher (f := fun d => { d with teardowns := [] }) fun _ n => ⟨n, rfl⟩)
  apply hDown.bind_near
  intro _ _
  have hConserved :=
    (Conserves.ends_tearDowns look he hServes.endure w.dispatcher.teardowns hTaken).left
  have hBooks := hConserved.books hTaken
  simp only [Act.near_get_bind]
  rw [hDown.2.reads (f := (·.registry)) fun _ _ => rfl]
  have hStill := (hConserved.phase hTaken).trans leaving
  exact near_closeAll look bearing hEven _ hDown.2 hBooks hStill fun _ => hBooks.roster.listed

/-- The worker leaves. -/
theorem near_finish (h : w.Alike temper v) (hw : w.Books 0)
    (hEnd : w.dispatcher.stopped = true ∨ w.dispatcher.held = false) :
    Act.Near temper (Worker.finish (.recording bearing temper))
      (Worker.finish (.recording bearing even)) w v := by
  have hServes := Surroundings.serves_recording look bearing temper
  have he := ((Conserves.sustained look _).serves hServes).2
  have hLeft : (w.updateDispatcher fun d =>
      { d with phase := .finishing, mailbox := d.mailbox.close }).Books
      w.dispatcher.mailbox.notifications :=
    hw.updateDispatcher rfl (hw.ledger.leave hEnd)
  obtain ⟨hv, leaving⟩ := (Worker.ends_discards w.dispatcher.mailbox.items hLeft rfl).left
  simp only [Worker.finish, Act.near_get_bind, Act.near_modify_bind]
  rw [h.reads (f := (·.mailbox)) fun _ _ => rfl]
  have hGivenUp := Act.same_forM (fun command _ _ h => same_discard h command)
    w.dispatcher.mailbox.items
    (h.updateDispatcher (f := fun d => { d with phase := .finishing, mailbox := d.mailbox.close })
      fun _ n => ⟨n, rfl⟩)
  apply hGivenUp.bind_near
  intro _ _
  have hEntered := hv.aside (f := fun d => { d with inContext := true })
    fun _ => ⟨rfl, rfl, rfl, rfl, rfl, rfl, rfl⟩
  have hCleared := Worker.ends_inContext
    (Conserves.ends_clearing look he hServes.endure hEntered leaving)
    (Q := fun _ => True) fun _ _ _ => trivial
  have hClearing := near_inContext hGivenUp.2 (near_clearing look bearing hEven
    (hGivenUp.2.updateDispatcher fun _ n => ⟨n, rfl⟩) hEntered leaving)
  apply hClearing.bind_returns hCleared.returns
  intro _ _ _ _
  have hFinished := hClearing.2.updateDispatcher (f := fun d => { d with phase := .finished })
    fun _ n => ⟨n, rfl⟩
  simp only [Act.near_modify_bind, Act.near_get_bind]
  rw [hFinished.reads (f := (·.held)) fun _ _ => rfl]
  split
  · exact near_abandon bearing hEven hFinished
  · exact Act.near_pure hFinished _ _

/-- The worker carries a command out that it has taken from the queue. -/
theorem near_carryOut (steadfast : temper.Steadfast) (h : w.Alike temper v) (hw : w.Books 0)
    {command : Command κ.Job} {m : Mailbox (Command κ.Job)}
    (taken : w.dispatcher.mailbox.receive = some (command, m)) :
    Act.Near temper (Worker.carryOut (.recording bearing temper) command)
      (Worker.carryOut (.recording bearing even) command)
      (w.updateDispatcher fun d => { d with mailbox := m })
      (v.updateDispatcher fun d => { d with mailbox := m }) := by
  have hTaken := h.updateDispatcher (f := fun d => { d with mailbox := m }) fun _ n => ⟨n, rfl⟩
  have hInside := hTaken.updateDispatcher (f := fun d => { d with inContext := true })
    fun _ n => ⟨n, rfl⟩
  cases command with
  | notify id event =>
    exact near_inContext hTaken (near_dispatch look bearing hEven steadfast hInside id event)
  | invoke ticket job =>
    exact near_inContext hTaken (same_runJob bearing even hInside ticket job).near
  | shutdown =>
    have hTold := (hw.ledger.tidy.receive taken).2.2.2 rfl
    have hBooks : (w.updateDispatcher fun d => { d with mailbox := m }).Books 0 :=
      hw.updateDispatcher rfl (hw.ledger.receive taken)
    exact near_finish look bearing hEven hTaken hBooks (.inl hTold)

/-- A step of the worker. -/
theorem near_step (steadfast : temper.Steadfast) (h : w.Alike temper v) (hw : w.Books 0) :
    Act.Near temper (Worker.step (.recording bearing temper))
      (Worker.step (.recording bearing even)) w v := by
  simp only [Worker.step, Act.near_get_bind]
  rw [h.reads (f := (·.phase)) fun _ _ => rfl, h.reads (f := (·.teardowns)) fun _ _ => rfl,
    h.reads (f := (·.mailbox)) fun _ _ => rfl, h.reads (f := (·.held)) fun _ _ => rfl,
    h.reads (f := (·.notifierHeld)) fun _ _ => rfl]
  split
  · exact Act.near_pure h _ _
  · split
    · rename_i id rest _
      simp only [Act.near_modify_bind]
      have hTaken := h.updateDispatcher (f := fun d => { d with teardowns := rest })
        fun _ n => ⟨n, rfl⟩
      have hInside := hTaken.updateDispatcher (f := fun d => { d with inContext := true })
        fun _ n => ⟨n, rfl⟩
      have hDown := same_tearDown look bearing hEven hInside id
      exact (near_inContext hTaken hDown.near).bind_pure _ _
    · split
      · rename_i command m taken
        simp only [Act.near_modify_bind]
        exact (near_carryOut look bearing hEven steadfast h hw taken).bind_pure _ _
      · split
        · exact Act.near_pure h _ _
        · exact (near_finish look bearing hEven h hw (.inr (by simp_all))).bind_pure _ _

end

end HostedStreams
