import HostedStreams.Proofs.Histories
import HostedStreams.Proofs.Shutdown

/-! What is registered when the worker is done with a command. After a job it looks through all
streams that are registered and strikes off those that are torn down, but after a notification and
after a teardown it looks at the one stream that these are about. What a sink of that stream tears
down besides stays registered, and counted, until a notification comes for it or a job is run. -/
namespace HostedStreams

variable {κ : Client} {α β : Type}

/-- No stream that was there before is registered anew. -/
structure Brings (w v : System κ) : Prop where
  grows : w.streams.length ≤ v.streams.length
  old : ∀ {id r}, (id, r) ∈ v.dispatcher.registry → w.Has r → (id, r) ∈ w.dispatcher.registry

/-- Outside passes nothing is registered. -/
theorem Quiet.registry {look : System κ → κ.Note} {w v : System κ} (h : Quiet look w v) :
    v.dispatcher.registry ⊆ w.dispatcher.registry := by
  cases h with
  | serve d serves =>
    cases serves with
    | abandon => exact List.nil_subset _
    | _ => exact List.Subset.refl _
  | attach | detach =>
    rw [System.dispatcher_updateSource]
    exact List.Subset.refl _
  | _ => exact List.Subset.refl _

namespace Brings

variable {u v w : System κ}

theorem trans (first : Brings u v) (second : Brings v w) : Brings u w where
  grows := Nat.le_trans first.grows second.grows
  old hMem hr := first.old (second.old hMem (Nat.lt_of_lt_of_le hr first.grows)) hr

/-- Where no stream is lost and nothing is registered anew nothing is brought. -/
theorem of_subset (grows : w.streams.length ≤ v.streams.length)
    (h : v.dispatcher.registry ⊆ w.dispatcher.registry) : Brings w v :=
  ⟨grows, fun hMem _ => h hMem⟩

theorem of_firing {o : Origin} (h : Firing o w v) : Brings w v :=
  of_subset h.grows (by rw [h.dispatcher]; exact List.Subset.refl _)

theorem struck (w : System κ) (id : StreamId) : Brings w (w.struck id) :=
  of_subset (Nat.le_refl _) List.filter_sublist.subset

theorem upheld (look : System κ → κ.Note) (manners : Surroundings κ → Prop) :
    Upheld look manners (Brings (κ := κ)) := by
  have hSteady : Steady look (Brings (κ := κ)) := {
    refl := fun _ => of_subset (Nat.le_refl _) (List.Subset.refl _)
    trans := trans
    grows := grows
    quiet := fun h => of_subset h.grows h.registry }
  exact { hSteady with
    fireHub := fun _ he _ event => hSteady.within_fireHub he of_firing event
    apply := fun _ he _ event => hSteady.within_apply he of_firing event
    destroy := fun _ he _ => hSteady.within_destroy he of_firing }

variable (look : System κ → κ.Note) {env : Surroundings κ} (he : env.Within Brings)

include look he

theorem release (r : StreamRef) : (r.release env).Within Brings :=
  (upheld look Surroundings.any).release trivial he r

theorem launch (id : StreamId) (r : StreamRef) : (r.launch env id).Within Brings := by
  have hUp := upheld look Surroundings.any
  have hTry : Act.Within Brings
      (tryCatch (r.start env) fun h => do r.release env; throw h) := by
    apply hUp.within_tryCatch (hUp.start trivial he r)
    intro _
    exact hUp.within_bind (release look he r) fun _ w => hUp.refl w
  apply hUp.within_bind hTry
  intro started
  cases started with
  | ok _ => exact hUp.within_pure _
  | error e =>
    apply hUp.within_bind fun w => hUp.related_forget trivial he (hUp.refl w) (struck w id)
    intro _
    exact hUp.within_bind (release look he r) fun _ => hUp.within_pure _

/-- A stream is made for the worker and registered, and nobody else is. -/
theorem createStream (config : StreamConfig) (w : System κ) :
    Brings w ((Dispatcher.createStream env config).left w) := by
  have hUp := upheld look Surroundings.any
  cases running : w.dispatcher.stopped with
  | true =>
    rw [Dispatcher.createStream, Act.left_get_bind, running]
    exact hUp.refl w
  | false =>
    rw [Act.left, System.on_createStream running]
    refine trans ⟨?_, fun hMem hr => ?_⟩ (launch look he _ _ _)
    · simp [System.enlisted, System.updateDispatcher, System.updateStream]
    · rcases List.mem_append.1 hMem with hOld | hNew
      · exact hOld
      · obtain ⟨-, rfl⟩ := Prod.mk.inj (List.mem_singleton.1 hNew)
        exact absurd hr (Nat.lt_irrefl _)

omit he

theorem sustained (manners : Surroundings κ → Prop) :
    Sustained look manners (Brings (κ := κ)) where
  toUpheld := upheld look manners
  createStream _ he w _ config := createStream look he config w

end Brings

/-- The worker has forgotten a stream that it was told to tear down. -/
theorem Worker.out_of_tearDown (look : System κ → κ.Note) {env : Surroundings κ}
    (he : env.Within Conserves) (hb : env.Within Brings) {w : System κ} (hw : w.Books 0)
    (id : StreamId) (q : StreamRef) :
    (id, q) ∉ ((Worker.tearDown env id).left w).dispatcher.registry := by
  have hUp := Brings.upheld look Surroundings.any
  cases known : w.dispatcher.registered? id with
  | none =>
    rw [Worker.tearDown, Act.left_bind_ok (System.on_remove_of_none known)]
    exact Dispatcher.not_mem_of_registered? known
  | some r =>
    intro hMem
    obtain ⟨hServed, hId⟩ := hw.roster.listed (Dispatcher.mem_of_registered? known)
    -- It is the stream itself that would be registered, and nobody registers that again.
    obtain rfl := (Conserves.tearDown look he id w).eq_of_known hw hServed hId hMem
    rw [Worker.tearDown, Act.left_bind_ok (System.on_remove_of_some known)] at hMem
    have hContained : (Worker.contained (q.destroy env)).Within Brings := by
      refine hUp.within_bind (fun v => ?_) fun ended => ?_
      · rw [Act.left_contain]
        exact hUp.destroy trivial hb q v
      · cases ended with
        | ok _ => exact hUp.within_pure ()
        | error _ => exact fun v => .of_subset (Nat.le_refl _) (List.Subset.refl _)
    have hRest := hUp.within_bind hContained fun _ => Brings.release look hb q
    exact w.not_mem_struck id q ((hRest (w.struck id)).old hMem hServed.1)

namespace System

/-- No stream that is registered is torn down. -/
def Tidy (w : System κ) : Prop :=
  ∀ entry ∈ w.dispatcher.registry, (w.status entry.2).state ≠ .destroyed

/-- Nothing comes of it that the handles of torn streams are given up. -/
theorem tidy_releases {env : Surroundings κ} (l : List (StreamId × StreamRef)) {w : System κ}
    (torn : ∀ entry ∈ l, (w.status entry.2).state = .destroyed) (h : w.Tidy) :
    ((l.forM fun (_, r) => r.release env).left w).Tidy := by
  induction l generalizing w with
  | nil => exact h
  | cons entry rest ih =>
    have hFirst := torn entry List.mem_cons_self
    have hLeft : ((entry :: rest).forM fun (_, r) => r.release env).left w =
        (rest.forM fun (_, r) => r.release env).left ((entry.2.release env).left w) :=
      (returns_release_of_torn hFirst).left_bind fun _ _ => rfl
    rw [hLeft, left_release_of_torn hFirst]
    apply ih
    · intro other hOther
      rw [w.status_handles entry.2 other.2 (· - 1)]
      exact torn other (List.mem_cons_of_mem _ hOther)
    · intro other hOther
      rw [w.status_handles entry.2 other.2 (· - 1)]
      exact h other hOther

/-- The worker strikes off every stream that is torn down. -/
theorem tidy_prune (env : Surroundings κ) (w : System κ) : ((Registry.prune env).left w).Tidy := by
  simp only [Registry.prune, Act.left_get_bind]
  split
  · apply tidy_releases (w := w.pruned)
    · exact fun entry hEntry => of_decide_eq_true (List.mem_filter.1 hEntry).2
    · exact fun entry hEntry => of_decide_eq_true (List.mem_filter.1 hEntry).2
  · rename_i hNone
    intro entry hEntry torn
    have hEmpty : w.dispatcher.registry.filter (fun (_, r) => (w.status r).state = .destroyed) =
        [] := by simpa using hNone
    exact List.filter_eq_nil_iff.1 hEmpty entry hEntry (decide_eq_true torn)

end System

namespace Worker

variable {look : System κ → κ.Note} {manners : Surroundings κ → Prop} {env : Surroundings κ}
  {w : System κ}

/-- No stream that is torn down is left registered after a job. -/
theorem tidy_runJob (hEndure : env.Endure) (ticket : Ticket) (job : κ.Job) :
    ((runJob env ticket job).left w).Tidy := by
  simp only [runJob, Act.left_modify_bind]
  obtain ⟨ended, hEnd⟩ := (hEndure.work job).returns_contain (w.record (.jobBegan ticket))
  rw [Act.left_bind_ok (Act.on_of_end hEnd)]
  cases ended <;> exact System.tidy_prune env _

/-- A stream that is torn down is forgotten, and nothing else happens to streams. -/
theorem out_of_forget (env : Surroundings κ) (id : StreamId)
    (torn : ∀ q, w.dispatcher.registered? id = some q → (w.status q).state = .destroyed) :
    (∀ r, (id, r) ∉ ((Registry.forget env id).left w).dispatcher.registry) ∧
      ∀ r, ((Registry.forget env id).left w).status r = w.status r := by
  cases known : w.dispatcher.registered? id with
  | none =>
    rw [Registry.forget, Act.left_bind_ok (System.on_remove_of_none known)]
    exact ⟨fun r => Dispatcher.not_mem_of_registered? known, fun r => rfl⟩
  | some q =>
    rw [Registry.forget, Act.left_bind_ok (System.on_remove_of_some known)]
    change (∀ r, (id, r) ∉ ((q.release env).left (w.struck id)).dispatcher.registry) ∧
      ∀ r, ((q.release env).left (w.struck id)).status r = w.status r
    rw [System.left_release_of_torn (w := w.struck id) (torn q known)]
    exact ⟨w.not_mem_struck id, fun r => (w.struck id).status_handles q r (· - 1)⟩

/-- A stream that is torn down as a handle is given up had no handle left. -/
theorem spent_of_release (he : env.Within (Steps look)) {q : StreamRef}
    (live : (w.status q).state ≠ .destroyed)
    (torn : (((q.release env).left w).status q).state = .destroyed) :
    ∃ u, Steps look w u ∧ Steps look u ((q.release env).left w) ∧ (u.stream q).handles = 0 := by
  have hLess : Steps look w (w.updateStream q fun s => { s with handles := s.handles - 1 }) :=
    .single (.quiet (.handles q (· - 1)))
  simp only [StreamRef.release, Act.left_modify_bind, Act.left_get_bind] at torn ⊢
  split at torn
  · rename_i hSpent
    rw [if_pos hSpent]
    exact ⟨_, hLess, (Steps.unconcerned look Surroundings.any).drop trivial he q _, hSpent⟩
  · refine absurd ?_ live
    rw [← w.status_handles q q (· - 1)]
    exact torn

/-- After a notification, its stream is registered only if it is not torn down, or has lost its last
handle, that of the registry, when the notification was done with. -/
theorem untorn_dispatch (serves : env.Serves look manners) {id : StreamId} {event : Event}
    (hw : (w.updateMetrics Metrics.lowerDepth).Books 0) {r : StreamRef}
    (hMem : (id, r) ∈ ((dispatch env id event).left w).dispatcher.registry)
    (torn : (((dispatch env id event).left w).status r).state = .destroyed) :
    ∃ u, Steps look w u ∧ Steps look u ((dispatch env id event).left w) ∧
      (u.stream r).handles = 0 := by
  have hSteps := Steps.unconcerned look manners
  obtain ⟨hm, hes⟩ := hSteps.sustained.serves serves
  have hTended := Conserves.tended look manners
  have he := ((Conserves.sustained look manners).serves serves).2
  simp only [Worker.dispatch, Act.left_modify_bind] at hMem torn ⊢
  have hLowered : Steps look w (w.updateMetrics Metrics.lowerDepth) := .single (.dispatcher _)
  generalize w.updateMetrics Metrics.lowerDepth = x at *
  obtain ⟨found, v, hEnd, hFound⟩ := System.ends_find? env x id
  rw [Act.left_bind_ok hEnd] at hMem torn ⊢
  cases found with
  | none => exact absurd hMem (Dispatcher.not_mem_of_registered? hFound)
  | some q =>
    obtain ⟨known, live, rfl⟩ := hFound
    obtain ⟨hServed, hId⟩ := hw.roster.listed (Dispatcher.mem_of_registered? known)
    simp only [StreamRef.holding, StreamRef.acquire, Act.left_modify_bind, Act.left_after]
      at hMem torn ⊢
    generalize hy : (v.updateStream q fun s => { s with handles := s.handles + 1 }).record
      (.dispatched id event) = y at hMem torn ⊢
    have hTaken : Conserves v ((contained (q.receive env event)).left y) := by
      apply hTended.related_contained
      subst hy
      apply hTended.trans (hTended.quiet (.handles q (· + 1)))
      exact hTended.trans (hTended.dispatching rfl) (hTended.receive hm he q event _)
    have hTaken' : Steps look v ((contained (q.receive env event)).left y) := by
      apply hSteps.tended.related_contained
      subst hy
      apply hSteps.trans (hSteps.quiet (.handles q (· + 1)))
      exact hSteps.trans (hSteps.dispatching _ (.dispatched id event) rfl)
        (hSteps.receive hm hes q event _)
    obtain ⟨_, hReturns⟩ := (serves.endure.receive q event).returns_contained y
    generalize hz : (contained (q.receive env event)).left y = z at hTaken hTaken'
    rw [Act.left_bind_ok (v := z) (Prod.ext hReturns hz)] at hMem torn ⊢
    simp only [Act.left_modify_bind, Act.left_get_bind] at hMem torn ⊢
    have hCounted : Conserves v (z.updateMetrics (Metrics.countEvent event.kind.name)) :=
      hTended.trans hTaken <|
        hTended.within_count (f := Metrics.countEvent event.kind.name) (fun _ => rfl)
          (fun _ => rfl) z
    have hCounted' : Steps look v (z.updateMetrics (Metrics.countEvent event.kind.name)) :=
      hTaken'.tail (.dispatcher _)
    generalize z.updateMetrics (Metrics.countEvent event.kind.name) = c at *
    split at hMem
    · rename_i ended
      -- The stream is forgotten, and giving up a handle of it does nothing more.
      obtain ⟨hOut, hStatus⟩ := out_of_forget env id fun p hp => by
        rw [hCounted.eq_of_known hw hServed hId (Dispatcher.mem_of_registered? hp)]
        exact ended
      rw [System.left_release_of_torn ((congrArg Status.state (hStatus q)).trans ended)] at hMem
      exact absurd hMem (hOut r)
    · rename_i going
      rw [if_neg going] at torn ⊢
      have hRelease := hTended.release hm he q
      obtain rfl := (hCounted.trans (hRelease _)).eq_of_known hw hServed hId hMem
      obtain ⟨u, hBefore, hAfter, hSpent⟩ := spent_of_release hes going torn
      exact ⟨u, (hLowered.trans hCounted').trans hBefore, hAfter, hSpent⟩

/-- A step that carries a queued teardown out. -/
theorem left_step_of_teardown (running : w.dispatcher.phase = .running) {id : StreamId}
    {rest : List StreamId} (h : w.dispatcher.teardowns = id :: rest) :
    (step env).left w = (inContext (tearDown env id)).left
      (w.updateDispatcher fun d => { d with teardowns := rest }) := by
  simp only [step, Act.left_get_bind]
  rw [if_neg (by simp [running])]
  simp only [h, Act.left_modify_bind]
  exact Act.left_bind_pure _ _ _

/-- A step that carries a command out. -/
theorem left_step_of_command (running : w.dispatcher.phase = .running)
    (hNone : w.dispatcher.teardowns = []) {command : Command κ.Job}
    {m : Mailbox (Command κ.Job)} (h : w.dispatcher.mailbox.receive = some (command, m)) :
    (step env).left w = (carryOut env command).left
      (w.updateDispatcher fun d => { d with mailbox := m }) := by
  simp only [step, Act.left_get_bind]
  rw [if_neg (by simp [running])]
  simp only [hNone, h, Act.left_modify_bind]
  exact Act.left_bind_pure _ _ _

/-- The worker's context is left again, and that is all that happens beside the action. -/
theorem left_inContext {act : Act κ α} : (inContext act).left w =
    (act.left (w.updateDispatcher fun d => { d with inContext := true })).updateDispatcher fun d =>
      { d with inContext := w.dispatcher.inContext } := by
  simp only [inContext, Act.left_get_bind, Act.left_modify_bind, Act.left_after, Act.left_modify]

end Worker

/-- What is promised of the registry once the worker is done with a command. -/
structure System.Tidied (look : System κ → κ.Note) (w v : System κ) : Prop where
  /-- The gauge counts those that are registered. -/
  gauge : v.dispatcher.metrics.activeStreams = v.dispatcher.registry.length
  /-- No stream of the worker's is missing, unless it is torn down. -/
  live : ∀ r, v.Served r → (v.status r).state ≠ .destroyed →
    ((v.stream r).id, r) ∈ v.dispatcher.registry
  /-- A stream whose teardown was queued is not registered after it. -/
  teardown : ∀ id rest, w.dispatcher.teardowns = id :: rest → ∀ r, (id, r) ∉ v.dispatcher.registry
  /-- No stream that is torn down is registered after a job. -/
  job : ∀ ticket job m, w.dispatcher.teardowns = [] →
    w.dispatcher.mailbox.receive = some (.invoke ticket job, m) → v.Tidy
  /-- A stream that is torn down is not registered after a notification for it, unless it has lost
  its last handle, that of the registry, when it was done with the notification. -/
  notification : ∀ id event m, w.dispatcher.teardowns = [] →
    w.dispatcher.mailbox.receive = some (.notify id event, m) →
    ∀ r, (id, r) ∈ v.dispatcher.registry → (v.status r).state = .destroyed →
      ∃ u, Steps look w u ∧ Steps look u v ∧ (u.stream r).handles = 0

/-- Whatever clients do, after each command the worker has forgotten the stream that the command was
about, if it is torn down, and all that are torn down if the command was a job. -/
theorem step_tidies {look : System κ → κ.Note} {manners : Surroundings κ → Prop} {w : System κ}
    {env : Surroundings κ} (reached : Reached look manners w) (serves : env.Serves look manners)
    (running : w.dispatcher.phase = .running) : w.Tidied look ((Worker.step env).left w) := by
  have hw := (System.AtRest.of_reached look reached).books
  have hv := (System.AtRest.of_reached look (reached.turn serves)).books
  have he := ((Conserves.sustained look manners).serves serves).2
  have hb := ((Brings.sustained look manners).serves serves).2
  refine ⟨hv.ledger.gauge, fun r hr live => hv.roster.enrolled hr live, ?_, ?_, ?_⟩
  · intro id rest hTeardowns r
    rw [Worker.left_step_of_teardown running hTeardowns, Worker.left_inContext]
    apply Worker.out_of_tearDown look he hb
    exact (hw.aside (f := fun d => { d with teardowns := rest })
      fun _ => ⟨rfl, rfl, rfl, rfl, rfl, rfl, rfl⟩).aside
        fun _ => ⟨rfl, rfl, rfl, rfl, rfl, rfl, rfl⟩
  · intro ticket job m hNone hTaken
    rw [Worker.left_step_of_command running hNone hTaken, Worker.carryOut, Worker.left_inContext]
    exact Worker.tidy_runJob serves.endure ticket job
  · intro id event m hNone hTaken r hMem torn
    rw [Worker.left_step_of_command running hNone hTaken, Worker.carryOut, Worker.left_inContext]
      at hMem torn ⊢
    obtain ⟨u, hBefore, hAfter, hSpent⟩ := Worker.untorn_dispatch serves (hw.take hTaken) hMem torn
    exact ⟨u, hBefore.head (.dispatcher _), hAfter.tail (.dispatcher _), hSpent⟩

/-- Surroundings in which every sink that hears that its stream was created closes another one. -/
def Surroundings.meddling : Surroundings Client.plain :=
  { obliging with
    deliver := fun _ _ event =>
      match event with
      | .created => do
        let _ ← (⟨1⟩ : StreamRef).close obliging
        return true
      | _ => return true }

/-- They make their calls in obliging surroundings. -/
theorem Surroundings.serves_meddling : meddling.Serves (fun _ => ()) Surroundings.any := by
  refine .intro (· = obliging) (fun _ h => h ▸ serves_obliging trivial)
    ⟨fun sink o event => ?_, fun _ _ => .pure _, fun _ _ _ => .pure _, fun _ _ => .pure _,
      fun _ => .pure _, .pure _, fun _ => .pure _, fun _ => .pure _⟩ trivial
  simp only [meddling]
  split
  · have hClose : Conduct (fun _ => ()) (· = obliging) ((⟨1⟩ : StreamRef).close obliging) :=
      .call (by rfl) (.close ⟨1⟩)
    exact .bind hClose fun _ => .pure true
  · exact .pure true

/-- A dispatcher that serves two streams. One of them has a sink, and the notification that it was
created waits. -/
def abreast : System Client.plain :=
  (Call.each Surroundings.meddling [⟨_, .createStream { url := "" }⟩,
    ⟨_, .createStream { url := "" }⟩, ⟨_, .makeSink⟩, ⟨_, .attach ⟨0⟩ ⟨0⟩⟩,
    ⟨_, .notify (.drawn 0) .created⟩]).left ((Dispatcher.start {} true).left { client := () })

theorem reached_abreast : Reached (fun _ => ()) Surroundings.any abreast :=
  .act ⟨(), .start .refl rfl {} true⟩ (.each Surroundings.serves_meddling _)

/-- The stream that the notification was for is still registered, and still there. -/
theorem step_tidies_abreast :
    abreast.Tidied (fun _ => ()) ((Worker.step Surroundings.meddling).left abreast) ∧
    ((Worker.step Surroundings.meddling).left abreast).dispatcher.registry =
      [(.drawn 0, ⟨0⟩), (.drawn 1, ⟨1⟩)] :=
  ⟨step_tidies reached_abreast Surroundings.serves_meddling (by decide +kernel), by decide +kernel⟩

/-- A stream that another stream's sink has closed on the worker is still registered and counted
when the worker is done with the notification. -/
theorem not_tidy_abreast :
    ¬ ∀ (env : Surroundings Client.plain) (w : System Client.plain),
      Reached (fun _ => ()) Surroundings.any w → env.Serves (fun _ => ()) Surroundings.any →
      w.dispatcher.phase = .running → ((Worker.step env).left w).Tidy := by
  intro h
  have hTidy := h Surroundings.meddling abreast reached_abreast Surroundings.serves_meddling
    (by decide +kernel)
  exact hTidy (.drawn 1, ⟨1⟩) (by decide +kernel) (by decide +kernel)

end HostedStreams
