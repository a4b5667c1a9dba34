import HostedStreams.Proofs.Ebb
import HostedStreams.Proofs.Tidiness

/-! The worker's context. Whatever is done inside it or outside it, it stays on or off until the
worker is done, and what sinks are handed meanwhile they are handed inside it or outside it. Unless
the worker takes another command, no teardown leaves its queue, and no notification and no job is
begun. -/
namespace HostedStreams

variable {κ : Client} {α : Type} {idle : Prop}

/-- What the worker has begun to do with notifications and jobs. -/
def System.worked (w : System κ) : List (Entry κ.Note) :=
  w.past.filter (·.working)

/-- The worker's context stays as it is, and so does its work if it is idle. -/
structure Bides (idle : Prop) (w v : System κ) : Prop where
  inContext : v.dispatcher.inContext = w.dispatcher.inContext
  hearings : ∀ r, ∃ news, v.hearings r = news ++ w.hearings r ∧
    ∀ x ∈ news, x.2 = w.dispatcher.inContext
  teardowns : idle → w.dispatcher.teardowns <+: v.dispatcher.teardowns
  worked : idle → v.worked = w.worked

/-- What a worker does of its own that keeps to this. -/
inductive Bides.Chore (idle : Prop) (w : System κ) : System κ → Prop
  | books {f : Dispatcher κ → Dispatcher κ} (keeps : w.dispatcher.Keeps (f w.dispatcher)) :
      Chore idle w (w.updateDispatcher f)
  | enlist (id : StreamId) (config : StreamConfig) : Chore idle w { w with
      streams := w.streams ++
        [{ id, config, binding := .worker, status := { seekable := config.seekable } }] }
  | entry (busy : ¬ idle) (e : Entry κ.Note) (h : e.dispatching = true) : Chore idle w (w.record e)
  | taken (busy : ¬ idle) :
      Chore idle w (w.updateDispatcher fun d => { d with teardowns := [] })

/-- What is neither the start of a notification nor that of a job is no work. -/
theorem System.worked_of_past {w v : System κ}
    (h : v.past = w.past ∨ ∃ x, v.past = x :: w.past ∧ x.working = false) :
    v.worked = w.worked := by
  rcases h with hSame | ⟨x, hNew, hIdle⟩
  · rw [worked, hSame, worked]
  · rw [worked, hNew, List.filter_cons_of_neg (by simp [hIdle]), worked]

/-- Who serves the dispatcher leaves its context alone, and may only add teardowns. -/
theorem Dispatcher.Serves.bides {d e : Dispatcher κ} (h : d.Serves e) :
    e.inContext = d.inContext ∧ d.teardowns <+: e.teardowns := by
  cases h with
  | schedule => exact ⟨rfl, List.prefix_append _ _⟩
  | _ => exact ⟨rfl, List.prefix_rfl⟩

/-- Outside passes the context stays as it is, and teardowns are only added. -/
theorem Quiet.bides {look : System κ → κ.Note} {w v : System κ} (h : Quiet look w v) :
    v.dispatcher.inContext = w.dispatcher.inContext ∧
      w.dispatcher.teardowns <+: v.dispatcher.teardowns := by
  cases h with
  | serve d serves => exact serves.bides
  | hub | attach | detach =>
    rw [System.dispatcher_updateSource]
    exact ⟨rfl, List.prefix_rfl⟩
  | _ => exact ⟨rfl, List.prefix_rfl⟩

namespace Bides

variable {u v w : System κ}

theorem trans (first : Bides idle u v) (second : Bides idle v w) : Bides idle u w where
  inContext := second.inContext.trans first.inContext
  hearings r := by
    obtain ⟨news, hNews, hHere⟩ := first.hearings r
    obtain ⟨later, hLater, hThere⟩ := second.hearings r
    refine ⟨later ++ news, by rw [hLater, hNews, List.append_assoc], fun x hx => ?_⟩
    rcases List.mem_append.1 hx with hx | hx
    · rw [hThere x hx, first.inContext]
    · exact hHere x hx
  teardowns h := (first.teardowns h).trans (second.teardowns h)
  worked h := (second.worked h).trans (first.worked h)

/-- Nobody hears anything of a stream. -/
theorem of_unheard (inContext : v.dispatcher.inContext = w.dispatcher.inContext)
    (teardowns : idle → w.dispatcher.teardowns <+: v.dispatcher.teardowns)
    (hearings : ∀ r, v.hearings r = w.hearings r) (worked : idle → v.worked = w.worked) :
    Bides idle w v :=
  ⟨inContext, fun r => ⟨[], hearings r, fun _ hx => by cases hx⟩, teardowns, worked⟩

theorem of_quiet {look : System κ → κ.Note} (h : Quiet look w v) : Bides idle w v :=
  of_unheard h.bides.1 (fun _ => h.bides.2) h.hearings fun _ => System.worked_of_past h.working

/-- What leaves the dispatcher alone, and hands nothing over, bides. -/
theorem of_dispatcher (hDispatcher : v.dispatcher = w.dispatcher)
    (hearings : ∀ r, v.hearings r = w.hearings r) (worked : v.worked = w.worked) :
    Bides idle w v :=
  of_unheard (by rw [hDispatcher]) (fun _ => by rw [hDispatcher]) hearings fun _ => worked

theorem refl (w : System κ) : Bides idle w w :=
  of_dispatcher rfl (fun _ => rfl) rfl

/-- What sinks are handed, they are handed in the context that is on. -/
theorem of_firing {o : Origin} (h : Firing o w v) : Bides idle w v := by
  have hWorked : v.worked = w.worked := System.worked_of_past h.working
  cases h with
  | @hand _ v o event a alive attached kept =>
    subst kept
    refine ⟨rfl, fun r => ⟨_, System.hearings_record _ _ r, fun x hx => ?_⟩,
      fun _ => List.prefix_rfl, fun _ => hWorked⟩
    simp only [Entry.hearing?] at hx
    split at hx
    · rw [List.mem_singleton.1 hx]
      rfl
    · cases hx
  | take | tearDown | start =>
    exact of_dispatcher rfl (fun r => System.hearings_record ..) hWorked
  | prune | clear =>
    exact of_dispatcher (by simp) (fun r => System.hearings_of_past (by simp) r) hWorked

/-- The worker's own chores bide. -/
theorem of_chore (h : Chore idle w v) : Bides idle w v := by
  cases h with
  | books keeps =>
    refine of_unheard keeps.inContext (fun _ => ?_) (fun _ => rfl) fun _ => rfl
    rw [System.updateDispatcher, keeps.teardowns]
  | enlist id config => exact of_dispatcher rfl (fun _ => rfl) rfl
  | entry busy e h =>
    refine of_unheard rfl (fun h => absurd h busy) (fun r => ?_) fun h => absurd h busy
    rw [System.hearings_record]
    cases e <;> first | rfl | cases h
  | taken busy => exact of_unheard rfl (fun h => absurd h busy) (fun _ => rfl) fun _ => rfl

theorem smooth : Smooth (Bides (κ := κ) idle) where
  refl := refl
  trans := trans
  doneWith _ _ := of_dispatcher rfl (fun _ => rfl) rfl

section

variable {look : System κ → κ.Note} {manners : Surroundings κ → Prop} {env : Surroundings κ}

theorem carries (look : System κ → κ.Note) (he : env.Within (Bides idle)) :
    Carries look env (fun _ _ => True) (Chore idle) (Bides (κ := κ) idle) where
  refl := refl
  trans := trans
  does := he
  quiet h _ := of_quiet h
  ask asked _ does answered _ := ((of_quiet asked).trans does).trans (of_quiet answered)
  fireHub _ event := smooth.within_fireHub he.deliver of_firing event
  apply event _ := smooth.within_apply he.deliver of_firing event _
  destroy _ := smooth.within_destroy he.deliver of_firing _
  own := of_chore

variable (look)

theorem alone : Alone look (Bides (κ := κ) idle) where
  refl := refl
  trans := trans
  remember w f := of_quiet (.remember f : Quiet look w _)
  note w := of_quiet (.note : Quiet look w _)

variable {look}

theorem call (serves : env.Serves look manners) (he : env.Within (Bides idle)) (c : Call κ α) :
    (c.run env).Within (Bides idle) :=
  fun w => (carries look he).legs 
    (Legs.within_call serves.grow (fun _ _ => trivial) .books .enlist c w)

theorem serves (h : env.Serves look manners) : env.Within (Bides (κ := κ) idle) :=
  h.within (alone look) fun serves he _ c => call serves he c

theorem conduct {a : Act κ α} (h : Conduct look (Surroundings.Serves look manners) a) :
    a.Within (Bides idle) :=
  h.within (alone look) fun h _ c => call h (serves h) c

/-- A worker that tears a stream down does nothing else. -/
theorem tearDown (h : env.Serves look manners) (id : StreamId) :
    (Worker.tearDown env id).Within (Bides idle) :=
  fun w => (carries look (serves h)).legs
    (Legs.within_tearDown h.grow (fun _ _ => trivial) .books id w)

theorem dispatch (busy : ¬ idle) (h : env.Serves look manners) (id : StreamId) (event : Event) :
    (Worker.dispatch env id event).Within (Bides idle) :=
  fun w => (carries look (serves h)).legs
    (Legs.within_dispatch h.grow (fun _ _ => trivial) .books (.entry busy _) id event w)

theorem runJob (busy : ¬ idle) (h : env.Serves look manners) (ticket : Ticket) (job : κ.Job) :
    (Worker.runJob env ticket job).Within (Bides idle) :=
  fun w => (carries look (serves h)).legs
    (Legs.within_runJob h.grow (fun _ _ => trivial) .books (.entry busy _)
      (fun job _ => .single (.does (.work job))) ticket job w)

theorem clearing (busy : ¬ idle) (h : env.Serves look manners) :
    (Worker.clearing env).Within (Bides idle) :=
  fun w => (carries look (serves h)).legs
    (Legs.within_clearing h.grow (fun _ _ => trivial) .books (fun _ => .taken busy) w)

end
end Bides

/-- The worker's context is off afterwards if it was off before, and whatever sinks were handed
meanwhile they were handed inside it. -/
structure Attended (w v : System κ) : Prop where
  inContext : v.dispatcher.inContext = w.dispatcher.inContext
  hearings : ∀ r, ∃ news, v.hearings r = news ++ w.hearings r ∧ ∀ x ∈ news, x.2 = true

namespace Attended

variable {u v w : System κ}

/-- Where nothing is handed over nobody has to attend. -/
theorem of_unheard (inContext : v.dispatcher.inContext = w.dispatcher.inContext)
    (hearings : ∀ r, v.hearings r = w.hearings r) : Attended w v :=
  ⟨inContext, fun r => ⟨[], hearings r, fun _ hx => by cases hx⟩⟩

theorem trans (first : Attended u v) (second : Attended v w) : Attended u w where
  inContext := second.inContext.trans first.inContext
  hearings r := by
    obtain ⟨news, hNews, hHere⟩ := first.hearings r
    obtain ⟨later, hLater, hThere⟩ := second.hearings r
    refine ⟨later ++ news, by rw [hLater, hNews, List.append_assoc], fun x hx => ?_⟩
    exact (List.mem_append.1 hx).elim (hThere x) (hHere x)

theorem smooth : Smooth (Attended (κ := κ)) where
  refl _ := of_unheard rfl fun _ => rfl
  trans := trans
  doneWith _ _ := of_unheard rfl fun _ => rfl

/-- What keeps the context as it is, is attended to where it is done inside the context. -/
theorem inside {act : Act κ α} (h : act.Within (Bides False)) :
    (Worker.inContext act).Within Attended := by
  intro w
  have hAct := h (w.updateDispatcher fun d => { d with inContext := true })
  rw [Worker.left_inContext]
  exact ⟨rfl, hAct.hearings⟩

theorem discard (command : Command κ.Job) : (Worker.discard command).Within Attended := by
  intro w
  cases command with
  | notify id event =>
    exact of_unheard rfl fun r => System.hearings_record w (.dropped id event) r
  | invoke | shutdown => exact of_unheard rfl fun _ => rfl

variable {look : System κ → κ.Note} {manners : Surroundings κ → Prop} {env : Surroundings κ}
  (serves : env.Serves look manners)

include serves

/-- A worker that leaves gives up no stream outside its context: there is none left. -/
theorem finish (hw : w.Books 0) (hEnd : w.dispatcher.stopped = true ∨ w.dispatcher.held = false) :
    Attended w ((Worker.finish env).left w) := by
  have he := ((Conserves.sustained look manners).serves serves).2
  have hLeaving : (w.updateDispatcher fun d =>
      { d with phase := .finishing, mailbox := d.mailbox.close }).Books
      w.dispatcher.mailbox.notifications :=
    hw.updateDispatcher rfl (hw.ledger.leave hEnd)
  have hLeft : Attended w (w.updateDispatcher fun d =>
      { d with phase := .finishing, mailbox := d.mailbox.close }) := of_unheard rfl fun _ => rfl
  rw [Worker.finish, Act.left_get_bind, Act.left_modify_bind]
  obtain ⟨_, v, hGivenUp, hv, leaving⟩ := Worker.ends_discards _ hLeaving rfl
  have hDiscarded := smooth.within_forM discard w.dispatcher.mailbox.items
    (w.updateDispatcher fun d => { d with phase := .finishing, mailbox := d.mailbox.close })
  rw [Act.left, hGivenUp] at hDiscarded
  rw [Act.left_bind_ok hGivenUp]
  have hEntered := hv.aside (f := fun d => { d with inContext := true })
    fun _ => ⟨rfl, rfl, rfl, rfl, rfl, rfl, rfl⟩
  obtain ⟨_, u, hCleared, hEmpty⟩ := Worker.ends_inContext
    (Conserves.ends_clearing look he serves.endure hEntered leaving)
    (Q := fun u => u.dispatcher.registry = []) fun _ _ left => left.2.2
  have hInside := inside (Bides.clearing (fun h => h) serves) v
  rw [Act.left, hCleared] at hInside
  refine (hLeft.trans hDiscarded).trans (hInside.trans ?_)
  change Attended u (((Worker.inContext (Worker.clearing env)) >>= _).left v)
  rw [Act.left_bind_ok hCleared]
  simp only [Act.left_modify_bind, Act.left_get_bind]
  split
  · rw [Registry.abandon, Act.left_get_bind, Act.left_modify_bind]
    -- The clearing has left no entry, so no handle is given up here, outside the context.
    refine .trans (v := u.updateDispatcher fun d => { d with phase := .finished, registry := [] })
      (of_unheard rfl fun _ => rfl) ?_
    simp only [System.updateDispatcher, hEmpty]
    exact of_unheard rfl fun _ => rfl
  · exact of_unheard rfl fun _ => rfl

/-- A step of the worker. -/
theorem step (hw : w.AtRest) : Attended w ((Worker.step env).left w) := by
  by_cases running : w.dispatcher.phase = .running
  · cases hTeardowns : w.dispatcher.teardowns with
    | cons id rest =>
      rw [Worker.left_step_of_teardown running hTeardowns]
      have hOut : Attended w (w.updateDispatcher fun d => { d with teardowns := rest }) :=
        of_unheard rfl fun _ => rfl
      exact hOut.trans (inside (Bides.tearDown serves id) _)
    | nil =>
      cases hTaken : w.dispatcher.mailbox.receive with
      | some taken =>
        obtain ⟨command, m⟩ := taken
        rw [Worker.left_step_of_command running hTeardowns hTaken]
        have hOut : Attended w (w.updateDispatcher fun d => { d with mailbox := m }) :=
          of_unheard rfl fun _ => rfl
        refine hOut.trans ?_
        cases command with
        | notify id event => exact inside (Bides.dispatch (fun h => h) serves id event) _
        | invoke ticket job => exact inside (Bides.runJob (fun h => h) serves ticket job) _
        | shutdown =>
          have hTold := (hw.books.ledger.tidy.receive hTaken).2.2.2 rfl
          exact finish serves (hw.books.updateDispatcher rfl (hw.books.ledger.receive hTaken))
            (.inl hTold)
      | none =>
        simp only [Worker.step, Act.left_get_bind]
        rw [if_neg (by simp [running])]
        simp only [hTeardowns, hTaken]
        split
        · exact smooth.refl w
        · rename_i hGone
          rw [Act.left_bind_pure]
          exact finish serves hw.books (.inr (by simp_all))
  · simp only [Worker.step, Act.left_get_bind]
    rw [if_pos running]
    exact smooth.refl w

end Attended
end HostedStreams
