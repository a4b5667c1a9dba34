import HostedStreams.Proofs.Tended

/-! The worker's commands as legs. While it carries out a command the worker books what it does,
writes down what becomes of notifications and jobs, and otherwise does what calls do. -/
namespace HostedStreams

variable {κ : Client} {α : Type} {look : System κ → κ.Note} {env : Surroundings κ}
  {may : StreamRef → System κ → Prop} {own : System κ → System κ → Prop}

/-- What a worker that leaves does in its context: the teardowns that wait are carried out and every
stream that is left is closed. -/
def Worker.clearing (env : Surroundings κ) : Act κ Unit := do
  let teardowns := (← get).dispatcher.teardowns
  modify (·.updateDispatcher fun d => { d with teardowns := [] })
  teardowns.forM (tearDown env)
  (← get).dispatcher.registry.forM fun (id, r) => close env id r

namespace Legs

variable (grow : env.Grow) (free : ∀ r x, may r x)

section

variable (hBook : ∀ {w : System κ} {f : Dispatcher κ → Dispatcher κ},
  w.dispatcher.Keeps (f w.dispatcher) → own w (w.updateDispatcher f))

include grow free hBook

/-- A scheduled teardown strikes the stream off, tears it down and gives up its handle. -/
theorem within_tearDown (id : StreamId) :
    (Worker.tearDown env id).Within (Legs look env may own) := by
  apply smooth.within_bind (within_remove hBook id)
  intro found
  cases found with
  | none => exact smooth.within_pure ()
  | some r =>
    exact smooth.within_bind (within_contained hBook (within_destroy free r)) fun _ =>
      within_release grow free r

/-- Whoever looks an entry up gives up what it held while doing so. -/
theorem within_find? (id : StreamId) :
    (Registry.find? env id).Within (Legs look env may own) := by
  intro w
  simp only [Registry.find?, Act.left_get_bind]
  split
  · exact .refl
  · split
    · exact smooth.within_bind (within_forget grow free hBook id) (fun _ _ => .refl) w
    · exact .refl

/-- Entries of streams that are torn down are struck off, and their handles given up. -/
theorem within_prune : (Registry.prune env).Within (Legs look env may own) := by
  intro w
  simp only [Registry.prune, Act.left_get_bind]
  split
  · simp only [Act.left_modify_bind]
    have hPruned : Legs look env may own w w.pruned :=
      .single (.own (hBook ⟨rfl, rfl⟩))
    refine hPruned.trans (smooth.within_forM (fun entry => ?_) _ _)
    cases entry with
    | mk id r => exact within_release grow free r
  · exact .refl

/-- A stream that is left is closed and torn down. -/
theorem within_dismiss (id : StreamId) (r : StreamRef) :
    (Worker.close env id r).Within (Legs look env may own) := by
  have hDown : (Worker.contained (r.close env) >>= fun _ => Worker.tearDown env id).Within
      (Legs look env may own) := by
    refine smooth.within_bind (within_contained hBook fun _ => ?_) fun _ => ?_
    · exact close grow fun _ _ _ _ _ _ => free _ _
    · exact within_tearDown grow free hBook id
  intro w
  exact holding grow (.trans (quiet (.handles r (· + 1)) rfl) (hDown _)) fun _ => free _ _

/-- The teardowns that wait are taken out and carried out, and every stream that is left is
closed. -/
theorem within_clearing
    (hTaken : ∀ w : System κ, own w (w.updateDispatcher fun d => { d with teardowns := [] })) :
    (Worker.clearing env).Within (Legs look env may own) := by
  intro w
  rw [Worker.clearing, Act.left_get_bind]
  refine smooth.within_bind (fun w => .single (.own (hTaken w))) (fun _ => ?_) w
  refine smooth.within_bind (smooth.within_forM (within_tearDown grow free hBook) _) fun _ v => ?_
  refine smooth.within_forM (fun entry => ?_) _ v
  cases entry with
  | mk id r => exact within_dismiss grow free hBook id r

variable (hEntry : ∀ {w : System κ} {e : Entry κ.Note}, e.dispatching = true → own w (w.record e))

include hEntry

/-- A notification is handed to the stream that is registered for it, or dropped. -/
theorem within_dispatch (id : StreamId) (event : Event) :
    (Worker.dispatch env id event).Within (Legs look env may own) := by
  have hCount (f : Metrics → Metrics) (w : System κ) :
      Legs look env may own w (w.updateMetrics f) :=
    .single (.own (hBook ⟨rfl, rfl⟩))
  intro w
  simp only [Worker.dispatch, Act.left_modify_bind]
  refine .trans (hCount _ w) (smooth.within_bind (within_find? grow free hBook id) ?_ _)
  intro found w
  cases found with
  | none => exact .trans (.single (.own (hEntry (e := .dropped id event) rfl))) (hCount _ _)
  | some r =>
    refine holding grow (.trans (quiet (.handles r (· + 1)) rfl) ?_) fun _ => free _ _
    simp only [Act.left_modify_bind]
    refine .trans (.single (.own (hEntry (e := .dispatched id event) rfl))) ?_
    refine smooth.within_bind (within_contained hBook fun _ => ?_) (fun _ v => ?_) _
    · exact receive event fun _ _ => free _ _
    · simp only [Act.left_modify_bind, Act.left_get_bind]
      refine .trans (hCount (Metrics.countEvent event.kind.name) v) ?_
      split
      · exact within_forget grow free hBook id _
      · exact .refl

/-- A job runs, and what it answers is kept for its ticket. -/
theorem within_runJob (hWork : ∀ job, (env.work job).Within (Legs look env may own))
    (ticket : Ticket) (job : κ.Job) :
    (Worker.runJob env ticket job).Within (Legs look env may own) := by
  have hReply (answer : Reply κ.Value) :
      (Worker.reply ticket answer).Within (Legs look env may own) :=
    within_books hBook fun _ => ⟨rfl, rfl⟩
  refine smooth.within_bind (fun _ => .single (.own (hEntry rfl))) fun _ => ?_
  refine smooth.within_bind (fun w => by rw [Act.left_contain]; exact hWork job w) fun ended => ?_
  cases ended with
  | ok v =>
    refine smooth.within_bind (fun _ => .single (.own (hEntry rfl))) fun _ => ?_
    exact smooth.within_bind (hReply _) fun _ => within_prune grow free hBook
  | error _ =>
    refine smooth.within_bind (fun w => ?_) fun _ => ?_
    · have hEnded : Legs look env may own w (w.record (.jobEnded ticket false)) :=
        .single (.own (hEntry rfl))
      have hCounted : (modify (·.updateMetrics Metrics.countPanic) : Act κ Unit).Within
          (Legs look env may own) := within_books hBook fun _ => ⟨rfl, rfl⟩
      exact hEnded.trans (hCounted _)
    · exact smooth.within_bind (hReply _) fun _ => within_prune grow free hBook

end

/-! Where whatever the dispatcher does to itself is a leg, so is whatever its worker does. -/

section

variable (hEntry : ∀ {w : System κ} {e : Entry κ.Note}, e.dispatching = true → own w (w.record e))
  (hDispatcher : ∀ (w : System κ) (f : Dispatcher κ → Dispatcher κ), own w (w.updateDispatcher f))

include hDispatcher

theorem within_dispatcher (f : Dispatcher κ → Dispatcher κ) :
    (modify (·.updateDispatcher f) : Act κ Unit).Within (Legs look env may own) :=
  fun w => .single (.own (hDispatcher w f))

theorem within_inContext {act : Act κ α} (h : act.Within (Legs look env may own)) :
    (Worker.inContext act).Within (Legs look env may own) := by
  intro w
  rw [Worker.inContext, Act.left_get_bind]
  exact smooth.within_bind (within_dispatcher hDispatcher _)
    (fun _ => smooth.within_after h (within_dispatcher hDispatcher _)) w

include hEntry

theorem within_discard (command : Command κ.Job) :
    (Worker.discard command).Within (Legs look env may own) := by
  intro w
  cases command with
  | notify id event =>
    have hGone : Legs look env may own w (w.record (.dropped id event)) :=
      .single (.own (hEntry rfl))
    exact hGone.tail (.own (hDispatcher _ fun d =>
      { d with metrics := d.metrics.lowerDepth.countDropped }))
  | invoke ticket job => exact within_dispatcher hDispatcher _ w
  | shutdown => exact .refl

include grow free

theorem within_finish : (Worker.finish env).Within (Legs look env may own) := by
  intro w
  rw [Worker.finish, Act.left_get_bind]
  refine smooth.within_bind (within_dispatcher hDispatcher _) (fun _ => ?_) w
  refine smooth.within_bind (smooth.within_forM (within_discard hEntry hDispatcher) _) fun _ => ?_
  refine smooth.within_bind ?_ fun _ => ?_
  · exact within_inContext hDispatcher <|
      within_clearing grow free (fun _ => hDispatcher _ _) fun w => hDispatcher w _
  · refine smooth.within_bind (within_dispatcher hDispatcher _) fun _ v => ?_
    simp only [Act.left_get_bind]
    split
    · rw [Registry.abandon, Act.left_get_bind]
      refine smooth.within_bind (within_dispatcher hDispatcher _) (fun _ u => ?_) v
      exact releaseAll grow _ .refl fun _ _ _ => free _ _
    · exact .refl

theorem within_step (hWork : ∀ job, (env.work job).Within (Legs look env may own)) :
    (Worker.step env).Within (Legs look env may own) := by
  intro w
  simp only [Worker.step, Act.left_get_bind]
  split
  · exact .refl
  · split
    · refine smooth.within_bind (within_dispatcher hDispatcher _) (fun _ => ?_) w
      refine smooth.within_bind (within_inContext hDispatcher ?_) fun _ _ => .refl
      exact within_tearDown grow free (fun _ => hDispatcher _ _) _
    · split
      · rename_i command m _
        refine smooth.within_bind (within_dispatcher hDispatcher _) (fun _ => ?_) w
        refine smooth.within_bind ?_ fun _ _ => .refl
        cases command with
        | notify id event =>
          exact within_inContext hDispatcher <|
            within_dispatch grow free (fun _ => hDispatcher _ _) hEntry id event
        | invoke ticket job =>
          exact within_inContext hDispatcher <|
            within_runJob grow free (fun _ => hDispatcher _ _) hEntry hWork ticket job
        | shutdown => exact within_finish grow free hEntry hDispatcher
      · split
        · exact .refl
        · exact smooth.within_bind (within_finish grow free hEntry hDispatcher)
            (fun _ _ => .refl) w

end
end Legs

/-- All that the start of the dispatcher does is done to the dispatcher. -/
theorem Dispatcher.related_start {R : System κ → System κ → Prop} {w : System κ} (refl : R w w)
    (updated : ∀ d : Dispatcher κ, d.inContext = false → R w (w.updateDispatcher fun _ => d))
    (settings : Settings) (executor : Bool) :
    R w ((Dispatcher.start settings executor).left w) := by
  simp only [Dispatcher.start]
  split
  · exact refl
  · split
    · exact refl
    · split
      · exact refl
      · simp only [Act.left_modify_bind, Act.left_pure]
        exact updated _ rfl

/-- What the dispatcher and its worker do beside what calls do. -/
inductive Deskwork (w : System κ) : System κ → Prop
  | enlist (id : StreamId) (config : StreamConfig) : Deskwork w { w with
      streams := w.streams ++
        [{ id, config, binding := .worker, status := { seekable := config.seekable } }] }
  | entry (e : Entry κ.Note) (h : e.dispatching = true) : Deskwork w (w.record e)
  | dispatcher (f : Dispatcher κ → Dispatcher κ) : Deskwork w (w.updateDispatcher f)

/-- Deskwork loses no streams. -/
theorem Deskwork.grows {w v : System κ} (h : Deskwork w v) :
    w.streams.length ≤ v.streams.length := by
  cases h <;> simp [System.record, System.updateDispatcher]

/-- The relation holds across every leg, if those who are called keep to it. -/
structure Pervades (look : System κ → κ.Note) (manners : Surroundings κ → Prop)
    (R : System κ → System κ → Prop) : Prop extends Alone look R where
  conveys : ∀ {env : Surroundings κ}, manners env → env.Within R →
    Conveys look env (fun _ _ => True) Deskwork R

namespace Pervades

variable {manners : Surroundings κ → Prop} {R : System κ → System κ → Prop}
  (hR : Pervades look manners R)

include hR

theorem call (mannered : manners env) (grow : env.Grow) (he : env.Within R) (c : Call κ α) :
    (c.run env).Within R :=
  fun w => (hR.conveys mannered he).legs <|
    Legs.within_call grow (fun _ _ => trivial) (fun _ => .dispatcher _) .enlist c w

end Pervades

/-- No stream is lost by a number of legs. -/
theorem Smooth.grows : Smooth fun w v : System κ => w.streams.length ≤ v.streams.length :=
  ⟨fun _ => Nat.le_refl _, Nat.le_trans, fun _ _ => Nat.le_refl _⟩

/-- No stream is ever gone. -/
theorem Pervades.grows (look : System κ → κ.Note) (manners : Surroundings κ → Prop) :
    Pervades look manners fun w v : System κ => w.streams.length ≤ v.streams.length where
  refl := Smooth.grows.refl
  trans := Nat.le_trans
  remember _ _ := Nat.le_refl _
  note _ := Nat.le_refl _
  conveys _ grow := Carries.conveys {
    refl := Smooth.grows.refl
    trans := Nat.le_trans
    does := grow
    quiet := fun h _ => h.grows
    ask := fun asked _ does answered _ =>
      Nat.le_trans asked.grows (Nat.le_trans does answered.grows)
    fireHub := fun _ => Smooth.grows.within_fireHub grow.deliver Firing.grows
    apply := fun event _ => Smooth.grows.within_apply grow.deliver Firing.grows event _
    destroy := fun _ => Smooth.grows.within_destroy grow.deliver Firing.grows _
    own := fun h => h.grows }

/-- Whatever a client that serves does, no stream is gone afterwards. -/
theorem Surroundings.Serves.grow {manners : Surroundings κ → Prop} (h : env.Serves look manners) :
    env.Grow :=
  h.within (Pervades.grows look manners).toAlone fun serves grow _ c =>
    (Pervades.grows look manners).call serves.mannered grow grow c

namespace Pervades

variable {manners : Surroundings κ → Prop} {R : System κ → System κ → Prop}
  (hR : Pervades look manners R)

include hR

theorem serves (h : env.Serves look manners) : env.Within R :=
  h.within hR.toAlone fun serves he _ c => hR.call serves.mannered serves.grow he c

theorem step (h : env.Serves look manners) : (Worker.step env).Within R :=
  fun w => (hR.conveys h.mannered (hR.serves h)).legs <|
    Legs.within_step h.grow (fun _ _ => trivial) (.entry _) (fun _ => .dispatcher)
      (fun job _ => .single (.does (.work job))) w

/-- What a client does keeps to the relation. -/
theorem conduct {a : Act κ α} (h : Conduct look (Surroundings.Serves look manners) a) :
    a.Within R :=
  h.within hR.toAlone fun serves _ c => hR.call serves.mannered serves.grow (hR.serves serves) c

/-- The relation holds across every run, if it does where the dispatcher is started. -/
theorem run (hDispatcher : ∀ w f, R w (w.updateDispatcher f)) {w v : System κ}
    (h : Run look manners w v) : R w v := by
  refine h.related hR.toAlone (fun serves _ c => ?_) (fun settings executor _ => ?_)
    fun serves => hR.step serves
  · exact hR.call serves.mannered serves.grow (hR.serves serves) c
  · exact Dispatcher.related_start (hR.refl _) (fun _ _ => hDispatcher _ _) settings executor

end Pervades
end HostedStreams
