import HostedStreams.Proofs.Books
import HostedStreams.Proofs.Chores
import HostedStreams.Proofs.Lives

/-! What the worker serves was asked for. The dispatcher starts a stream as soon as it has made it,
so nobody ever has control while a stream of the worker's waits to be started. -/
namespace HostedStreams

variable {κ : Client} {α : Type} {look : System κ → κ.Note} {manners : Surroundings κ → Prop}
  {env : Surroundings κ}

/-- To take an event is not to ask the host. -/
theorem Status.Takes.requested {s t : Status} {event : Event} (h : s.Takes event t) :
    t.requested = s.requested := by
  cases h <;> rfl

/-- A stream that was asked for stays so. -/
theorem Life.Move.requested {l m : Life} (h : l.Move m) (asked : l.status.requested = true) :
    m.status.requested = true := by
  cases h with
  | take takes => exact takes.requested.trans asked
  | start => rfl
  | _ => exact asked

/-- Every stream that the worker serves was asked for. -/
def System.Launched (w : System κ) : Prop :=
  ∀ r, w.Served r → (w.status r).requested = true

/-- What was asked for stays so, and what is made for the worker meanwhile is asked for. -/
structure Launches (w v : System κ) : Prop where
  grows : w.streams.length ≤ v.streams.length
  binding : ∀ {r}, w.Has r → (v.stream r).binding = (w.stream r).binding
  requested : ∀ {r}, w.Has r → (w.status r).requested = true → (v.status r).requested = true
  born : ∀ {r}, ¬ w.Has r → v.Served r → (v.status r).requested = true

/-- What was asked for at first still is. -/
theorem System.Launched.launches {w v : System κ} (h : w.Launched) (hv : Launches w v) :
    v.Launched := by
  intro r served
  by_cases made : w.Has r
  · exact hv.requested made (h r ⟨made, (hv.binding made).symm.trans served.2⟩)
  · exact hv.born made served

/-- What the host is asked for when the stream is started. -/
def Stream.asks (s : Stream) : StreamConfig :=
  { s.config with seekable := s.status.seekable }

/-- The system in which the host is asked to start the stream. -/
def System.launching (w : System κ) (r : StreamRef) : System κ :=
  (w.updateStatus r fun f => { f with requested := true }).record
    (@Entry.hostCall _ (w.stream r).id (.start (w.stream r).asks) r)

theorem System.has_launching (w : System κ) (r q : StreamRef) :
    (w.launching r).Has q ↔ w.Has q :=
  w.has_updateStatus r q fun f => { f with requested := true }

/-- The stream whose start is asked for is marked. -/
theorem System.status_launching {w : System κ} {r : StreamRef} (made : w.Has r) :
    (w.launching r).status r = { w.status r with requested := true } := by
  rw [launching, status_record, status_updateStatus, if_pos ⟨rfl, made⟩]

theorem System.handles_launching (w : System κ) (r q : StreamRef) :
    ((w.launching r).stream q).handles = (w.stream q).handles := by
  have hStream := w.stream_updateStream r q fun s =>
    { s with status := { s.status with requested := true } }
  refine (congrArg Stream.handles hStream).trans ?_
  split <;> rfl

namespace StreamRef

/-- What is done about the host's answer. A stream that it refuses is torn down. -/
def settle (env : Surroundings κ) (r : StreamRef) (s : Stream) (answer : Except HostError Unit) :
    Act κ (Except StreamError Unit) := do
  modify (·.record (@Entry.hostAnswer _ s.id (.start s.asks) answer.isOk r))
  match answer with
  | .ok () => return .ok ()
  | .error e =>
    r.destroy env
    return .error (.host "open" e)

/-- A stream that was not asked for is started by asking the host. -/
theorem on_start_of_new {r : StreamRef} {w : System κ} (new : (w.status r).requested = false)
    (state : (w.status r).state = .created) (env : Surroundings κ) :
    (r.start env).on w = (env.host.start (w.stream r).id (w.stream r).asks >>=
      r.settle env (w.stream r)).on (w.launching r) := by
  have hNew : ¬ ((w.stream r).status.requested || (w.stream r).status.state ≠ .created) = true := by
    simpa [System.status] using And.intro new state
  simp only [StreamRef.start, Act.on_get_bind, if_neg hNew, Act.on_modify_bind, askHost,
    bind_assoc, pure_bind]
  rfl

end StreamRef

namespace Launches

variable {u v w : System κ}

theorem trans (first : Launches u v) (second : Launches v w) : Launches u w where
  grows := Nat.le_trans first.grows second.grows
  binding made := (second.binding (Nat.lt_of_lt_of_le made first.grows)).trans (first.binding made)
  requested made asked :=
    second.requested (Nat.lt_of_lt_of_le made first.grows) (first.requested made asked)
  born {r} new served := by
    by_cases made : v.Has r
    · exact second.requested made (first.born new ⟨made, (second.binding made).symm.trans served.2⟩)
    · exact second.born made served

/-- Streams that move stay asked for. -/
theorem of_moves (p : w.Persists v) (moves : w.Moves v) : Launches w v where
  grows := Nat.le_of_not_lt fun hLess => Nat.lt_irrefl _ ((p.has ⟨_⟩).2 hLess)
  binding _ := p.binding _
  requested {r} _ asked := by
    obtain ⟨-, hSame | ⟨-, hMove⟩⟩ := moves r
    · exact (congrArg (·.status.requested) hSame).trans asked
    · exact hMove.requested asked
  born new served := absurd ((p.has _).1 served.1) new

/-- What leaves the streams alone launches nothing and takes nothing back. -/
theorem of_streams (h : v.streams = w.streams) : Launches w v := by
  have hStream (r : StreamRef) : v.stream r = w.stream r := by rw [System.stream, h, System.stream]
  refine ⟨Nat.le_of_eq (by rw [h]), fun _ => by rw [hStream], fun _ asked => ?_,
    fun new served => ?_⟩
  · rw [System.status, hStream]
    exact asked
  · rw [System.Served, System.Has, h] at served
    exact absurd served.1 new

theorem of_quiet (h : Quiet look w v) : Launches w v := by
  rcases h.persists with p | ⟨made, own, rfl⟩
  · rcases h.moves with hMoves | ⟨made, -, rfl⟩
    · exact of_moves p hMoves
    · -- Somebody is made, and nobody is.
      have hNew := (p.has ⟨w.streams.length⟩).1 ((w.has_append made _).2 (.inr rfl))
      exact absurd hNew (Nat.lt_irrefl _)
  · have hGrown := System.Grown.append w made
    refine ⟨by simp, fun made => by rw [hGrown.old made], fun made asked => ?_,
      fun new served => ?_⟩
    · rw [System.status, hGrown.old made]
      exact asked
    · rcases hGrown.served.1 served with hOld | ⟨-, hWorker⟩
      · exact absurd hOld.1 new
      · exact absurd hWorker own

theorem of_firing {o : Origin} (h : Firing o w v) : Launches w v :=
  of_moves h.persists h.moves

theorem smooth : Smooth (Launches (κ := κ)) where
  refl _ := of_streams rfl
  trans := trans
  doneWith _ _ := of_streams rfl

/-- What is done besides, where the making of a stream and its start are one. -/
inductive Chore (env : Surroundings κ) (w : System κ) : System κ → Prop
  | entry (e : Entry κ.Note) (h : e.dispatching = true) : Chore env w (w.record e)
  | dispatcher (f : Dispatcher κ → Dispatcher κ) : Chore env w (w.updateDispatcher f)
  | created (config : StreamConfig) : Chore env w ((Dispatcher.createStream env config).left w)

variable (he : env.Within Launches)

include he

/-- What is done besides is seen to elsewhere. -/
theorem carries (look : System κ → κ.Note) (own : System κ → System κ → Prop)
    (hOwn : ∀ {w v : System κ}, own w v → Launches w v) :
    Carries look env (fun _ _ => True) own (Launches (κ := κ)) where
  refl := smooth.refl
  trans := trans
  does := he
  quiet h _ := of_quiet h
  ask asked _ does answered _ := ((of_quiet asked).trans does).trans (of_quiet answered)
  fireHub _ event := smooth.within_fireHub he.deliver of_firing event
  apply event _ := smooth.within_apply he.deliver of_firing event _
  destroy _ := smooth.within_destroy he.deliver of_firing _
  own := hOwn

/-- A stream that is started is asked for before the host is called. -/
theorem start {r : StreamRef} (new : (w.status r).requested = false)
    (state : (w.status r).state = .created) :
    Launches (w.launching r) ((r.start env).left w) := by
  rw [Act.left, StreamRef.on_start_of_new new state]
  refine smooth.within_bind (he.start _ _) (fun answer => ?_) _
  refine smooth.within_bind (fun _ => of_streams rfl) fun _ => ?_
  cases answer with
  | ok _ => exact smooth.within_pure _
  | error e =>
    exact smooth.within_bind (smooth.within_destroy he.deliver of_firing) fun _ =>
      smooth.within_pure _

variable (look) (grow : env.Grow)

include look grow

theorem release (r : StreamRef) : (r.release env).Within Launches :=
  fun _ => (carries he look (fun _ _ => False) False.elim).legs <|
    Legs.release grow fun _ _ _ => trivial

theorem forget (id : StreamId) : (Registry.forget env id).Within Launches :=
  fun w => (carries he look (fun w v => ∃ f, v = w.updateDispatcher f)
    fun ⟨_, hOwn⟩ => hOwn ▸ of_streams rfl).legs <|
      Legs.within_forget grow (fun _ _ => trivial) (fun _ => ⟨_, rfl⟩) id w

theorem launch {r : StreamRef} (new : (w.status r).requested = false)
    (state : (w.status r).state = .created) (id : StreamId) :
    Launches (w.launching r) ((r.launch env id).left w) := by
  have hTry : Launches (w.launching r)
      ((tryCatch (r.start env) fun halt => do r.release env; throw halt).left w) := by
    rw [Act.left, Act.on_tryCatch]
    cases ((r.start env).on w).1 with
    | ok _ => exact start he new state
    | error halt =>
      exact (start he new state).trans <|
        smooth.within_bind (release look he grow r) (fun _ _ => smooth.refl _) _
  refine smooth.related_bind hTry fun started _ => ?_
  cases started with
  | ok _ => exact smooth.refl _
  | error e =>
    refine smooth.within_bind (forget look he grow id) (fun _ => ?_) _
    exact smooth.within_bind (release look he grow r) fun _ => smooth.within_pure _

/-- A stream that is made for the worker is asked for before anybody has control. -/
theorem createStream (config : StreamConfig) (w : System κ) :
    Launches w ((Dispatcher.createStream env config).left w) := by
  cases running : w.dispatcher.stopped with
  | true =>
    rw [Dispatcher.createStream, Act.left_get_bind, running]
    exact smooth.refl w
  | false =>
    rw [Act.left, System.on_createStream running]
    have hGrown := w.grown_enlisted config
    have hStatus : (w.enlisted config).status ⟨w.streams.length⟩ =
        { seekable := config.seekable } := congrArg Stream.status (hGrown.new rfl)
    have hNew : ((w.enlisted config).status ⟨w.streams.length⟩).requested = false := by rw [hStatus]
    have hState : ((w.enlisted config).status ⟨w.streams.length⟩).state = .created := by
      rw [hStatus]
    have hMade : (w.enlisted config).Has ⟨w.streams.length⟩ := (hGrown.has _).2 (.inr rfl)
    have hAsked : Launches (w.enlisted config) _ :=
      of_quiet (.start _ hNew hState : Quiet look _ _)
    have hLaunched := launch look he grow hNew hState (.drawn w.drawn)
    have hOld {r : StreamRef} (made : w.Has r) : (w.enlisted config).Has r :=
      (hGrown.has r).2 (.inl made)
    refine ⟨?_, fun made => ?_, fun made asked => ?_, fun {r} new served => ?_⟩
    · exact Nat.le_trans (by simp [System.enlisted, System.updateDispatcher, System.updateStream])
        (hAsked.trans hLaunched).grows
    · exact ((hAsked.trans hLaunched).binding (hOld made)).trans (by rw [hGrown.old made])
    · refine (hAsked.trans hLaunched).requested (hOld made) ?_
      rw [System.status, hGrown.old made]
      exact asked
    · by_cases made : (w.enlisted config).Has r
      · obtain rfl : r = ⟨w.streams.length⟩ := by
          cases r
          exact congrArg StreamRef.mk (((hGrown.has _).1 made).resolve_left new)
        exact hLaunched.requested (((w.enlisted config).has_launching _ _).2 hMade)
          (by rw [System.status_launching hMade])
      · exact (hAsked.trans hLaunched).born made served

theorem call (c : Call κ α) : (c.run env).Within Launches :=
  fun w => (carries he look (fun w v => ∃ config, v = (Dispatcher.createStream env config).left w)
    fun ⟨config, hOwn⟩ => hOwn ▸ createStream look he grow config _).legs <|
      Legs.within_call_of grow (fun _ _ => trivial)
        (fun config _ => .single (.own ⟨config, rfl⟩)) c w

omit he grow

theorem alone : Alone look (Launches (κ := κ)) where
  refl := smooth.refl
  trans := trans
  remember _ _ := of_streams rfl
  note _ := of_streams rfl

variable {look}

theorem serves (h : env.Serves look manners) : env.Within (Launches (κ := κ)) :=
  h.within (alone look) fun serves he _ c => call look he serves.grow c

theorem step (h : env.Serves look manners) : (Worker.step env).Within Launches :=
  fun w => (carries (serves h) look (fun w v => (∃ e, v = w.record e) ∨
      ∃ f, v = w.updateDispatcher f) fun hOwn => by
        rcases hOwn with ⟨e, rfl⟩ | ⟨f, rfl⟩ <;> exact of_streams rfl).legs <|
    Legs.within_step h.grow (fun _ _ => trivial) (fun _ => .inl ⟨_, rfl⟩) (fun _ _ => .inr ⟨_, rfl⟩)
      (fun job _ => .single (.does (.work job))) w

theorem run {w v : System κ} (h : Run look manners w v) : Launches w v := by
  refine h.related (alone look) (fun served _ c => call look (serves served) served.grow c)
    (fun settings executor _ => ?_) step
  exact Dispatcher.related_start (smooth.refl _) (fun _ _ => of_streams rfl) settings executor

end Launches

/-- Between what clients do and turns of the worker, no stream of the worker's waits to be
started. -/
theorem System.Launched.of_reached {w : System κ} (h : Reached look manners w) : w.Launched := by
  obtain ⟨client, hRun⟩ := h
  have hOutset : ({ client } : System κ).Launched :=
    fun _ served => absurd served.1 (Nat.not_lt_zero _)
  exact hOutset.launches (Launches.run hRun)

end HostedStreams
