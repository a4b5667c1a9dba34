import HostedStreams.Proofs.Bides
import HostedStreams.Proofs.Launched
import HostedStreams.Proofs.Refusal

/-! The worker's streams outside its context. Nobody hears of them there and none is torn down, as
long as the client leaves them to the worker: a close is put off, a handle that is given up is not
the last one, and where the worker has ended there is nothing left to be torn down. -/
namespace HostedStreams

variable {κ : Client} {α : Type} {look : System κ → κ.Note} {manners : Surroundings κ → Prop}
  {env : Surroundings κ} {q r : StreamRef} {u v w : System κ} {hushed : Prop}

namespace System

/-- The books are in order, and the worker's context is off. -/
structure Outside (w : System κ) : Prop where
  rest : w.AtRest
  inContext : w.dispatcher.inContext = false

/-- A stream that is torn down takes no event. -/
theorem left_apply_of_torn (torn : (w.status r).state = .destroyed) (event : Event) :
    (r.apply env event).left w = w := by
  have hSpent : (w.status r).Spent := .inr torn
  rcases hSpent.react event with hReact | ⟨-, live⟩
  · simp only [StreamRef.apply, Act.left_get_bind, Act.left_modify_bind, hReact, updateStatus_self]
    rfl
  · exact absurd torn live

end System

/-- Between what clients do and turns of the worker, its context is off. -/
theorem System.Outside.of_reached (h : Reached look manners w) : w.Outside := by
  refine ⟨.of_reached look h, ?_⟩
  obtain ⟨client, hRun⟩ := h
  induction hRun with
  | refl => rfl
  | @act _ v a before conduct ih =>
    have hBides : Bides False v (a.left v) := Bides.conduct conduct v
    exact hBides.inContext.trans ih
  | @start v before unstarted settings executor ih =>
    exact Dispatcher.related_start (R := fun w v => w.dispatcher.inContext = false →
      v.dispatcher.inContext = false) id (fun _ off _ => off) settings executor ih
  | @turn v env before serves ih =>
    exact (Attended.step serves (.of_reached look ⟨client, before⟩)).inContext.trans ih

/-- Nobody hears of a stream in a hush. -/
theorem Hush.hearings (h : Hush w v) (q : StreamRef) : v.hearings q = w.hearings q := by
  obtain ⟨news, hNews, hNoticed⟩ := h.past
  have hUnheard : news.filterMap (·.hearing? q) = [] := by
    refine List.filterMap_eq_nil_iff.2 fun e he => ?_
    have hNotice := hNoticed e he
    cases e <;> first | rfl | cases hNotice
  rw [System.hearings, hNews, List.filterMap_append, hUnheard, List.nil_append, System.hearings]

namespace System

theorem hearings_launching (w : System κ) (r q : StreamRef) :
    (w.launching r).hearings q = w.hearings q :=
  (hearings_record _ (@Entry.hostCall _ (w.stream r).id (.start (w.stream r).asks) r) q).trans
    (hearings_of_past (w.past_updateStatus r _) q)

theorem hearings_ended (w : System κ) (r q : StreamRef) :
    (w.ended r).hearings q = w.hearings q := by
  rw [hearings, past_ended]
  rfl

end System

/-- Nobody hears anything while a stream without sinks is launched, if the host only notifies. -/
theorem StreamRef.hearings_launch (new : (w.status r).requested = false)
    (state : (w.status r).state = .created)
    (unheard : (w.source (.stream r)).attachments = []) (kept : 2 ≤ (w.stream r).handles)
    {id : StreamId} (known : w.dispatcher.registered? id = some r)
    (hush : (env.host.start (w.stream r).id (w.stream r).asks).Within Hush) (q : StreamRef) :
    ((r.launch env id).left w).hearings q = w.hearings q := by
  have hHush := hush (w.launching r)
  cases hEnd : (env.host.start (w.stream r).id (w.stream r).asks).on (w.launching r) with
  | mk answer u =>
    rw [Act.left, hEnd] at hHush
    have hHeard : u.hearings q = w.hearings q := (hHush.hearings q).trans (w.hearings_launching r q)
    rcases answer with halt | (e | _)
    · -- The host has panicked, and the stream still has the handle of the registry.
      have hStart : (r.start env).on w = (.error halt, u) := by
        rw [on_start_of_new new state, Act.on_bind, Act.left, hEnd]
      have hKept : 2 ≤ (u.stream r).handles := by
        rw [System.stream, hHush.streams, ← System.stream, System.handles_launching]
        exact kept
      have hReleased : (do r.release env; throw halt : Act κ (Except StreamError Unit)).on u =
          (.error halt, u.released r) := Act.on_bind_ok (System.on_release_of_kept hKept) _
      rw [launch, Act.left, Act.on_bind, Act.left, Act.on_tryCatch_error hStart, hReleased]
      exact hHeard
    · rw [Act.left, on_launch_of_refused new state unheard known hEnd hHush]
      exact (System.hearings_ended _ r q).trans ((u.hearings_record _ q).trans hHeard)
    · have hStart : (r.start env).on w = (.ok (.ok ()), u.record (@Entry.hostAnswer _
          (w.stream r).id (.start (w.stream r).asks) true r)) := by
        rw [on_start_of_new new state, Act.on_bind_ok hEnd]
        rfl
      rw [launch, Act.left, Act.on_bind_ok (Act.on_tryCatch_ok hStart _)]
      exact (u.hearings_record _ q).trans hHeard

/-- What becomes of a stream of the worker's from one moment to a later one, if at the first the
worker's context is off. If hosts only notify, nobody hears of a stream either that is made
meanwhile. -/
structure Undisturbed (hushed : Prop) (q : StreamRef) (w v : System κ) : Prop where
  conserves : Conserves w v
  inContext : v.dispatcher.inContext = w.dispatcher.inContext
  launches : Launches w v
  live : w.Outside → w.Served q → (w.status q).requested = true →
    (w.status q).state ≠ .destroyed → (v.status q).state ≠ .destroyed
  hearings : w.Outside → w.Served q → (w.status q).requested = true →
    v.hearings q = w.hearings q
  born : hushed → w.Outside → ¬ w.Has q → (v.Has q → v.Served q) → v.hearings q = w.hearings q

namespace Undisturbed

/-- The worker's context stays off. -/
theorem outside (h : Undisturbed hushed q w v) (hw : w.Outside) : v.Outside :=
  ⟨hw.rest.conserves h.conserves, h.inContext.trans hw.inContext⟩

/-- A worker that has ended has no stream left that could be torn down. -/
theorem torn_of_ended (outside : w.Outside) (h : Undisturbed hushed q w v) (served : w.Served q)
    (ended : v.dispatcher.phase ≠ .running) : (v.status q).state = .destroyed := by
  have hRest := (h.outside outside).rest
  have hIdle : v.dispatcher.phase.working = false := by
    have hSettled := hRest.settled
    cases hPhase : v.dispatcher.phase <;> simp_all [Phase.working]
  by_contra live
  have hListed := hRest.books.roster.enrolled (h.conserves.served served) live
  rw [hRest.books.ledger.registry_of_idle hIdle] at hListed
  cases hListed

theorem trans (first : Undisturbed hushed q u v) (second : Undisturbed hushed q v w) :
    Undisturbed hushed q u w where
  conserves := first.conserves.trans second.conserves
  inContext := second.inContext.trans first.inContext
  launches := first.launches.trans second.launches
  live outside served asked live :=
    second.live (first.outside outside) (first.conserves.served served)
      (first.launches.requested served.1 asked) (first.live outside served asked live)
  hearings outside served asked :=
    (second.hearings (first.outside outside) (first.conserves.served served)
      (first.launches.requested served.1 asked)).trans (first.hearings outside served asked)
  born quietly outside new served := by
    have hServed (made : v.Has q) : v.Served q :=
      ⟨made, (second.conserves.binding made).symm.trans (served (second.conserves.has made)).2⟩
    rw [← first.born quietly outside new hServed]
    by_cases made : v.Has q
    · exact second.hearings (first.outside outside) (hServed made)
        (first.launches.born new (hServed made))
    · exact second.born quietly (first.outside outside) made served

/-- Nobody hears of the stream, and it is not torn down. -/
theorem of_still (conserves : Conserves w v)
    (inContext : v.dispatcher.inContext = w.dispatcher.inContext) (launches : Launches w v)
    (live : w.Has q → (w.status q).state ≠ .destroyed → (v.status q).state ≠ .destroyed)
    (hearings : v.hearings q = w.hearings q) : Undisturbed hushed q w v :=
  ⟨conserves, inContext, launches, fun _ served _ => live served.1, fun _ _ _ => hearings,
    fun _ _ _ _ => hearings⟩

theorem of_quiet (h : Quiet look w v) : Undisturbed hushed q w v :=
  of_still ((Conserves.steady look).quiet h) h.bides.1 (.of_quiet h)
    (fun made live => by rwa [Ebb.state_of_quiet h made]) (h.hearings q)

theorem of_firing {o : Origin} (h : Firing o w v) (ho : o ≠ .stream q) :
    Undisturbed hushed q w v :=
  of_still (.of_firing h) (by rw [h.dispatcher]) (.of_firing h)
    (fun _ live => by rwa [(h.spares ho).state]) (h.hearings ho)

theorem refl (w : System κ) : Undisturbed hushed q w w :=
  of_still (.refl w) rfl (.of_streams rfl) (fun _ live => live) rfl

theorem smooth : Smooth (Undisturbed (κ := κ) hushed q) where
  refl := refl
  trans := trans
  doneWith _ _ :=
    of_still (.of_dispatcher rfl (.of_streams rfl (Nat.le_refl _))) rfl (.of_streams rfl)
      (fun _ live => live) rfl

variable (look) in
theorem alone : Alone look (Undisturbed (κ := κ) hushed q) where
  refl := refl
  trans := trans
  remember w f := of_quiet (.remember f : Quiet look w _)
  note w := of_quiet (.note : Quiet look w _)

/-- The stream hands nothing to its sinks unless it is torn down. -/
theorem carries (look : System κ → κ.Note) (he : env.Within (Undisturbed hushed q))
    (own : System κ → System κ → Prop) (hOwn : ∀ {w v}, own w v → Undisturbed hushed q w v) :
    Carries look env (fun r w => r = q → (w.status q).state = .destroyed) own
      (Undisturbed (κ := κ) hushed q) where
  refl := refl
  trans := trans
  does := he
  quiet h _ := of_quiet h
  ask asked _ does answered _ := ((of_quiet asked).trans does).trans (of_quiet answered)
  fireHub _ event := smooth.within_fireHub he.deliver (fun h => of_firing h (by simp)) event
  apply {r w} event free := by
    by_cases hr : r = q
    · rw [System.left_apply_of_torn (hr ▸ free hr)]
      exact refl w
    · exact smooth.within_apply he.deliver (fun h => of_firing h (by simpa using hr)) event w
  destroy {r w} free := by
    by_cases hr : r = q
    · rw [System.left_destroy_of_torn (hr ▸ free hr)]
      exact refl w
    · exact smooth.within_destroy he.deliver (fun h => of_firing h (by simpa using hr)) w
  own := hOwn

section

variable (grow : env.Grow) (he : env.Within (Undisturbed hushed q)) (other : r ≠ q)

include grow he other

/-- The start of another stream does not disturb this one. -/
theorem start_of_ne (look : System κ → κ.Note) : (r.start env).Within (Undisturbed hushed q) :=
  fun _ => (carries look he (fun _ _ => False) False.elim).legs <|
    Legs.start grow fun _ _ _ _ hr => absurd hr other

/-- A handle of another stream can be given up without disturbing this one. -/
theorem release_of_ne (look : System κ → κ.Note) : (r.release env).Within (Undisturbed hushed q) :=
  fun _ => (carries look he (fun _ _ => False) False.elim).legs <|
    Legs.release grow fun _ _ _ hr => absurd hr other

/-- A stream is launched, and another one is left alone. -/
theorem launch_of_ne (look : System κ → κ.Note) (hc : env.Within Conserves) (outside : w.Outside)
    (served : w.Served r) {id : StreamId} (hId : (w.stream r).id = id) :
    Undisturbed hushed q w ((r.launch env id).left w) := by
  have hTry : Undisturbed hushed q w
      ((tryCatch (r.start env) fun halt => do r.release env; throw halt).left w) := by
    refine smooth.within_tryCatch (start_of_ne grow he other look) (fun halt => ?_) w
    exact smooth.within_bind (release_of_ne grow he other look) fun _ _ => refl _
  refine Act.holds_bind hTry fun started hEnd => ?_
  cases started with
  | ok _ => exact hTry
  | error e =>
    obtain ⟨hFailed, hLeft⟩ := Act.of_on_rethrow hEnd
    have hTorn := Conserves.torn_of_start look hc served.1 hFailed
    rw [← hLeft] at hTorn
    generalize (tryCatch (r.start env) fun halt => do r.release env; throw halt).left w = v at *
    have hForgot : Undisturbed hushed q w ((Registry.forget env id).left v) := by
      cases known : v.dispatcher.registered? id with
      | none =>
        rw [Registry.forget, Act.left_bind_ok (System.on_remove_of_none known)]
        exact hTry
      | some p =>
        have hSame {p : StreamRef} (hp : (id, p) ∈ v.dispatcher.registry) : p = r :=
          hTry.conserves.eq_of_known outside.rest.books served hId hp
        obtain rfl := hSame (Dispatcher.mem_of_registered? known)
        have hStruck : Conserves w (v.struck id) :=
          hTry.conserves.of_struck fun _ p hp => (hSame hp).symm ▸ hTorn
        rw [Registry.forget, Act.left_bind_ok (System.on_remove_of_some known)]
        exact trans ⟨hStruck, hTry.inContext, hTry.launches.trans (.of_streams rfl), hTry.live,
          hTry.hearings, hTry.born⟩ (release_of_ne grow he other look _)
    refine Act.related_bind (R := Undisturbed hushed q) trans hForgot fun _ _ => ?_
    exact smooth.within_bind (release_of_ne grow he other look) (fun _ _ => refl _) _

end
section

variable (serves : env.Serves look manners) (he : env.Within (Undisturbed hushed q))
  (hush : hushed → env.Hushed look)

include serves

include he hush

/-- A stream is made for the worker. The other ones are left alone, and it is made quietly if the
host only notifies. -/
theorem createStream (held : w.dispatcher.held = true) (config : StreamConfig) :
    Undisturbed hushed q w ((Dispatcher.createStream env config).left w) := by
  have hc := ((Conserves.sustained look manners).serves serves).2
  have hConserves := Conserves.createStream look hc held config
  have hBides : Bides False w ((Dispatcher.createStream env config).left w) :=
    (Bides.carries look (Bides.serves serves)).legs <|
      Legs.within_createStream serves.grow (fun _ _ => trivial) .books .enlist config w
  have hLaunches := Launches.createStream look (Launches.serves serves) serves.grow config w
  cases running : w.dispatcher.stopped with
  | true =>
    rw [Dispatcher.createStream, Act.left_get_bind, running]
    exact refl w
  | false =>
    have hGrown := w.grown_enlisted config
    have hLeft : (Dispatcher.createStream env config).left w =
        (StreamRef.launch env (.drawn w.drawn) ⟨w.streams.length⟩).left (w.enlisted config) :=
      congrArg Prod.snd (System.on_createStream running env config)
    have hOutside (outside : w.Outside) : (w.enlisted config).Outside :=
      ⟨outside.rest.conserves (.of_enlist held running config), outside.inContext⟩
    have hUnheard : (w.enlisted config).hearings q = w.hearings q := rfl
    have hOther (other : (⟨w.streams.length⟩ : StreamRef) ≠ q) (outside : w.Outside) :
        Undisturbed hushed q (w.enlisted config) ((Dispatcher.createStream env config).left w) := by
      rw [hLeft]
      exact launch_of_ne serves.grow he other look hc (hOutside outside)
        (w.served_enlisted config) (w.id_enlisted config)
    -- A stream that was there is not the one that is made, and is as it was where that is launched.
    have hOld (served : w.Served q) : (w.enlisted config).stream q = w.stream q ∧
        (w.enlisted config).Served q ∧ (⟨w.streams.length⟩ : StreamRef) ≠ q :=
      ⟨hGrown.old served.1, hGrown.served.2 (.inl served),
        fun hNew => Nat.ne_of_lt served.1 (congrArg StreamRef.number hNew).symm⟩
    refine ⟨hConserves, hBides.inContext, hLaunches, fun outside served asked live => ?_,
      fun outside served asked => ?_, fun quietly outside new served => ?_⟩
    · obtain ⟨hSame, hServed, other⟩ := hOld served
      rw [System.status, ← hSame] at asked live
      exact (hOther other outside).live (hOutside outside) hServed asked live
    · obtain ⟨hSame, hServed, other⟩ := hOld served
      rw [System.status, ← hSame] at asked
      exact (hOther other outside).hearings (hOutside outside) hServed asked
    · by_cases other : (⟨w.streams.length⟩ : StreamRef) = q
      · subst other
        rw [hLeft]
        have hNew := hGrown.new (r := ⟨w.streams.length⟩) rfl
        refine StreamRef.hearings_launch (by rw [System.status, hNew]) (by rw [System.status, hNew])
          (by rw [System.source, hNew]; rfl) (by rw [hNew]) ?_ ?_ _
        · exact (w.registered?_enlisted outside.rest.books.roster config).1
        · exact Hush.conduct ((hush quietly).start _ _)
      · refine (hOther other outside).born quietly (hOutside outside) (fun made => ?_) served
        rcases (hGrown.has q).1 made with hOld | hNumber
        · exact new hOld
        · exact other (congrArg StreamRef.mk hNumber.symm)

/-- What is called leaves the worker's streams alone if it is permitted. -/
theorem call (c : Call κ α) (permitted : Discipline.proper.permits w c = true) :
    Undisturbed hushed q w ((c.run env).left w) := by
  have hConserves := (Conserves.sustained look manners).call serves.mannered
    ((Conserves.sustained look manners).serves serves).2 c w
  have hBides : Bides False w ((c.run env).left w) :=
    Bides.call serves (Bides.serves serves) c w
  have hLaunches := Launches.call look (Launches.serves serves) serves.grow c w
  have hCarries := carries look he (fun w v => ∃ config, w.dispatcher.held = true ∧
    v = (Dispatcher.createStream env config).left w) fun ⟨config, held, hOwn⟩ =>
      hOwn ▸ createStream serves he hush held config
  -- It is left to say of each leg that could fire at the stream why it does not.
  have hLegs (outside : w.Outside)
      (known : w.Has q → w.Served q ∧ (w.status q).requested = true) :
      Undisturbed hushed q w ((c.run env).left w) := by
    apply hCarries.legs
    apply c.legs serves.grow
    have hPermitted : _ = true := permitted
    simp only [Discipline.proper, outside.inContext, Bool.false_or] at hPermitted
    have hMade (live : (w.status q).state ≠ .destroyed) : w.Has q := System.has_of_state_ne live
    cases c with
    | release r =>
      rintro last live x rfl
      have hTwo := (of_decide_eq_true hPermitted) (known (hMade live)).1 live
      omega
    | start r =>
      rintro new live x - rfl
      simp [(known (hMade live)).2] at new
    | receive r event =>
      rintro x - rfl
      obtain ⟨made, other⟩ := of_decide_eq_true hPermitted
      exact absurd (known made).1.2 other
    | destroy r =>
      rintro x - rfl
      obtain ⟨made, other⟩ := of_decide_eq_true hPermitted
      exact absurd (known made).1.2 other
    | close r =>
      rintro live x y hx hy free rfl
      have hServed := (known (hMade live)).1
      have hThere := hCarries.legs hx
      have hOff := (hThere.outside outside).inContext
      have hEnded := (free (hThere.conserves.served hServed).2).resolve_left (by simp [hOff])
      have hLater := hCarries.legs hy
      refine torn_of_ended outside (hThere.trans hLater) hServed ?_
      rw [hLater.conserves.phase (hThere.outside outside).rest.books]
      exact hEnded
    | giveUp keepNotifier =>
      intro idle entry hEntry
      rw [outside.rest.books.ledger.registry_of_idle idle] at hEntry
      cases hEntry
    | createStream | openUrl => exact fun held config => .single (.own ⟨config, held, rfl⟩)
    | _ => trivial
  refine ⟨hConserves, hBides.inContext, hLaunches, fun outside served asked => ?_,
    fun outside served asked => ?_, fun quietly outside new served => ?_⟩
  · exact (hLegs outside fun _ => ⟨served, asked⟩).live outside served asked
  · exact (hLegs outside fun _ => ⟨served, asked⟩).hearings outside served asked
  · exact (hLegs outside fun made => absurd made new).born quietly outside new served

end
section

variable (hush : hushed → ∀ {env : Surroundings κ}, manners env → env.Hushed look)

include hush

theorem serves (h : Discipline.proper.Serves look manners env) :
    env.Within (Undisturbed (κ := κ) hushed q) :=
  h.within (alone look) fun serves he _ c _ permitted =>
    call serves.serves he (fun quietly => hush quietly serves.serves.mannered) c permitted

/-- A client that leaves the worker's streams to the worker, has them left alone. -/
theorem conduct {a : Act κ α}
    (h : Discipline.proper.Conduct look (Discipline.proper.Serves look manners) a) :
    a.Within (Undisturbed hushed q) :=
  h.within (alone look) fun usable _ c _ permitted =>
    call usable.serves (serves hush usable) (fun quietly => hush quietly usable.serves.mannered) c
      permitted

end
end Undisturbed
end HostedStreams
