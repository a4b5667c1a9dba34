import HostedStreams.Proofs.Discipline
import HostedStreams.Proofs.Launched

/-! Streams that the host refuses. A host that only notifies the dispatcher leaves streams and the
registry as they are, so a stream that it refuses has no sinks when it is torn down and is forgotten
with nobody having heard of it. -/
namespace HostedStreams

variable {κ : Client} {α : Type} {look : System κ → κ.Note} {env : Surroundings κ}
  {w : System κ} {r : StreamRef}

/-- Whether the entry is a note of the client's or tells of a notification that is handed in. -/
def Entry.notices {Note : Type} : Entry Note → Bool
  | .note _ | .accepted .. | .refused .. => true
  | _ => false

/-- Nothing happens to streams and to what the dispatcher knows of them. -/
structure Hush (w v : System κ) : Prop where
  streams : v.streams = w.streams
  registry : v.dispatcher.registry = w.dispatcher.registry
  active : v.dispatcher.metrics.activeStreams = w.dispatcher.metrics.activeStreams
  past : ∃ news, v.past = news ++ w.past ∧ ∀ e ∈ news, e.notices = true

namespace Hush

variable {u v : System κ}

theorem trans (first : Hush u v) (second : Hush v w) : Hush u w where
  streams := second.streams.trans first.streams
  registry := second.registry.trans first.registry
  active := second.active.trans first.active
  past := by
    obtain ⟨news, hNews, hNoticed⟩ := first.past
    obtain ⟨later, hLater, hNoticed'⟩ := second.past
    refine ⟨later ++ news, by rw [hLater, hNews, List.append_assoc], fun e he => ?_⟩
    exact (List.mem_append.1 he).elim (hNoticed' e) (hNoticed e)

theorem refl (w : System κ) : Hush w w :=
  ⟨rfl, rfl, rfl, [], rfl, fun _ he => by cases he⟩

theorem record (w : System κ) {e : Entry κ.Note} (h : e.notices = true) : Hush w (w.record e) :=
  ⟨rfl, rfl, rfl, [e], rfl, fun x hx => by rwa [List.mem_singleton.1 hx]⟩

/-- Whatever else is counted, the streams that are registered are as many. -/
theorem updateMetrics (w : System κ) {f : Metrics → Metrics}
    (h : ∀ m, (f m).activeStreams = m.activeStreams) : Hush w (w.updateMetrics f) :=
  ⟨rfl, rfl, h _, [], rfl, fun _ he => by cases he⟩

theorem alone : Alone look (Hush (κ := κ)) where
  refl := refl
  trans := trans
  remember _ _ := ⟨rfl, rfl, rfl, [], rfl, fun _ he => by cases he⟩
  note w := record w rfl

theorem notify (id : StreamId) (event : Event) :
    (Dispatcher.notify id event).Within (Hush (κ := κ)) := by
  intro w
  have hRefused (reason : DispatchError) (label : String) :
      Hush w ((w.record (.refused id event reason)).updateMetrics (Metrics.countRejected label)) :=
    (record w rfl).trans (updateMetrics _ fun _ => rfl)
  simp only [Dispatcher.notify, Act.left_get_bind]
  split
  · exact hRefused _ _
  · split
    · exact (record w (e := .accepted id event) rfl).trans
        ⟨rfl, rfl, rfl, [], rfl, fun _ he => by cases he⟩
    · exact hRefused _ _
    · exact hRefused _ _

/-- Nobody who only notifies the dispatcher does anything to streams. -/
theorem conduct {a : Act κ α} (h : Discipline.hushed.Conduct look (fun _ => True) a) :
    a.Within Hush := by
  refine h.within alone fun _ _ c w permitted => ?_
  cases c with
  | notify id event =>
    simp only [Call.run, Act.given, Act.left_get_bind]
    split
    · rw [Act.left_bind_pure]
      exact notify id event w
    · exact refl w
  | _ => cases permitted

end Hush

namespace System

/-- The system in which the stream is torn down and nobody has heard of it. -/
def ended (w : System κ) (r : StreamRef) : System κ :=
  (w.tearing r).updateSource (.stream r) Source.clear

/-- The stream is torn down. -/
theorem torn_ended (made : w.Has r) : ((w.ended r).status r).state = .destroyed := by
  rw [ended, status_updateSource, tearing, status_record, status_updateStatus, if_pos ⟨rfl, made⟩]
  rfl

theorem dispatcher_ended (w : System κ) (r : StreamRef) :
    (w.ended r).dispatcher = w.dispatcher := by
  rw [ended, dispatcher_updateSource]
  rfl

/-- The end was fired, to nobody. -/
theorem past_ended (w : System κ) (r : StreamRef) :
    (w.ended r).past = .pass (.stream r) .destroyed (.state .destroyed) :: w.past := by
  rw [ended, past_updateSource]
  rfl

/-- A stream without sinks is torn down with nobody hearing of it. -/
theorem on_destroy_of_unheard (live : (w.status r).state ≠ .destroyed)
    (unheard : (w.source (.stream r)).attachments = []) :
    (r.destroy env).on w = (.ok (), w.ended r) := by
  have hStanding : (w.updateStatus r Status.tornDown).standing (.stream r) = .state .destroyed :=
    standing_updateStatus (has_of_state_ne live) _
  have hNone : ((w.updateStatus r Status.tornDown).source (.stream r)).attachments = [] := by
    rw [source_updateStatus, unheard]
  have hFire : (fire env (.stream r) .destroyed).on (w.updateStatus r Status.tornDown) =
      (.ok false, w.tearing r) := by
    rw [fire, Act.on_get_bind, Act.on_modify_bind, hNone, hStanding]
    rfl
  rw [on_destroy_of_live live, Act.on_bind_ok hFire]
  rfl

/-- The system in which one handle of the stream less is held. -/
def released (w : System κ) (r : StreamRef) : System κ :=
  w.updateStream r fun s => { s with handles := s.handles - 1 }

theorem status_released (w : System κ) (r q : StreamRef) :
    (w.released r).status q = w.status q :=
  w.status_handles r q (· - 1)

/-- To give up a handle of a stream that is torn down is to count. -/
theorem on_release_of_torn (torn : (w.status r).state = .destroyed) :
    (r.release env).on w = (.ok (), w.released r) := by
  have hReturns : (r.release env).Returns w := returns_release_of_torn torn
  obtain ⟨_, hEnd⟩ := hReturns
  exact Prod.ext hEnd (left_release_of_torn torn)

/-- While somebody else has a handle, nothing happens when one is given up. -/
theorem on_release_of_kept (kept : 2 ≤ (w.stream r).handles) :
    (r.release env).on w = (.ok (), w.released r) := by
  have made : w.Has r := Decidable.byContradiction fun new => by
    rw [stream_of_not_has new] at kept
    exact absurd kept (by decide)
  have hMore : ((w.released r).stream r).handles ≠ 0 := by
    rw [released, stream_updateStream, if_pos ⟨rfl, made⟩]
    exact Nat.sub_ne_zero_of_lt kept
  rw [released] at hMore
  rw [StreamRef.release, Act.on_modify_bind, Act.on_get_bind, if_neg hMore]
  rfl

/-- A stream that is torn down is forgotten, and that is all. -/
theorem on_forget_of_torn {id : StreamId} (known : w.dispatcher.registered? id = some r)
    (torn : (w.status r).state = .destroyed) :
    (Registry.forget env id).on w = (.ok (), (w.struck id).released r) := by
  rw [Registry.forget, Act.on_bind_ok (on_remove_of_some known)]
  exact on_release_of_torn (w := w.struck id) torn

end System

/-- A stream that could not be started is forgotten, with both its handles. -/
theorem StreamRef.on_launch_of_failed {z : System κ} {id : StreamId} {e : StreamError}
    (failed : (r.start env).on w = (.ok (.error e), z))
    (known : z.dispatcher.registered? id = some r) (torn : (z.status r).state = .destroyed) :
    (r.launch env id).on w = (.ok (.error e), ((z.struck id).released r).released r) := by
  rw [launch, Act.on_bind_ok (Act.on_tryCatch_ok failed _)]
  refine (Act.on_bind_ok (System.on_forget_of_torn known torn) _).trans ?_
  have hStill : (((z.struck id).released r).status r).state = .destroyed := by
    rw [System.status_released]
    exact torn
  exact Act.on_bind_ok (System.on_release_of_torn hStill) _

section

variable (new : (w.status r).requested = false) (state : (w.status r).state = .created)
  (unheard : (w.source (.stream r)).attachments = []) {u : System κ}

include new state unheard

/-- The system in which a stream is torn down that the host has refused. -/
theorem StreamRef.on_start_of_refused {e : HostError}
    (refused : (env.host.start (w.stream r).id (w.stream r).asks).on (w.launching r) =
      (.ok (.error e), u)) (hush : Hush (w.launching r) u) :
    (r.start env).on w = (.ok (.error (.host "open" e)),
      (u.record (@Entry.hostAnswer _ (w.stream r).id (.start (w.stream r).asks) false r)).ended
        r) := by
  have made : w.Has r := System.has_of_state_ne (by rw [state]; simp)
  have hStream : u.stream r = (w.launching r).stream r := by
    rw [System.stream, hush.streams, System.stream]
  have hLive : (u.status r).state ≠ .destroyed := by
    rw [System.status, hStream, ← System.status, System.status_launching made]
    simp [state]
  have hUnheard : (u.source (.stream r)).attachments = [] := by
    rw [System.source, hStream]
    exact (congrArg Source.attachments (w.source_updateStatus r (.stream r)
      fun f => { f with requested := true })).trans unheard
  have hDown : (r.destroy env).on
      (u.record (@Entry.hostAnswer _ (w.stream r).id (.start (w.stream r).asks) false r)) = _ :=
    System.on_destroy_of_unheard hLive hUnheard
  rw [on_start_of_new new state, Act.on_bind_ok refused, settle, Act.on_modify_bind]
  exact Act.on_bind_ok hDown _

/-- So is the one in which it is forgotten. -/
theorem StreamRef.on_launch_of_refused {id : StreamId} {e : HostError}
    (known : w.dispatcher.registered? id = some r)
    (refused : (env.host.start (w.stream r).id (w.stream r).asks).on (w.launching r) =
      (.ok (.error e), u)) (hush : Hush (w.launching r) u) :
    (r.launch env id).on w = (.ok (.error (.host "open" e)),
      ((((u.record (@Entry.hostAnswer _ (w.stream r).id (.start (w.stream r).asks) false r)).ended
        r).struck id).released r).released r) := by
  have hThere : u.Has r := by
    rw [System.Has, hush.streams]
    exact (w.has_launching r r).2 (System.has_of_state_ne (by rw [state]; simp))
  refine on_launch_of_failed (on_start_of_refused new state unheard refused hush) ?_
    (System.torn_ended hThere)
  rw [System.dispatcher_ended]
  refine Eq.trans ?_ known
  exact congrArg (fun l : List (StreamId × StreamRef) => (l.find? (·.1 == id)).map (·.2))
    hush.registry

end

/-- The identifier that is drawn next is that of the stream that is made. -/
theorem System.registered?_enlisted (roster : w.Roster) (config : StreamConfig) :
    (w.enlisted config).dispatcher.registered? (.drawn w.drawn) = some ⟨w.streams.length⟩ ∧
    (w.enlisted config).dispatcher.registry.filter (·.1 != .drawn w.drawn) =
      w.dispatcher.registry := by
  have hFresh : ∀ entry ∈ w.dispatcher.registry, (entry.1 == .drawn w.drawn) = false :=
    fun entry hMem => beq_false_of_ne (roster.fresh hMem)
  have hNone : w.dispatcher.registry.find? (·.1 == .drawn w.drawn) = none :=
    List.find?_eq_none.2 fun entry hMem => by simp [hFresh entry hMem]
  have hRegistry : (w.enlisted config).dispatcher.registry =
      w.dispatcher.registry ++ [(.drawn w.drawn, ⟨w.streams.length⟩)] := rfl
  have hKept : w.dispatcher.registry.filter (·.1 != .drawn w.drawn) = w.dispatcher.registry :=
    List.filter_eq_self.2 fun entry hMem => by simp [bne, hFresh entry hMem]
  constructor
  · simp [Dispatcher.registered?, hRegistry, List.find?_append, hNone]
  · simp [hRegistry, hKept]

/-- A stream that the host refuses is forgotten. Nobody hears of it, and the host is asked once. -/
theorem createStream_of_refused (books : w.Books 0) (running : w.dispatcher.stopped = false)
    {config : StreamConfig} {e : HostError}
    (hush : Discipline.hushed.Conduct look (fun _ => True)
      (env.host.start (.drawn w.drawn) config))
    (refused : ((env.host.start (.drawn w.drawn) config).on
      ((w.enlisted config).launching ⟨w.streams.length⟩)).1 = .ok (.error e)) :
    ∃ v, (Dispatcher.createStream env config).on w = (.ok (.error (.host "open" e)), v) ∧
      v.dispatcher.registry = w.dispatcher.registry ∧
      v.dispatcher.metrics.activeStreams = w.dispatcher.registry.length ∧
      ∃ news, (∀ e ∈ news, e.notices = true) ∧
        v.past = .pass (.stream ⟨w.streams.length⟩) .destroyed (.state .destroyed) ::
          @Entry.hostAnswer _ (.drawn w.drawn) (.start config) false ⟨w.streams.length⟩ ::
          (news ++ @Entry.hostCall _ (.drawn w.drawn) (.start config) ⟨w.streams.length⟩ ::
            w.past) := by
  have hNew := (w.grown_enlisted config).new (r := ⟨w.streams.length⟩) rfl
  obtain ⟨hKnown, hOthers⟩ := w.registered?_enlisted books.roster config
  have hPast : (w.enlisted config).past = w.past := rfl
  rw [System.on_createStream running]
  generalize w.enlisted config = x at *
  generalize (⟨w.streams.length⟩ : StreamRef) = r at *
  have hAsks : (x.stream r).asks = config := by rw [hNew]; rfl
  have hId : (x.stream r).id = .drawn w.drawn := by rw [hNew]
  have hHush : Hush (x.launching r)
      ((env.host.start (.drawn w.drawn) config).left (x.launching r)) := Hush.conduct hush _
  generalize hu : (env.host.start (.drawn w.drawn) config).left (x.launching r) = u at hHush
  have hLaunch := StreamRef.on_launch_of_refused (by rw [System.status, hNew])
    (by rw [System.status, hNew]) (by rw [System.source, hNew]; rfl) hKnown
    (by rw [hAsks, hId]; exact Prod.ext refused hu) hHush
  rw [hAsks, hId] at hLaunch
  -- The entry that goes is the stream's own, since its identifier is drawn here.
  have hRegistry : u.dispatcher.registry.filter (·.1 != .drawn w.drawn) =
      w.dispatcher.registry := by
    rw [hHush.registry]
    exact hOthers
  generalize hz : u.record _ = z at hLaunch
  have hDispatcher : (z.ended r).dispatcher = u.dispatcher := by
    rw [System.dispatcher_ended, ← hz]
    rfl
  obtain ⟨news, hNews, hNoticed⟩ := hHush.past
  refine ⟨_, hLaunch, ?_, ?_, news, hNoticed, ?_⟩
  · refine Eq.trans ?_ hRegistry
    exact congrArg (fun d => d.registry.filter (·.1 != .drawn w.drawn)) hDispatcher
  · refine Eq.trans (b := (((z.ended r).dispatcher.registry.filter
      (·.1 != .drawn w.drawn)).length : Int)) rfl ?_
    rw [hDispatcher, hRegistry]
  · refine Eq.trans (b := (z.ended r).past) rfl ?_
    have hAsked : (x.launching r).past = @Entry.hostCall _ (.drawn w.drawn) (.start config) r ::
        w.past := by
      rw [System.launching, hAsks, hId, ← hPast]
      rfl
    rw [System.past_ended, ← hz, ← hAsked, ← hNews]
    rfl

end HostedStreams
