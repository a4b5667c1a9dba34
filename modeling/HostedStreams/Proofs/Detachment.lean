import HostedStreams.Proofs.Closes
import HostedStreams.Proofs.Multicast
import HostedStreams.Proofs.Sheltered
import HostedStreams.Proofs.Shelving
import HostedStreams.Proofs.Teardown

/-! Who is still attached when a teardown is over. The stream is torn down first, then the end is
handed to the sinks, and then all of them are taken off the list. A sink that does not return from
the end stops the teardown before the last of these, and nothing makes up for that later: a stream
that is torn down is not torn down again. Where all sinks return from the end, whatever they do with
other events, every way to a teardown leaves nobody attached. -/
namespace HostedStreams

variable {κ : Client} {look : System κ → κ.Note} {env : Surroundings κ} {r : StreamRef}
  {manners : Surroundings κ → Prop} {u v w : System κ}

/-- The sinks of the stream return when they are handed its end. -/
def Surroundings.Resigned (r : StreamRef) (env : Surroundings κ) : Prop :=
  ∀ sink w, (env.deliver sink (.stream r) .destroyed).Returns w

/-- Nobody is attached to the stream once it is torn down. -/
def System.Cleared (w : System κ) (r : StreamRef) : Prop :=
  (w.status r).state = .destroyed → w.attachments r = []

/-- No attached sink is left, be it there or gone. -/
theorem System.size_of_attachments (h : w.attachments r = []) :
    (w.source (.stream r)).size w.alive = 0 := by
  rw [attachments] at h
  rw [Source.size, h]
  rfl

section

variable {o : Origin} {event : Event} {a : Attachment} {rest : List Attachment} {halt : Halt}

/-- A sink without a turn halts no pass. -/
theorem of_visit_skip_halted (h : w.turn o a = false)
    (hEnd : ((visit env o event (a :: rest)).on w).1 = .error halt) :
    ((visit env o event rest).on w).1 = .error halt := by
  simp only [visit, Act.on_get_bind] at hEnd
  split at hEnd
  · rcases Act.of_on_bind_error hEnd with hRest | ⟨_, -, hPure⟩
    · exact congrArg Prod.fst hRest
    · cases hPure
  · split at hEnd
    · exact hEnd
    · simp_all [System.turn]

/-- A pass is halted at the turn of one of its sinks, after all turns before that one have
returned. -/
theorem of_visit_turn_halted (h : w.turn o a = true)
    (hEnd : ((visit env o event (a :: rest)).on w).1 = .error halt) :
    ((deliverTo env o event a.sink).on w).1 = .error halt ∨
      (deliverTo env o event a.sink).Returns w ∧
        ((visit env o event rest).on ((deliverTo env o event a.sink).left w)).1 = .error halt := by
  simp only [System.turn, Bool.and_eq_true] at h
  simp only [visit, Act.on_get_bind, h.1, h.2, Bool.not_true, Bool.false_eq_true, if_false] at hEnd
  rcases Act.of_on_bind_error hEnd with hHere | ⟨here, hHere, hEnd⟩
  · exact .inl (congrArg Prod.fst hHere)
  · refine .inr ⟨⟨here, hHere⟩, ?_⟩
    rcases Act.of_on_bind_error hEnd with hRest | ⟨_, -, hPure⟩
    · exact congrArg Prod.fst hRest
    · cases hPure

/-- A pass that does not end by itself was stopped by a sink that did not return. -/
theorem of_visit_halted {l : List Attachment} {w : System κ}
    (h : ((visit env o event l).on w).1 = .error halt) :
    ∃ before a after, l = before ++ a :: after ∧
      ((visit env o event before).left w).turn o a = true ∧
      ((deliverTo env o event a.sink).on ((visit env o event before).left w)).1 = .error halt ∧
      (visit env o event l).left w =
        (deliverTo env o event a.sink).left ((visit env o event before).left w) := by
  induction l generalizing w with
  | nil => cases h
  | cons a rest ih =>
    cases hTurn : w.turn o a with
    | false =>
      obtain ⟨before, b, after, hPlace, hReached⟩ := ih (of_visit_skip_halted hTurn h)
      refine ⟨a :: before, b, after, by rw [hPlace, List.cons_append], ?_⟩
      rw [visit_skip hTurn, visit_skip hTurn]
      exact hReached
    | true =>
      rcases of_visit_turn_halted hTurn h with hHere | ⟨hReturns, hRest⟩
      · obtain ⟨hReturns, -⟩ | ⟨_, -, hLeft⟩ := left_visit_of_turn env event rest hTurn
        · obtain ⟨_, hReturned⟩ := hReturns
          rw [hReturned] at hHere
          cases hHere
        · exact ⟨[], a, rest, rfl, hTurn, hHere, hLeft⟩
      · obtain ⟨before, b, after, hPlace, hReached⟩ := ih hRest
        refine ⟨a :: before, b, after, by rw [hPlace, List.cons_append], ?_⟩
        rw [visit_turn hTurn hReturns, visit_turn hTurn hReturns]
        exact hReached

/-- Nothing halts a pass but a sink that it comes to, and nothing is done after that. -/
theorem of_fire_halted {w : System κ} (h : ((fire env o event).on w).1 = .error halt) :
    (visit env o event (w.source o).attachments).on (w.record (.pass o event (w.standing o))) =
      (.error halt, (fire env o event).left w) := by
  simp only [fire, Act.on_get_bind, Act.on_modify_bind] at h
  rcases Act.of_on_bind_error h with hVisit | ⟨⟨handled, stale⟩, -, hRest⟩
  · exact hVisit
  · cases stale <;> cases hRest

end

/-- The teardown that begins in the system was cut short: the sinks before one of them were seen to,
and this one did not return from the end. -/
inductive System.CutShort (env : Surroundings κ) (r : StreamRef) (halt : Halt) (w : System κ) :
    Prop
  | intro (before : List Attachment) (a : Attachment) (after : List Attachment)
      (place : w.attachments r = before ++ a :: after)
      (turn : ((visit env (.stream r) .destroyed before).left (w.tearing r)).turn (.stream r) a =
        true)
      (halted : ((deliverTo env (.stream r) .destroyed a.sink).on
        ((visit env (.stream r) .destroyed before).left (w.tearing r))).1 = .error halt)
      (left : (r.destroy env).left w = (deliverTo env (.stream r) .destroyed a.sink).left
        ((visit env (.stream r) .destroyed before).left (w.tearing r)))

/-- What is promised of a teardown that begins in the system, whatever the sinks do. -/
structure Detaches (look : System κ → κ.Note) (env : Surroundings κ) (r : StreamRef)
    (w : System κ) : Prop where
  /-- If it returns, nobody is attached any more, then and ever after. -/
  returned : (r.destroy env).Returns w →
    ∀ v, Steps look ((r.destroy env).left w) v → (v.source (.stream r)).size v.alive = 0
  /-- If it does not, it was cut short by a sink. -/
  halted : ∀ halt, ((r.destroy env).on w).1 = .error halt → w.CutShort env r halt
  /-- In both cases it was the last one: no way to a teardown does anything any more, and it takes
  nobody off the list who was left there. -/
  last : ∀ v, Steps look ((r.destroy env).left w) v → ∀ below : Surroundings κ,
    (r.destroy below).on v = (.ok (), v) ∧ (r.close below).on v = (.ok (.ok ()), v) ∧
      (r.receive below .destroyed).on v = (.ok false, v)

namespace StreamRef

/-- A teardown that returns has cleared the list in the end. -/
theorem left_destroy_of_returns (live : (w.status r).state ≠ .destroyed)
    (h : (r.destroy env).Returns w) : (r.destroy env).left w =
      ((fire env (.stream r) .destroyed).left (w.updateStatus r Status.tornDown)).updateSource
        (.stream r) Source.clear := by
  obtain ⟨_, hEnd⟩ := h
  rw [System.on_destroy_of_live live] at hEnd
  obtain ⟨_, -, -, hLeft⟩ := Act.of_on_bind_ok hEnd
  rw [Act.left, System.on_destroy_of_live live]
  exact hLeft

/-- Nobody is attached after a teardown that returns. -/
theorem attachments_destroy_of_returns (made : ((r.destroy env).left w).Has r)
    (live : (w.status r).state ≠ .destroyed) (h : (r.destroy env).Returns w) :
    ((r.destroy env).left w).attachments r = [] := by
  rw [left_destroy_of_returns live h] at made ⊢
  have hMade := (System.has_updateSource ..).1 made
  rw [System.attachments, System.source_updateSource, if_pos ⟨rfl, hMade⟩]
  simp [Source.clear, Source.restrict]

/-- A teardown that does not return was stopped in its pass. -/
theorem cutShort_of_destroy {halt : Halt} (live : (w.status r).state ≠ .destroyed)
    (h : ((r.destroy env).on w).1 = .error halt) : w.CutShort env r halt := by
  rw [System.on_destroy_of_live live] at h
  obtain hFire | ⟨_, -, hClear⟩ := Act.of_on_bind_error h
  · have hVisit := of_fire_halted (congrArg Prod.fst hFire)
    rw [System.source_updateStatus, System.standing_updateStatus (System.has_of_state_ne live)]
      at hVisit
    change (visit env (.stream r) .destroyed (w.attachments r)).on (w.tearing r) = _ at hVisit
    obtain ⟨before, a, after, hPlace, hTurn, hHalted, hLeft⟩ :=
      of_visit_halted (congrArg Prod.fst hVisit)
    refine ⟨before, a, after, hPlace, hTurn, hHalted, ?_⟩
    rw [← hLeft, Act.left, System.on_destroy_of_live live]
    exact (congrArg Prod.snd hFire).symm.trans (congrArg Prod.snd hVisit).symm
  · cases hClear

/-- No way to a teardown does anything to a stream that is torn down. -/
theorem on_routes_of_torn (torn : (w.status r).state = .destroyed) :
    (r.destroy env).on w = (.ok (), w) ∧ (r.close env).on w = (.ok (.ok ()), w) ∧
      (r.receive env .destroyed).on w = (.ok false, w) :=
  ⟨System.on_destroy_of_torn torn, on_close_of_torn torn,
    on_receive_of_spent (.inr torn) (.inr torn)⟩

/-- No stream is lost in a teardown. -/
theorem has_destroy (serves : env.Serves look manners) (made : w.Has r) :
    ((r.destroy env).left w).Has r :=
  Nat.lt_of_lt_of_le made
    (Smooth.grows.within_destroy serves.grow.deliver Firing.grows w)

/-- A teardown returns with nobody attached, or is cut short by a sink, and is the last one either
way. -/
theorem detaches (serves : env.Serves look manners)
    (live : (w.status r).state ≠ .destroyed) : Detaches look env r w := by
  have hMade := System.has_of_state_ne live
  have hTorn : ((r.destroy env).left w).Torn r :=
    ⟨has_destroy serves hMade, torn_of_destroy serves hMade⟩
  refine ⟨fun returns v later => ?_, fun halt halted => cutShort_of_destroy live halted,
    fun v later below => on_routes_of_torn (later.torn hTorn.1 hTorn.2)⟩
  refine System.size_of_attachments (later.emptied hTorn ?_).2
  exact attachments_destroy_of_returns hTorn.1 live returns

end StreamRef

/-- What becomes of who is attached to a stream, from one moment to a later one, if the sinks return
from its end. Nobody is attached after a teardown that begins between the two, and nobody is any
more after one that began before. -/
structure Clears (r : StreamRef) (w v : System κ) : Prop where
  grows : w.streams.length ≤ v.streams.length
  cleared : w.Cleared r → v.Cleared r
  torn : w.Torn r → v.Torn r ∧ (v.attachments r).Sublist (w.attachments r)

namespace Clears

theorem trans (first : Clears r u v) (second : Clears r v w) : Clears r u w where
  grows := Nat.le_trans first.grows second.grows
  cleared h := second.cleared (first.cleared h)
  torn h := by
    obtain ⟨hv, hAttached⟩ := first.torn h
    obtain ⟨hw, hAttached'⟩ := second.torn hv
    exact ⟨hw, hAttached'.trans hAttached⟩

/-- Whatever keeps the stream's state and attaches nobody to it once it is torn down. -/
theorem of_kept (grows : w.streams.length ≤ v.streams.length)
    (state : (v.status r).state = (w.status r).state)
    (attached : (w.status r).state = .destroyed → (v.attachments r).Sublist (w.attachments r)) :
    Clears r w v where
  grows := grows
  cleared hCleared hTorn := by
    have hTorn : (w.status r).state = .destroyed := state ▸ hTorn
    have hAttached := attached hTorn
    rw [hCleared hTorn] at hAttached
    exact List.sublist_nil.1 hAttached
  torn h := ⟨⟨Nat.lt_of_lt_of_le h.1 grows, state.trans h.2⟩, attached h.2⟩

theorem of_spares (grows : w.streams.length ≤ v.streams.length) (spares : w.Spares r v) :
    Clears r w v :=
  of_kept grows spares.state spares.attached

theorem of_bears (bears : w.Bears v) : Clears r w v := by
  by_cases hr : r.number = w.streams.length
  · obtain ⟨made, hMade, rfl⟩ := bears
    refine ⟨by simp, fun _ hTorn => ?_, fun h => absurd h.1 (by simp [System.Has, hr])⟩
    rw [System.status, System.stream_append, if_pos hr, hMade] at hTorn
    cases hTorn
  · exact of_spares bears.grows (bears.spares hr)

theorem steady (look : System κ → κ.Note) (r : StreamRef) : Steady look (Clears (κ := κ) r) where
  refl _ := of_spares (Nat.le_refl _) (.of_streams rfl rfl)
  trans := trans
  grows := grows
  quiet h := (h.spares r).elim (of_spares h.grows) of_bears

theorem of_firing {o : Origin} (h : Firing o w v) (ho : o ≠ .stream r) : Clears r w v :=
  of_spares h.grows (h.spares ho)

/-! What a pass does beside its sinks. -/

theorem hands (o : Origin) (event : Event) : Hands (Clears (κ := κ) r) o event := by
  intro w v a _ _ kept
  subst kept
  exact of_kept (Nat.le_refl _) rfl fun _ => .refl _

theorem prune (o : Origin) (w : System κ) : Clears r w (w.updateSource o (·.prune w.alive)) := by
  refine of_spares ?_ (.updateSource o fun _ _ _ => Source.sublist_restrict _ _)
  cases o <;> simp [System.updateSource, System.updateStream]

section

variable (resigned : env.Resigned r)

include resigned

/-- A teardown returns if the sinks return from the end. -/
theorem returns_destroy (w : System κ) : (r.destroy env).Returns w := by
  by_cases live : (w.status r).state = .destroyed
  · exact ⟨(), congrArg Prod.fst (System.on_destroy_of_torn live)⟩
  · exact (StreamRef.visited_of_destroy live (env.answers_of_returns resigned _ _)).1

variable (within : env.Within (Clears r))

include within

/-- Nobody is attached once a teardown is over. -/
theorem of_destroy (look : System κ → κ.Note) (w : System κ) :
    Clears r w ((r.destroy env).left w) := by
  by_cases live : (w.status r).state = .destroyed
  · rw [System.left_destroy_of_torn live]
    exact (steady look r).refl w
  · have hGrows : w.streams.length ≤ ((r.destroy env).left w).streams.length :=
      Smooth.grows.within_destroy (within.mono grows).deliver Firing.grows w
    have hMade := System.has_of_state_ne live
    refine ⟨hGrows, fun _ _ => ?_, fun hTorn => absurd hTorn.2 live⟩
    exact StreamRef.attachments_destroy_of_returns (Nat.lt_of_lt_of_le hMade hGrows) live
      (returns_destroy resigned w)

/-- The stream takes an event. Sinks may panic at it, unless it is the end. -/
theorem of_apply (look : System κ → κ.Note) (event : Event) (w : System κ) :
    Clears r w ((r.apply env event).left w) := by
  rcases hReact : (w.status r).react event with ⟨t, reaction⟩
  simp only [StreamRef.apply, Act.left_get_bind, Act.left_modify_bind, hReact]
  cases reaction with
  | fire fired =>
    obtain ⟨hTakes, -⟩ := Status.takes_of_react_fire hReact
    have hMade := System.has_of_state_ne hTakes.state_ne
    have hTaken : ((w.updateStatus r fun _ => t).status r).state ≠ .destroyed := by
      rw [System.status_updateStatus, if_pos ⟨rfl, hMade⟩]
      exact hTakes.state_ne'
    apply (steady look r).smooth.related_fire within.deliver (hands _ _) (prune _)
    refine ⟨by simp [System.record, System.updateStatus, System.updateStream], ?_, ?_⟩
    · exact fun _ hTorn => absurd hTorn hTaken
    · exact fun hTorn => absurd hTorn.2 hTakes.state_ne
  | destroy =>
    rw [(Status.of_react_destroy hReact).1, System.updateStatus_self, Act.left_bind_pure]
    exact of_destroy resigned within look w
  | ignore =>
    rw [Status.of_react_ignore hReact, System.updateStatus_self]
    exact (steady look r).refl w

end

/-- Everything that clients do, and all that the dispatcher does, keeps to this. -/
theorem unconcerned (look : System κ → κ.Note) (r : StreamRef) :
    Unconcerned look (Surroundings.Resigned (κ := κ) r) (Clears r) where
  toSteady := steady look r
  fireHub _ he hub event :=
    (steady look r).within_fireHub he (fun h => of_firing h (by simp)) event
  apply resigned he q event := by
    by_cases hq : q = r
    · subst hq
      exact of_apply resigned he look event
    · exact (steady look r).within_apply he (fun h => of_firing h (by simpa using hq)) event
  destroy resigned he q := by
    by_cases hq : q = r
    · subst hq
      exact of_destroy resigned he look
    · exact (steady look r).within_destroy he fun h => of_firing h (by simpa using hq)
  dispatcher w f := of_spares (Nat.le_refl _) (.of_streams rfl rfl)
  dispatching w e h := of_spares (Nat.le_refl _) (.record (e.handed?_of_dispatching h r))
  enlist w id config := of_bears ⟨_, rfl, rfl⟩

end Clears

/-- The other ways to a teardown of the stream, from the system. Who is attached after them is who
is attached after the teardown that they come to. -/
structure Routes (env : Surroundings κ) (r : StreamRef) (w : System κ) : Prop where
  /-- The host reports the end. -/
  reported : (r.receive env .destroyed).left w = (r.destroy env).left w
  /-- A close inside the stream's context comes to it once the host has agreed. -/
  closed : ∀ x y, w.Agreed env r x → (r.isForeign env).on x = (.ok false, y) →
    (r.close env).left w = (r.destroy env).left y
  /-- The worker sees to it, be it by a queued teardown or because it ends. -/
  worked : ∀ id, w.dispatcher.registered? id = some r →
    ((Worker.tearDown env id).left w).attachments r =
      ((r.destroy env).left (w.struck id)).attachments r

section

variable (serves : env.Serves look manners)

include serves

/-- What the worker does beside the teardown itself has no part in who is attached. -/
theorem attachments_tearDown {id : StreamId} (known : w.dispatcher.registered? id = some r) :
    ((Worker.tearDown env id).left w).attachments r =
      ((r.destroy env).left (w.struck id)).attachments r := by
  have hTorn : (((r.destroy env).left (w.struck id)).status r).state = .destroyed := by
    by_cases live : ((w.struck id).status r).state = .destroyed
    · rw [System.left_destroy_of_torn live]
      exact live
    · exact StreamRef.torn_of_destroy serves (System.has_of_state_ne live)
  have hReleased {v : System κ} (hTorn : (v.status r).state = .destroyed) :
      ((r.release env).left v).attachments r = v.attachments r := by
    rw [System.left_release_of_torn hTorn, System.attachments, System.source_updateStream]
    split <;> rfl
  -- Whether or not a panic is counted, the stream is torn down when it is given up.
  have hContained : (((Worker.contained (r.destroy env)).left (w.struck id)).status r).state =
        .destroyed ∧
      ((Worker.contained (r.destroy env)).left (w.struck id)).attachments r =
        ((r.destroy env).left (w.struck id)).attachments r := by
    rcases left_contained (r.destroy env) (w.struck id) with hLeft | hLeft
    · rw [hLeft]
      exact ⟨hTorn, rfl⟩
    · rw [hLeft]
      exact ⟨hTorn, rfl⟩
  rw [Worker.tearDown, Act.left_bind_ok (System.on_remove_of_some known)]
  exact Act.holds_bind (P := fun v => v.attachments r = _) hContained.2 fun _ _ =>
    (hReleased hContained.1).trans hContained.2

/-- Every way to a teardown leads to the same one. -/
theorem routes (w : System κ) : Routes env r w where
  reported := by
    by_cases live : (w.status r).state = .destroyed
    · rw [Act.left, StreamRef.on_receive_of_spent (.inr live) (.inr live),
        System.left_destroy_of_torn live]
    · rw [Act.left, StreamRef.on_receive_of_end live]
      exact Act.left_bind_pure _ _ w
  closed x y agreed inside := by
    rw [Act.left, agreed.on_close]
    refine (Act.left_bind_pure _ _ x).trans ?_
    rw [Act.left, StreamRef.on_closeDown_of_inside inside]
    rfl
  worked id known := attachments_tearDown serves known

end

/-- However a teardown is come to, and whatever the sinks do, it leaves nobody attached if it
returns, and if it does not, a sink has cut it short. Where the sinks of a stream return from its
end, every teardown of it returns, and nobody is attached to it any more when it is torn down and
whatever did that is over. -/
theorem teardown_detaches (r : StreamRef) :
    (∀ (look : System κ → κ.Note) env, env.Serves look Surroundings.any → ∀ w, Routes env r w ∧
      ((w.status r).state ≠ .destroyed → Detaches look env r w)) ∧
    (∀ (look : System κ → κ.Note) env, env.Serves look (Surroundings.Resigned r) → ∀ w,
      (r.destroy env).Returns w ∧ (w.Cleared r → ((Worker.step env).left w).Cleared r ∧
        ∀ (α : Type) (c : Call κ α), ((c.run env).left w).Cleared r)) ∧
    ∀ (look : System κ → κ.Note) w, Reached look (Surroundings.Resigned r) w → w.Cleared r := by
  refine ⟨fun look env serves w => ⟨routes serves w, StreamRef.detaches serves⟩,
    fun look env serves w => ?_, fun look w ⟨client, hRun⟩ => ?_⟩
  · have hClears := Clears.unconcerned look r
    obtain ⟨resigned, within⟩ := hClears.sustained.serves serves
    refine ⟨Clears.returns_destroy resigned w, fun hCleared => ?_⟩
    refine ⟨(hClears.step resigned within w).cleared hCleared, fun α c => ?_⟩
    exact (hClears.sustained.call resigned within c w).cleared hCleared
  · exact ((Clears.unconcerned look r).run hRun).cleared fun _ => rfl

/-- Surroundings whose sinks panic at everything but the end. -/
def Surroundings.touchy : Surroundings Client.plain :=
  { obliging with
    deliver := fun _ _ event =>
      match event with
      | .destroyed => return true
      | _ => throw (.panic .value) }

/-- They return from the end. -/
theorem Surroundings.resigned_touchy (r : StreamRef) : touchy.Resigned r :=
  fun _ _ => ⟨true, rfl⟩

/-- They make no calls. -/
theorem Surroundings.serves_touchy (r : StreamRef) : touchy.Serves (fun _ => ()) (Resigned r) := by
  refine .intro (fun _ => False) (fun _ h => h.elim)
    ⟨fun _ _ event => ?_, fun _ _ => .pure _, fun _ _ _ => .pure _, fun _ _ => .pure _,
      fun _ => .pure _, .pure _, fun _ => .pure _, fun _ => .pure _⟩ (resigned_touchy r)
  cases event with
  | destroyed => exact .pure true
  | _ => exact .panic _

/-- A stream whose sinks have panicked at its creation is torn down. -/
def tornAnyway : System Client.plain :=
  (Call.each Surroundings.touchy [⟨_, .destroy ⟨0⟩⟩]).left (Surroundings.touchy.played twoSinks)

/-- Of a stream with two sinks, the teardown detaches both, though one has panicked before, and
where the first one panics at the end it is cut short. -/
theorem teardown_detaches_twoSinks :
    tornAnyway.deliveries ⟨0⟩ = [(⟨0⟩, .created), (⟨0⟩, .destroyed), (⟨1⟩, .destroyed)] ∧
    tornAnyway.Cleared ⟨0⟩ ∧
    ((⟨0⟩ : StreamRef).destroy Surroundings.touchy).Returns (Surroundings.touchy.played twoSinks) ∧
    Detaches (fun _ => ()) Surroundings.brittle ⟨0⟩ (Surroundings.obliging.played twoSinks) ∧
    (Surroundings.obliging.played twoSinks).CutShort Surroundings.brittle ⟨0⟩ (.panic .value) := by
  obtain ⟨hEach, hResigned, hReached⟩ := teardown_detaches (κ := Client.plain) ⟨0⟩
  have hDetaches := (hEach _ _ (Surroundings.serves_brittle trivial)
    (Surroundings.obliging.played twoSinks)).2 (by decide +kernel)
  have serves := Surroundings.serves_touchy ⟨0⟩
  have hTornAnyway : Reached (fun _ => ()) (Surroundings.Resigned ⟨0⟩) tornAnyway :=
    (Surroundings.reached_played serves _).act (.each serves _)
  exact ⟨by decide +kernel, hReached _ _ hTornAnyway,
    (hResigned _ _ serves _).1, hDetaches, hDetaches.halted _ (by decide +kernel)⟩

/-- Sinks stay attached to a stream that is torn down where one of them panics at the end. -/
theorem not_detached_brittle :
    ¬ ∀ (env : Surroundings Client.plain) (w : System Client.plain) (r : StreamRef),
      env.Serves (fun _ => ()) Surroundings.any → Reached (fun _ => ()) Surroundings.any w →
      (((r.destroy env).left w).source (.stream r)).size ((r.destroy env).left w).alive = 0 := by
  intro h
  have hDetached := h Surroundings.brittle (Surroundings.obliging.played twoSinks) ⟨0⟩
    (Surroundings.serves_brittle trivial)
    (Surroundings.reached_played (Surroundings.serves_obliging trivial) _)
  revert hDetached
  decide +kernel

end HostedStreams
