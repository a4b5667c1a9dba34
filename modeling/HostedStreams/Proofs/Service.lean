import HostedStreams.Proofs.Dialogue

/-! Streams speak the language of their service. That no request comes while the host makes up its
mind about a close is what takes care: the host may do to the stream whatever it likes meanwhile,
but the stream is marked as closing. A stream without handles is not marked while its transfer is
cancelled, but nobody can reach it any more. -/
namespace HostedStreams

variable {κ : Client}

/-- Only a transfer that was asked for can be cancelled. -/
theorem Status.requested_of_cancellable {s : Status} (h : s.cancellable = true) :
    s.requested = true := by
  simp only [cancellable, Bool.and_eq_true] at h
  exact h.1.1

namespace System

variable {v w : System κ} {r : StreamRef}

/-- Nothing is asked for a stream that was never made. -/
theorem has_of_requested (h : (w.status r).requested = true) : w.Has r := by
  refine Decidable.byContradiction fun hNot => ?_
  rw [status, stream_of_not_has hNot] at h
  cases h

/-- What is exchanged is part of the talk. -/
theorem exchanges_of_talk (h : v.talk = w.talk) (r : StreamRef) :
    v.exchanges r = w.exchanges r := by
  have hAmong (u : System κ) : u.exchanges r =
      (u.talk.filterMap fun e => (e.deed? r).bind (·.exchange?)).reverse := by
    rw [exchanges, Life.exchanges, life, talk, List.filterMap_filterMap, List.filterMap_filter]
    congr 2
    funext e
    cases e <;> simp only [Entry.deed?, Entry.talks, if_true, Bool.false_eq_true, if_false,
      Option.bind_none]
    split <;> rfl
  rw [hAmong, h, ← hAmong]

/-- What is exchanged is told by the entry that is written. -/
theorem exchanges_of_past {e : Entry κ.Note} (h : v.past = e :: w.past) (r : StreamRef) :
    v.exchanges r = w.exchanges r ++ ((e.deed? r).bind (·.exchange?)).toList := by
  have hDeeds := deeds_of_past (r := r) h
  cases hd : e.deed? r with
  | none =>
    rw [hd] at hDeeds
    rw [exchanges, Life.exchanges, hDeeds]
    simp [exchanges, Life.exchanges]
  | some d =>
    rw [hd] at hDeeds
    exact Life.exchanges_of_deeds hDeeds

/-- To be asked to cancel is answered in one of two ways. -/
theorem exchanges_answered {id : StreamId} {served : Bool}
    (answer : v.past = @Entry.hostAnswer _ id .cancel served r :: w.past) :
    v.exchanges r = w.exchanges r ++ [if served then .agreed else .refused] := by
  rw [exchanges_of_past answer]
  simp [Entry.deed?, Deed.exchange?]

/-- The stream has said nothing that it should not have, and nothing if it was never made. -/
structure Civil (w : System κ) (r : StreamRef) : Prop where
  made : w.Has r → (w.life r).Civil
  unmade : ¬ w.Has r → (w.life r).deeds = []

end System

/-- Nobody can reach a stream that has no handles. It is not torn down yet only while the host is
asked to cancel its transfer: the host answers, and nothing happens to the stream meanwhile. -/
def Surroundings.LeavesUnkept (r : StreamRef) (env : Surroundings κ) : Prop :=
  ∀ w : System κ, (w.stream r).handles = 0 → (w.status r).state ≠ .destroyed →
    (env.host.cancel (w.stream r).id).Returns w ∧
      ((env.host.cancel (w.stream r).id).left w).life r = w.life r

/-- What becomes of what a stream has said, from one moment to a later one. -/
structure Converses (r : StreamRef) (w v : System κ) : Prop where
  grows : w.streams.length ≤ v.streams.length
  civil : w.Civil r → v.Civil r
  requested : (w.status r).requested = true → (v.status r).requested = true
  spent : (w.status r).requested = true → (w.status r).Spent →
    (v.status r).Spent ∧ v.exchanges r = w.exchanges r

namespace Converses

variable {look : System κ → κ.Note} {r : StreamRef} {u v w : System κ}

theorem trans (first : Converses r u v) (second : Converses r v w) : Converses r u w where
  grows := Nat.le_trans first.grows second.grows
  civil h := second.civil (first.civil h)
  requested h := second.requested (first.requested h)
  spent asked h := by
    obtain ⟨hSpent, hSame⟩ := first.spent asked h
    obtain ⟨hSpent', hSame'⟩ := second.spent (first.requested asked) hSpent
    exact ⟨hSpent', hSame'.trans hSame⟩

/-- The life of a stream that is there is all that matters. -/
theorem of_life (made : w.Has r) (grows : w.streams.length ≤ v.streams.length)
    (life : (w.life r).Proceeds (v.life r)) : Converses r w v where
  grows := grows
  civil h := ⟨fun _ => life.civil (h.made made), absurd (Nat.lt_of_lt_of_le made grows)⟩
  requested := life.requested
  spent := life.spent

/-- Whatever happens without a word. -/
theorem of_moves (grows : w.streams.length ≤ v.streams.length) (moves : w.Moves v ∨ w.Bears v)
    (silent : v.exchanges r = w.exchanges r) : Converses r w v := by
  by_cases made : w.Has r
  · apply of_life made grows
    rcases System.Moves.life moves made with hSame | hMove
    · rw [hSame]
      exact .refl _
    · exact hMove.proceeds_of_silent silent
  · have hNever : ¬ (w.status r).requested = true := fun asked =>
      made (System.has_of_requested asked)
    refine ⟨grows, fun h => ?_, fun asked => absurd asked hNever,
      fun asked => absurd asked hNever⟩
    rcases moves with hMoves | hBears
    · obtain ⟨has, hSame | ⟨hMade, -⟩⟩ := hMoves r
      · exact ⟨fun new => absurd (has.1 new) made, fun _ => hSame ▸ h.unmade made⟩
      · exact absurd hMade made
    · refine ⟨fun new => ?_, fun _ => ?_⟩
      · obtain ⟨seekable, hLife⟩ := hBears.born made new
        rw [hLife, h.unmade made]
        exact .born seekable
      · obtain ⟨s, -, rfl⟩ := hBears
        exact h.unmade made

theorem refl (w : System κ) : Converses r w w :=
  of_moves (Nat.le_refl _) (.inl (.of_same (fun _ => Iff.rfl) fun _ => rfl)) rfl

theorem of_quiet (h : Quiet look w v) (silent : v.talk = w.talk) : Converses r w v :=
  of_moves h.grows h.moves (System.exchanges_of_talk silent r)

theorem of_firing {o : Origin} (h : Firing o w v) : Converses r w v :=
  of_moves h.grows (.inl h.moves) (System.exchanges_of_talk h.talk r)

/-- What the dispatcher and its worker do beside what calls do is no talk. -/
theorem of_deskwork (h : Deskwork w v) : Converses r w v :=
  of_moves h.grows h.moves (System.exchanges_of_talk h.talk r)

theorem smooth : Smooth (Converses (κ := κ) r) where
  refl := refl
  trans := trans
  doneWith _ _ :=
    of_moves (Nat.le_refl _) (.inl (.of_same (fun _ => Iff.rfl) fun _ => rfl)) rfl

/-- Anything but the cancelling of the stream's own transfer is asked for. -/
theorem of_request {q : StreamRef} {id : StreamId} {call : HostCall} (asked : Quiet look w v)
    (request : v.past = @Entry.hostCall _ id call q :: w.past) (other : q = r → call ≠ .cancel) :
    Converses r w v := by
  by_cases hq : q = r
  · subst hq
    obtain ⟨made, hMove, hDeeds⟩ := asked.move_of_request request
    exact of_life made asked.grows (hMove.proceeds_of_asked hDeeds (other rfl))
  · refine of_moves asked.grows asked.moves ?_
    rw [System.exchanges_of_past request]
    simp [Entry.deed?, hq]

/-- The host has answered anything but the cancelling of the stream's own transfer. -/
theorem of_answer {q : StreamRef} {id : StreamId} {call : HostCall} {served : Bool}
    (answered : Quiet look w v) (answer : v.past = @Entry.hostAnswer _ id call served q :: w.past)
    (other : q = r → call ≠ .cancel) : Converses r w v := by
  refine of_moves answered.grows answered.moves ?_
  rw [System.exchanges_of_past answer]
  by_cases hq : q = r
  · cases call with
    | cancel => exact absurd rfl (other hq)
    | _ => simp [Entry.deed?, Deed.exchange?, hq]
  · simp [Entry.deed?, hq]

/-- The host is asked to cancel the transfer, and the dialogue goes on from there. -/
theorem of_cancellable (grows : w.streams.length ≤ v.streams.length)
    (active : (w.status r).cancellable = true) (requested : (v.status r).requested = true)
    (said : Dialogue (w.exchanges r) true →
      ∃ more, Dialogue (v.exchanges r) more ∧ (more = true ∨ (v.status r).Spent)) :
    Converses r w v := by
  have hAsked := Status.requested_of_cancellable active
  have hUnspent := Status.not_spent_of_cancellable active
  refine ⟨grows, fun h => ⟨fun _ => ⟨fun new => ?_, fun _ => ?_⟩, fun new => ?_⟩,
    fun _ => requested, fun _ spent => absurd spent hUnspent⟩
  · have hNew : (v.status r).requested = false := new
    rw [requested] at hNew
    cases hNew
  · exact said ((h.made (System.has_of_requested hAsked)).ongoing hAsked hUnspent)
  · exact absurd (System.has_of_requested requested) new

section

variable {env : Surroundings κ} {y x : System κ} {q : StreamRef} {id : StreamId} {call : HostCall}

/-- While the host makes up its mind about a close nothing is said, because the stream is marked as
closing. -/
theorem withheld (asked : Quiet look w y)
    (request : y.past = @Entry.hostCall _ id .cancel r :: w.past)
    (marked : (y.status r).closing = true) (does : Converses r y v) :
    (w.status r).cancellable = true ∧ (v.status r).requested = true ∧ (v.status r).Spent ∧
      v.exchanges r = w.exchanges r ++ [.cancel] := by
  obtain ⟨-, hMove, hDeeds⟩ := asked.move_of_request request
  have hActive := hMove.cancellable hDeeds
  have hAsked : (y.status r).requested = true :=
    hMove.requested (Status.requested_of_cancellable hActive)
  obtain ⟨hSpent, hSame⟩ := does.spent hAsked (.inl marked)
  exact ⟨hActive, does.requested hAsked, hSpent, hSame.trans (Life.exchanges_of_deeds hDeeds)⟩

/-- The host is asked and panics. -/
theorem of_halted (asked : Quiet look w y)
    (request : y.past = @Entry.hostCall _ id call q :: w.past)
    (marked : call = .cancel → (y.status q).closing = true) (does : Converses r y v) :
    Converses r w v := by
  by_cases hOwn : q = r ∧ call = .cancel
  · obtain ⟨rfl, rfl⟩ := hOwn
    obtain ⟨hActive, hAsked, hSpent, hSaid⟩ := withheld asked request (marked rfl) does
    refine of_cancellable (Nat.le_trans asked.grows does.grows) hActive hAsked fun h =>
      ⟨false, ?_, .inr hSpent⟩
    rw [hSaid]
    exact h.cancel
  · exact (of_request asked request fun hq hCall => hOwn ⟨hq, hCall⟩).trans does

/-- The host is asked and has answered. -/
theorem of_ask {served : Bool} (asked : Quiet look w y)
    (request : y.past = @Entry.hostCall _ id call q :: w.past)
    (marked : call = .cancel → (y.status q).closing = true) (does : Converses r y u)
    (answered : Quiet look u x)
    (answer : x.past = @Entry.hostAnswer _ id call served q :: u.past) : Converses r w x := by
  by_cases hOwn : q = r ∧ call = .cancel
  · obtain ⟨rfl, rfl⟩ := hOwn
    obtain ⟨hActive, hAsked, hSpent, hSaid⟩ := withheld asked request (marked rfl) does
    have hDeeds : (x.life q).deeds = .answered .cancel served :: (u.life q).deeds := by
      rw [System.deeds_of_past answer]
      simp [Entry.deed?]
    have hMove : (u.life q).Move (x.life q) := by
      refine System.Moves.move answered.moves (System.has_of_requested hAsked) fun hNothing => ?_
      exact List.cons_ne_self _ _ (hDeeds.symm.trans hNothing)
    refine of_cancellable (Nat.le_trans asked.grows (Nat.le_trans does.grows answered.grows))
      hActive (hMove.requested hAsked) fun h => ⟨!served, ?_, ?_⟩
    · rw [System.exchanges_answered answer, hSaid]
      exact h.answered served
    · cases served with
      | true =>
        have hStatus : x.status q = u.status q := hMove.status_of_agreed hDeeds
        exact .inr (hStatus ▸ hSpent)
      | false => exact .inl rfl
  · -- What else is asked and answered is so whatever happens in between.
    have other (hq : q = r) (hCall : call = .cancel) : False := hOwn ⟨hq, hCall⟩
    exact ((of_request asked request other).trans does).trans (of_answer answered answer other)

variable (he : env.Within (Converses r))

include he

theorem within_destroy (q : StreamRef) : (q.destroy env).Within (Converses r) :=
  smooth.within_destroy he.deliver of_firing

/-- A stream that was asked for says nothing while it is torn down. -/
theorem silent_destroy (live : (w.status r).state ≠ .destroyed)
    (asked : (w.status r).requested = true) :
    (((r.destroy env).left w).status r).requested = true ∧
      (((r.destroy env).left w).status r).Spent ∧
        ((r.destroy env).left w).exchanges r = w.exchanges r := by
  have hRest : Converses r (w.tearing r) ((r.destroy env).left w) :=
    smooth.related_destroy he.deliver
      (fun a alive attached kept => of_firing (.hand _ .destroyed a alive attached kept))
      (fun _ => of_firing (.prune _)) (fun _ => of_firing (.clear r)) live
  have hStatus : (w.tearing r).status r = (w.status r).tornDown := by
    rw [System.tearing, System.status_record, System.status_updateStatus,
      if_pos ⟨rfl, System.has_of_state_ne live⟩]
  have hAsked : ((w.tearing r).status r).requested = true := by
    rw [hStatus]
    exact asked
  obtain ⟨hSpent, hSame⟩ := hRest.spent hAsked (.inr (by rw [hStatus]; rfl))
  exact ⟨hRest.requested hAsked, hSpent,
    hSame.trans (System.exchanges_of_talk (Firing.talk (.tearDown r live)) r)⟩

/-- The host was asked to cancel the transfer, which did nothing to the stream, and whatever it has
answered, the stream is torn down. -/
theorem of_aborted {served : Bool} (active : (w.status r).cancellable = true)
    (grows : w.streams.length ≤ u.streams.length) (same : u.life r = (w.aborting r).life r) :
    Converses r w
      ((r.destroy env).left (u.record (@Entry.hostAnswer _ id .cancel served r))) := by
  have hStatus : u.status r = w.status r := congrArg (·.status) same
  obtain ⟨hAsked, hSpent, hSilent⟩ := silent_destroy he
    (w := u.record (@Entry.hostAnswer _ id .cancel served r))
    (hStatus ▸ Status.state_ne_of_cancellable active)
    (hStatus ▸ Status.requested_of_cancellable active)
  have hDown := within_destroy he r (u.record (@Entry.hostAnswer _ id .cancel served r))
  refine of_cancellable (Nat.le_trans grows hDown.grows) active hAsked fun h =>
    ⟨!served, ?_, .inr hSpent⟩
  have hSaid : u.exchanges r = w.exchanges r ++ [.cancel] := by
    refine (congrArg (·.exchanges) same).trans ((System.exchanges_of_past rfl r).trans ?_)
    simp [Entry.deed?, Deed.exchange?, HostCall.exchange]
  rw [hSilent, System.exchanges_answered rfl, hSaid]
  exact h.answered served

/-- The last handle of a stream is gone. Its transfer is cancelled without a mark on the stream, but
nobody can reach it until it is torn down, whatever the host says. -/
theorem of_drop (look : System κ → κ.Note) (unkept : env.LeavesUnkept r) (grow : env.Grow)
    (gone : (w.stream q).handles = 0) : Converses r w ((q.drop env).left w) := by
  cases active : (w.status q).cancellable with
  | false =>
    rw [StreamRef.left_drop_of_settled active]
    exact within_destroy he q w
  | true =>
    have hLive := Status.state_ne_of_cancellable active
    have hGrows := grow.cancel (w.stream q).id (w.aborting q)
    rw [StreamRef.left_drop_of_cancellable active]
    by_cases hq : q = r
    · subst hq
      obtain ⟨⟨answer, hEnd⟩, hSame⟩ : (env.host.cancel (w.stream q).id).Returns (w.aborting q) ∧
          ((env.host.cancel (w.stream q).id).left (w.aborting q)).life q = (w.aborting q).life q :=
        unkept (w.aborting q) gone hLive
      rw [Act.left_bind_ok (Act.on_of_end hEnd), Act.left_modify_bind]
      exact of_aborted he active hGrows hSame
    · -- While the transfer of another stream is cancelled, this one may do as it likes.
      have other (h : q = r) : HostCall.cancel ≠ .cancel := absurd h hq
      have hAsked : Quiet look w (w.aborting q) := .abort q active
      have hDone := (of_request hAsked rfl other).trans (he.cancel (w.stream q).id (w.aborting q))
      apply Act.holds_bind hDone
      intro answer _
      have hStill := Nat.lt_of_lt_of_le (System.has_of_state_ne hLive) hGrows
      have hAnswered : Quiet look _ _ :=
        .answer q (w.stream q).id .cancel answer.isOk hStill (by simp)
      exact hDone.trans ((of_answer hAnswered rfl other).trans (within_destroy he q _))

theorem conveys (look : System κ → κ.Note) (unkept : env.LeavesUnkept r) :
    Conveys look env (fun _ _ => True) Deskwork (Converses (κ := κ) r) where
  refl := refl
  trans := trans
  does := he
  quiet := of_quiet
  ask := of_ask
  halted := of_halted
  drop gone grow _ := of_drop he look unkept grow gone
  fireHub _ event := smooth.within_fireHub he.deliver of_firing event
  apply event _ := smooth.within_apply he.deliver of_firing event _
  destroy _ := within_destroy he _ _
  own := of_deskwork

end

theorem pervades (look : System κ → κ.Note) (r : StreamRef) :
    Pervades look (Surroundings.LeavesUnkept r) (Converses (κ := κ) r) where
  refl := refl
  trans := trans
  remember w f := of_quiet (.remember f : Quiet look w _) rfl
  note w := of_quiet (.note : Quiet look w _) rfl
  conveys unkept he := conveys he look unkept

end Converses

/-- A stream that is started before anything else reaches it has been asked for ever since. -/
theorem StreamRef.requested_of_start {look : System κ → κ.Note} {manners : Surroundings κ → Prop}
    {env : Surroundings κ} {r : StreamRef} {w v : System κ} (serves : env.Serves look manners)
    (state : (w.status r).state = .created) (later : Run look manners ((r.start env).left w) v) :
    (v.status r).requested = true := by
  have hMade : w.Has r := System.has_of_state_ne (by rw [state]; simp)
  have hLaunches := Launches.serves serves
  have hStarted : ((r.start env).left w).Has r ∧
      (((r.start env).left w).status r).requested = true := by
    cases new : (w.status r).requested with
    | false =>
      have hStart := Launches.start hLaunches new state
      refine ⟨Nat.lt_of_lt_of_le ((w.has_launching r r).2 hMade) hStart.grows, ?_⟩
      exact hStart.requested ((w.has_launching r r).2 hMade) (by rw [System.status_launching hMade])
    | true =>
      have hStart := Launches.call look hLaunches serves.grow (.start r) w
      exact ⟨Nat.lt_of_lt_of_le hMade hStart.grows, hStart.requested hMade new⟩
  exact (Launches.run later).requested hStarted.1 hStarted.2

/-- A stream that is started before an event, a close or its teardown reaches it is asked for ever
since. Whatever else reaches it, and whatever the host answers and does meanwhile, a stream that was
asked for says what belongs to its service and nothing else. No stream asks for anything where it
should not. -/
theorem calls_in_course (r : StreamRef) :
    (∀ (look : System κ → κ.Note) (manners : Surroundings κ → Prop) (env : Surroundings κ)
        (w v : System κ), env.Serves look manners → (w.status r).state = .created →
      Run look manners ((r.start env).left w) v → (v.status r).requested = true) ∧
    (∀ (look : System κ → κ.Note) (w : System κ), Reached look (Surroundings.LeavesUnkept r) w →
      (w.status r).requested = true → w.exchanges r ∈ serviceCourse.matches') ∧
    Always (κ := κ) Surroundings.any fun w => (w.life r).Restrained := by
  refine ⟨fun look manners env w v serves => StreamRef.requested_of_start serves,
    fun look w ⟨client, hRun⟩ asked => ?_,
    (Always.lived _).mono fun w h => System.AllLived.restrained h r⟩
  have hConverses : Converses r { client } w :=
    (Converses.pervades look r).run (fun _ f => .of_deskwork (.dispatcher f)) hRun
  have hOutset : ({ client } : System κ).Civil r :=
    ⟨fun made => absurd made (Nat.not_lt_zero _), fun _ => rfl⟩
  obtain ⟨more, hDialogue, -⟩ :=
    ((hConverses.civil hOutset).made (System.has_of_requested asked)).asked asked
  exact hDialogue.mem_serviceCourse

namespace Surroundings

/-- Surroundings in which the host does not let go of a stream. -/
def clinging : Surroundings Client.plain :=
  { obliging with host := { obliging.host with
      cancel := fun _ => pure (.error (.rejected "close" "busy")) } }

/-- Surroundings in which the host writes to a stream and tries to close it when it is to read. -/
def restless : Surroundings Client.plain :=
  { obliging with host := { obliging.host with
      requestRanges := fun _ _ _ => do
        let _ ← StreamRef.write clinging ⟨0⟩ [1]
        let _ ← StreamRef.close clinging ⟨0⟩
        return .ok () } }

/-- The host makes its calls in surroundings that cling to no stream. -/
theorem serves_restless (r : StreamRef) : restless.Serves (fun _ => ()) (LeavesUnkept r) := by
  have hClinging : clinging.Serves (fun _ => ()) (LeavesUnkept r) :=
    .intro (fun _ => False) (fun _ h => h.elim)
      ⟨fun _ _ _ => .pure _, fun _ _ => .pure _, fun _ _ _ => .pure _, fun _ _ => .pure _,
        fun _ => .pure _, .pure _, fun _ => .pure _, fun _ => .pure _⟩
      fun _ _ _ => ⟨⟨_, rfl⟩, rfl⟩
  refine .intro (· = clinging) (fun _ h => h ▸ hClinging)
    ⟨fun _ _ _ => .pure _, fun _ _ => .pure _, fun _ _ _ => ?_, fun _ _ => .pure _,
      fun _ => .pure _, .pure _, fun _ => .pure _, fun _ => .pure _⟩
    fun _ _ _ => ⟨⟨_, rfl⟩, rfl⟩
  have hWrite : Conduct (fun _ => ()) (· = clinging) (StreamRef.write clinging ⟨0⟩ [1]) :=
    .call (by rfl) (.write ⟨0⟩ [1])
  have hClose : Conduct (fun _ => ()) (· = clinging) (StreamRef.close clinging ⟨0⟩) :=
    .call (by rfl) (.close ⟨0⟩)
  exact .bind hWrite fun _ => .bind hClose fun _ => .pure _

end Surroundings

/-- A stream is opened, read and closed, and nothing comes of what is tried afterwards. -/
def service : List ((α : Type) × Call Client.plain α) :=
  [⟨_, .makeStream (.drawn 0) { url := "", seekable := true } false⟩, ⟨_, .start ⟨0⟩⟩,
    ⟨_, .receive ⟨0⟩ .created⟩, ⟨_, .receive ⟨0⟩ (.opened {})⟩, ⟨_, .readRange ⟨0⟩ 0 1⟩,
    ⟨_, .close ⟨0⟩⟩, ⟨_, .readRange ⟨0⟩ 0 1⟩, ⟨_, .close ⟨0⟩⟩, ⟨_, .start ⟨0⟩⟩]

/-- A write and a vain close come out of the read, and the calls after the last close say nothing.
-/
theorem calls_in_course_restless :
    (Surroundings.restless.played service).exchanges ⟨0⟩ =
      [.start, .requestRanges, .write, .cancel, .refused, .cancel, .agreed] ∧
    (Surroundings.restless.played service).exchanges ⟨0⟩ ∈ serviceCourse.matches' ∧
    (((StreamRef.start Surroundings.restless ⟨0⟩).left
      (Surroundings.restless.played (service.take 1))).status ⟨0⟩).requested = true :=
  ⟨by decide +kernel,
    (calls_in_course ⟨0⟩).2.1 _ _
      (Surroundings.reached_played (Surroundings.serves_restless ⟨0⟩) service) (by decide +kernel),
    (calls_in_course ⟨0⟩).1 _ _ _ _ _ (Surroundings.serves_restless ⟨0⟩) (by decide +kernel) .refl⟩

end HostedStreams
