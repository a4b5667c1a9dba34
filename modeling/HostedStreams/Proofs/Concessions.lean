import HostedStreams.Proofs.Closes
import HostedStreams.Proofs.Dialogue

/-! Any number of closes. However often a stream is closed, and at whatever depth of calls, the host
agrees to cancel its transfer once at most, one teardown is queued at most, and the stream is torn
down once. What takes care of the first two is that a stream whose close was accepted is spent for
good, unless the host still refuses what it was asked for before. -/
namespace HostedStreams

variable {κ : Client}

/-- What the host has answered to being asked to cancel the transfer, if the deed is such an
answer. -/
def Deed.ruling? : Deed → Option Bool
  | .answered .cancel served => some served
  | .answered .. | .asked _ | .pass .. => none

namespace System

variable {r : StreamRef} {u v w : System κ}

/-- What the host has answered to closes of the stream, the latest answer first. -/
def rulings (w : System κ) (r : StreamRef) : List Bool :=
  (w.life r).deeds.filterMap (·.ruling?)

/-- What the host rules is among its answers. -/
theorem rulings_of_answers (h : v.answers = w.answers) (r : StreamRef) :
    v.rulings r = w.rulings r := by
  have hAmong (u : System κ) :
      u.rulings r = (u.answers.filterMap (·.deed? r)).filterMap (·.ruling?) := by
    rw [rulings, ← answered_life, List.filterMap_filter]
    congr 1
    funext deed
    cases deed <;> rfl
  rw [hAmong, h, ← hAmong]

/-- A ruling is told by the entry that is written. -/
theorem rulings_of_past {e : Entry κ.Note} (h : v.past = e :: w.past) (r : StreamRef) :
    v.rulings r = ((e.deed? r).bind (·.ruling?)).toList ++ w.rulings r := by
  rw [rulings, deeds_of_past h, List.filterMap_append]
  cases e.deed? r with
  | none => rfl
  | some deed => cases hRuling : deed.ruling? <;> simp [hRuling, rulings]

/-- Rulings are never taken back. -/
theorem rulings_grow (h : w.past <:+ v.past) (r : StreamRef) : w.rulings r <:+ v.rulings r :=
  (h.filterMap _).filterMap _

/-- The host has agreed to no close of the stream so far, or to one, and then the stream is spent.
-/
def Conceded (r : StreamRef) (w : System κ) : Prop :=
  (w.rulings r).count true = 0 ∨
    w.Has r ∧ (w.status r).Spent ∧ (w.rulings r).count true = 1

/-- The host has agreed to no close of a stream that is not spent. -/
theorem Conceded.of_not_spent (h : w.Conceded r) (unspent : ¬ (w.status r).Spent) :
    (w.rulings r).count true = 0 :=
  h.resolve_right fun ⟨_, spent, _⟩ => unspent spent

/-- The host agrees once at most. -/
theorem Conceded.le (h : w.Conceded r) : (w.rulings r).count true ≤ 1 := by
  rcases h with hNone | ⟨-, -, hOne⟩ <;> omega

end System

/-- What becomes of what the host has agreed to, from one moment to a later one. -/
structure Concedes (r : StreamRef) (w v : System κ) : Prop where
  grows : w.streams.length ≤ v.streams.length
  conceded : w.Conceded r → v.Conceded r
  spent : w.Has r → (w.status r).Spent → (v.status r).Spent ∧ v.rulings r = w.rulings r

namespace Concedes

variable {look : System κ → κ.Note} {r : StreamRef} {u v w : System κ}

theorem trans (first : Concedes r u v) (second : Concedes r v w) : Concedes r u w where
  grows := Nat.le_trans first.grows second.grows
  conceded h := second.conceded (first.conceded h)
  spent made h := by
    obtain ⟨hSpent, hSame⟩ := first.spent made h
    obtain ⟨hSpent', hSame'⟩ := second.spent (Nat.lt_of_lt_of_le made first.grows) hSpent
    exact ⟨hSpent', hSame'.trans hSame⟩

/-- Whatever happens without an answer to a close of the stream. -/
theorem of_moves (grows : w.streams.length ≤ v.streams.length) (moves : w.Moves v ∨ w.Bears v)
    (same : v.rulings r = w.rulings r) : Concedes r w v := by
  have hSpent (made : w.Has r) (spent : (w.status r).Spent) : (v.status r).Spent := by
    refine (System.Moves.wanes moves made spent fun hRefused => ?_).spent
    have hLength := congrArg List.length same
    simp [System.rulings, hRefused, Deed.ruling?] at hLength
  refine ⟨grows, fun h => ?_, fun made spent => ⟨hSpent made spent, same⟩⟩
  rw [System.Conceded, same]
  exact h.imp_right fun ⟨made, spent, hOne⟩ =>
    ⟨Nat.lt_of_lt_of_le made grows, hSpent made spent, hOne⟩

theorem refl (w : System κ) : Concedes r w w :=
  of_moves (Nat.le_refl _) (.inl (.of_same (fun _ => Iff.rfl) fun _ => rfl)) rfl

theorem of_quiet (h : Quiet look w v) (silent : v.answers = w.answers) : Concedes r w v :=
  of_moves h.grows h.moves (System.rulings_of_answers silent r)

theorem of_firing {o : Origin} (h : Firing o w v) : Concedes r w v :=
  of_moves h.grows (.inl h.moves) (System.rulings_of_answers h.answers r)

theorem of_deskwork (h : Deskwork w v) : Concedes r w v :=
  of_moves h.grows h.moves (System.rulings_of_answers (System.answers_of_talk h.talk) r)

theorem smooth : Smooth (Concedes (κ := κ) r) where
  refl := refl
  trans := trans
  doneWith _ _ :=
    of_moves (Nat.le_refl _) (.inl (.of_same (fun _ => Iff.rfl) fun _ => rfl)) rfl

/-- The host is asked for something. -/
theorem of_request {q : StreamRef} {id : StreamId} {call : HostCall} (asked : Quiet look w v)
    (request : v.past = @Entry.hostCall _ id call q :: w.past) : Concedes r w v :=
  of_quiet asked (by rw [System.answers, request]; rfl)

/-- The host has answered something else than a close of the stream. -/
theorem of_answer {q : StreamRef} {id : StreamId} {call : HostCall} {served : Bool}
    (answered : Quiet look w v) (answer : v.past = @Entry.hostAnswer _ id call served q :: w.past)
    (other : q = r → call ≠ .cancel) : Concedes r w v := by
  refine of_moves answered.grows answered.moves ?_
  rw [System.rulings_of_past answer]
  by_cases hq : q = r
  · cases call with
    | cancel => exact absurd rfl (other hq)
    | _ => simp [Entry.deed?, Deed.ruling?, hq]
  · simp [Entry.deed?, hq]

/-- From a stream that is not spent the host has heard of no close that it agreed to, and it may
agree to this one if the stream is spent then. -/
theorem of_unspent (grows : w.streams.length ≤ v.streams.length) (unspent : ¬ (w.status r).Spent)
    (conceded : (w.rulings r).count true = 0 → v.Conceded r) : Concedes r w v :=
  ⟨grows, fun h => conceded (h.of_not_spent unspent), fun _ spent => absurd spent unspent⟩

section

variable {env : Surroundings κ} {y x : System κ} {q : StreamRef} {id : StreamId} {call : HostCall}

/-- The host is asked and has answered. While it makes up its mind about a close the stream is
marked, and so no other close asks for anything. -/
theorem of_ask {served : Bool} (asked : Quiet look w y)
    (request : y.past = @Entry.hostCall _ id call q :: w.past)
    (marked : call = .cancel → (y.status q).closing = true) (does : Concedes r y u)
    (answered : Quiet look u x)
    (answer : x.past = @Entry.hostAnswer _ id call served q :: u.past) : Concedes r w x := by
  by_cases hOwn : q = r ∧ call = .cancel
  · obtain ⟨rfl, rfl⟩ := hOwn
    obtain ⟨made, hMove, hDeeds⟩ := asked.move_of_request request
    have hMade : y.Has q := Nat.lt_of_lt_of_le made asked.grows
    have hThere : u.Has q := Nat.lt_of_lt_of_le hMade does.grows
    obtain ⟨hSpent, hSame⟩ := does.spent hMade (.inl (marked rfl))
    refine of_unspent (Nat.le_trans asked.grows (Nat.le_trans does.grows answered.grows))
      (Status.not_spent_of_cancellable (hMove.cancellable hDeeds)) fun hNone => ?_
    have hBefore : (u.rulings q).count true = 0 := by
      rw [hSame, System.rulings_of_past request]
      simpa [Entry.deed?, Deed.ruling?] using hNone
    have hRuling : x.rulings q = served :: u.rulings q := by
      rw [System.rulings_of_past answer]
      simp [Entry.deed?, Deed.ruling?]
    cases served with
    | false => exact .inl (by rw [hRuling]; simpa using hBefore)
    | true =>
      have hAnswer : (x.life q).deeds = .answered .cancel true :: (u.life q).deeds := by
        rw [System.deeds_of_past answer]
        simp [Entry.deed?]
      have hAnswered : (u.life q).Move (x.life q) := by
        refine System.Moves.move answered.moves hThere fun hNothing => ?_
        exact List.cons_ne_self _ _ (hAnswer.symm.trans hNothing)
      have hStatus : x.status q = u.status q := hAnswered.status_of_agreed hAnswer
      refine .inr ⟨Nat.lt_of_lt_of_le hThere answered.grows, hStatus ▸ hSpent, ?_⟩
      rw [hRuling, List.count_cons_self, hBefore]
  · have other (hq : q = r) (hCall : call = .cancel) : False := hOwn ⟨hq, hCall⟩
    exact ((of_request asked request).trans does).trans (of_answer answered answer other)

variable (he : env.Within (Concedes r))

include he

theorem within_destroy (q : StreamRef) : (q.destroy env).Within (Concedes r) :=
  smooth.within_destroy he.deliver of_firing

/-- A stream is spent after its teardown, and nobody has asked the host for anything since the
teardown began. -/
theorem spent_destroy (live : (w.status r).state ≠ .destroyed) :
    (((r.destroy env).left w).status r).Spent ∧
      ((r.destroy env).left w).rulings r = w.rulings r := by
  have hRest : Concedes r (w.tearing r) ((r.destroy env).left w) :=
    smooth.related_destroy he.deliver
      (fun a alive attached kept => of_firing (.hand _ .destroyed a alive attached kept))
      (fun _ => of_firing (.prune _)) (fun _ => of_firing (.clear r)) live
  have hBegun : Firing (.stream r) w (w.tearing r) := .tearDown r live
  obtain ⟨hMade, hTorn⟩ := System.torn_tearing live
  obtain ⟨hSpent, hSame⟩ := hRest.spent hMade (.inr hTorn)
  exact ⟨hSpent, hSame.trans (System.rulings_of_answers hBegun.answers r)⟩

/-- The host was asked to cancel the transfer and left the stream alone. Whatever it has answered,
the stream is torn down. -/
theorem of_aborted {served : Bool} (active : (w.status r).cancellable = true)
    (alone : (w.aborting r).Unmoved r u) (grows : w.streams.length ≤ u.streams.length) :
    Concedes r w
      ((r.destroy env).left (u.record (@Entry.hostAnswer _ id .cancel served r))) := by
  have live := Status.state_ne_of_cancellable active
  have hStatus : u.status r = w.status r := congrArg (·.status) alone.stream
  have hSame : u.rulings r = w.rulings r := by
    refine (congrArg (List.filterMap _) alone.deeds).trans ?_
    exact System.rulings_of_answers (w := w) (v := w.aborting r) rfl r
  have hLive : ((u.record (@Entry.hostAnswer _ id .cancel served r)).status r).state ≠ .destroyed :=
    hStatus ▸ live
  obtain ⟨hSpent, hStill⟩ := spent_destroy he hLive
  have hDown := within_destroy he r (u.record (@Entry.hostAnswer _ id .cancel served r))
  have hGrows := Nat.le_trans grows hDown.grows
  have hMade : ((r.destroy env).left (u.record (@Entry.hostAnswer _ id .cancel served r))).Has r :=
    Nat.lt_of_lt_of_le (System.has_of_state_ne live) hGrows
  refine of_unspent hGrows (Status.not_spent_of_cancellable active) fun hNone => ?_
  have hRuling : ((r.destroy env).left
      (u.record (@Entry.hostAnswer _ id .cancel served r))).rulings r = served :: w.rulings r := by
    rw [hStill, System.rulings_of_past rfl, hSame]
    simp [Entry.deed?, Deed.ruling?]
  cases served with
  | false => exact .inl (by rw [hRuling]; simpa using hNone)
  | true => exact .inr ⟨hMade, hSpent, by rw [hRuling, List.count_cons_self, hNone]⟩

/-- The last handle of a stream is gone. Its transfer is cancelled without a mark on the stream, but
a host that leaves the stream alone does not close it meanwhile. -/
theorem of_drop (look : System κ → κ.Note) (reticent : env.Reticent r) (grow : env.Grow)
    (q : StreamRef)
    (w : System κ) : Concedes r w ((q.drop env).left w) := by
  cases active : (w.status q).cancellable with
  | false =>
    rw [StreamRef.left_drop_of_settled active]
    exact within_destroy he q w
  | true =>
    have live := Status.state_ne_of_cancellable active
    have hAsked : Quiet look w (w.aborting q) := .abort q active
    have hDone := (of_request hAsked rfl).trans (he.cancel (w.stream q).id (w.aborting q))
    have hGrows := grow.cancel (w.stream q).id (w.aborting q)
    rw [StreamRef.left_drop_of_cancellable active]
    apply Act.holds_bind hDone
    intro answer _
    rw [Act.left_modify_bind]
    by_cases hq : q = r
    · subst hq
      exact of_aborted he active (reticent (w.aborting q)) hGrows
    · have hStill := Nat.lt_of_lt_of_le (System.has_of_state_ne live) hGrows
      have hAnswered : Quiet look _ _ :=
        .answer q (w.stream q).id .cancel answer.isOk hStill (by simp)
      exact hDone.trans
        ((of_answer hAnswered rfl fun h => absurd h hq).trans (within_destroy he q _))

theorem conveys (look : System κ → κ.Note) (reticent : env.Reticent r) :
    Conveys look env (fun _ _ => True) Deskwork (Concedes (κ := κ) r) where
  refl := refl
  trans := trans
  does := he
  quiet h silent := of_quiet h (System.answers_of_talk silent)
  ask := of_ask
  halted asked request _ does := (of_request asked request).trans does
  drop _ grow _ := of_drop he look reticent grow _ _
  fireHub _ event := smooth.within_fireHub he.deliver of_firing event
  apply event _ := smooth.within_apply he.deliver of_firing event _
  destroy _ := within_destroy he _ _
  own := of_deskwork

end

theorem pervades (look : System κ → κ.Note) (r : StreamRef) :
    Pervades look (Surroundings.Reticent r) (Concedes (κ := κ) r) where
  refl := refl
  trans := trans
  remember w f := of_quiet (.remember f : Quiet look w _) rfl
  note w := of_quiet (.note : Quiet look w _) rfl
  conveys reticent he := conveys he look reticent

end Concedes

/-- Where the host leaves the stream alone, it has agreed to one close of it at most. -/
theorem System.Conceded.of_reached {look : System κ → κ.Note} {r : StreamRef} {w : System κ}
    (h : Reached look (Surroundings.Reticent r) w) : w.Conceded r := by
  obtain ⟨client, hRun⟩ := h
  have hConcedes : Concedes r { client } w :=
    (Concedes.pervades look r).run (fun _ f => .of_deskwork (.dispatcher f)) hRun
  exact hConcedes.conceded (.inl rfl)

section

variable {look : System κ → κ.Note} {manners : Surroundings κ → Prop} {env : Surroundings κ}
  {r : StreamRef} {u v w z : System κ}

/-- A close that is made in `w` queues the stream's teardown, and leaves `z` behind. -/
structure StreamRef.Schedules (r : StreamRef) (env : Surroundings κ) (w z : System κ) : Prop where
  free : (w.status r).closing = false
  queued : ∃ x y, w.Agreed env r x ∧ (r.isForeign env).on x = (.ok true, y) ∧
    (r.scheduleTeardown env).on y = (.ok true, z)

namespace StreamRef.Schedules

/-- A close that queues a teardown has been agreed to. -/
theorem on_close (h : r.Schedules env w z) : (r.close env).on w = (.ok (.ok ()), z) := by
  obtain ⟨x, y, agreed, outside, takes⟩ := h.queued
  rw [agreed.on_close, h.free, Act.on_bind_ok (on_closeDown_of_scheduled outside takes)]
  rfl

/-- A stream whose teardown is queued is spent. -/
theorem spent (serves : env.Serves look manners) (h : r.Schedules env w z) :
    z.Has r ∧ (z.status r).Spent := by
  obtain ⟨x, y, agreed, -⟩ := h.queued
  have hSpent := spent_of_close serves agreed.made (congrArg Prod.fst h.on_close)
  rwa [Act.left, h.on_close] at hSpent

/-- No teardown is queued for a stream that is spent. -/
theorem not_spent (h : r.Schedules env w z) : ¬ (w.status r).Spent := by
  obtain ⟨x, y, agreed, -⟩ := h.queued
  rintro (closing | torn)
  · rw [h.free] at closing
    cases closing
  · exact agreed.live torn

end StreamRef.Schedules

/-- Whatever the steps are, a spent stream stays so, unless the host refuses a close of it. -/
theorem Steps.spent (h : Steps look w v) (made : w.Has r) (spent : (w.status r).Spent)
    (kept : (v.rulings r).count false = (w.rulings r).count false) : (v.status r).Spent := by
  induction h with
  | refl => exact spent
  | @tail u v before step ih =>
    have hBefore := (System.rulings_grow (Steps.past before) r).count_le false
    have hStep := (System.rulings_grow (Steps.past (.single step)) r).count_le false
    have hThere := Nat.lt_of_lt_of_le made ((Steps.steady look).grows before)
    refine (System.Moves.wanes step.moves hThere (ih (by omega)) fun hRefused => ?_).spent
    have hMore : (v.rulings r).count false = (u.rulings r).count false + 1 := by
      simp [System.rulings, hRefused, Deed.ruling?]
    omega

end

/-- What is promised of any number of closes of the stream. -/
structure Closings (κ : Client) (r : StreamRef) : Prop where
  each : ∀ (look : System κ → κ.Note) (manners : Surroundings κ → Prop) (env : Surroundings κ)
    (w : System κ), env.Serves look manners → w.Closes env r
  /-- The host agrees once at most. -/
  agreed : ∀ (look : System κ → κ.Note) (w : System κ),
    Reached look (Surroundings.Reticent r) w → (w.rulings r).count true ≤ 1
  /-- No close queues a teardown in a run that goes on from where another one has queued it. -/
  queued : ∀ (look : System κ → κ.Note) (manners : Surroundings κ → Prop)
    (env other : Surroundings κ) (w z v u : System κ), env.Serves look manners →
    r.Schedules env w z → Run look manners z v → ¬ r.Schedules other v u
  /-- Nor does any close in the middle of calls, unless the host first refuses what it was asked
  for before. -/
  queuedWithin : ∀ (look : System κ → κ.Note) (manners : Surroundings κ → Prop)
    (env other : Surroundings κ) (w z v u : System κ), env.Serves look manners →
    r.Schedules env w z → Steps look z v →
      (v.rulings r).count false = (z.rulings r).count false → ¬ r.Schedules other v u
  /-- The stream fires its end once at most. -/
  torn : Always (κ := κ) Surroundings.any fun w =>
    ((w.passes r).map (·.1.kind)).count .destroyed ≤ 1

/-- What is promised of closes is kept, of each and of any number of them. -/
theorem closings_kept (r : StreamRef) : Closings κ r where
  each _ _ _ w serves := System.closes_of_serves serves w r
  agreed _ _ reached := (System.Conceded.of_reached reached).le
  queued look manners _ _ _ _ _ _ serves schedules later again := by
    obtain ⟨hMade, hSpent⟩ := schedules.spent serves
    have hLater := (Ebb.pervades look r).run (fun _ _ => .of_deskwork (.dispatcher _)) later
    exact again.not_spent (hLater.spent hMade hSpent)
  queuedWithin look manners _ _ _ _ _ _ serves schedules later kept again := by
    obtain ⟨hMade, hSpent⟩ := schedules.spent serves
    exact again.not_spent (later.spent hMade hSpent kept)
  torn := (Always.lived _).mono fun w h => (h.orderly r).once

/-- A host that defers the teardown leaves the stream alone. -/
theorem Surroundings.reticent_deferring (r : StreamRef) :
    deferring.Serves (fun _ => ()) (Reticent r) :=
  .intro (fun _ => False) (fun _ h => h.elim)
    ⟨fun _ _ _ => .pure _, fun _ _ => .pure _, fun _ _ _ => .pure _, fun _ _ => .pure _,
      fun _ => .pure _, .pure _, fun _ => .pure _, fun _ => .pure _⟩ fun w => .refl r w

/-- An open transfer of a stream that has a context. -/
def transferring : List ((α : Type) × Call Client.plain α) :=
  [⟨_, .makeStream (.drawn 0) { url := "" } true⟩, ⟨_, .start ⟨0⟩⟩, ⟨_, .receive ⟨0⟩ (.opened {})⟩]

/-- It is closed from outside the context, and once more. -/
theorem closings_kept_transferring :
    ((Surroundings.deferring.played (transferring ++ [⟨_, .close ⟨0⟩⟩, ⟨_, .close ⟨0⟩⟩])).rulings
      ⟨0⟩ = [true]) ∧
    ((Surroundings.deferring.played (transferring ++ [⟨_, .close ⟨0⟩⟩, ⟨_, .close ⟨0⟩⟩])).rulings
      ⟨0⟩).count true ≤ 1 ∧
    ∀ u, ¬ StreamRef.Schedules ⟨0⟩ Surroundings.deferring
      ((StreamRef.close Surroundings.deferring ⟨0⟩).left
        (Surroundings.deferring.played transferring)) u := by
  have hServes := Surroundings.reticent_deferring ⟨0⟩
  have hActive : ((Surroundings.deferring.played transferring).status ⟨0⟩).cancellable = true := by
    decide +kernel
  have hFirst : StreamRef.Schedules ⟨0⟩ Surroundings.deferring
      (Surroundings.deferring.played transferring)
      ((StreamRef.close Surroundings.deferring ⟨0⟩).left
        (Surroundings.deferring.played transferring)) :=
    ⟨by decide +kernel, _, _, .granted hActive rfl, rfl, rfl⟩
  exact ⟨by decide +kernel,
    (closings_kept ⟨0⟩).agreed _ _ (Surroundings.reached_played hServes _),
    fun u => (closings_kept ⟨0⟩).queued _ _ _ _ _ _ _ _ hServes hFirst .refl⟩

end HostedStreams
