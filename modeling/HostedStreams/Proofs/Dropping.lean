import HostedStreams.Proofs.Modest
import HostedStreams.Proofs.Multicast
import HostedStreams.Proofs.Teardown

/-! The last handle of a stream is given up. What is done then is written down beside what a close
does, and comes to the same: it asks the host to cancel the same transfers, and tears the stream
down. It differs in what it leaves undone. It does not mark the stream as closing, which would be
seen by a host that looks at the stream while it is asked. It does not go by what the host answers,
so a refusal that ends a close does not end it. And it does not look for the stream's context. -/
namespace HostedStreams

variable {κ : Client} {α : Type} {look : System κ → κ.Note} {manners : Surroundings κ → Prop}
  {env : Surroundings κ} {r : StreamRef} {u v w x y : System κ}

namespace Act.Oblivious

theorem pure (x : α) : Oblivious r (pure x : Act κ α) :=
  fun _ _ => rfl

variable {a : Act κ α}

/-- The action comes to the same whatever is done to the stream before. -/
theorem on (h : a.Oblivious r) {ended : Except Halt α} (hEnd : a.on w = (ended, u))
    (f : Stream → Stream) : a.on (w.updateStream r f) = (ended, u.updateStream r f) := by
  rw [h w f, Act.left, hEnd]

/-- What comes of an oblivious action is the same for whatever the stream is like. -/
theorem left (h : a.Oblivious r) (w : System κ) (f : Stream → Stream) :
    a.left (w.updateStream r f) = (a.left w).updateStream r f :=
  congrArg Prod.snd (h w f)

/-- The stream stays what it is. -/
theorem stream (h : a.Oblivious r) (made : (a.left w).Has r) :
    (a.left w).stream r = w.stream r := by
  have hSame : a.left w = (a.left w).updateStream r fun _ => w.stream r := by
    rw [← h.left, System.updateStream_of_eq rfl]
  calc (a.left w).stream r
      = ((a.left w).updateStream r fun _ => w.stream r).stream r := by rw [← hSame]
    _ = w.stream r := by rw [System.stream_updateStream, if_pos ⟨rfl, made⟩]

/-- Nothing is heard of the stream, and it asks the host for nothing. To see this the stream is torn
down beforehand, which does not matter to the action, and after which only little can happen. -/
theorem still (h : a.Oblivious r) (ebb : a.Within (Ebb r)) (made : w.Has r) :
    w.Still r (a.left w) ∧ (a.left w).asked r = w.asked r := by
  have hMade : (w.updateStatus r Status.tornDown).Has r := (w.has_updateStatus r r _).2 made
  have hTorn : ((w.updateStatus r Status.tornDown).status r).state = .destroyed := by
    rw [System.status_updateStatus, if_pos ⟨rfl, made⟩]
    rfl
  have hLeft : a.left (w.updateStatus r Status.tornDown) =
      (a.left w).updateStatus r Status.tornDown := h.left w _
  have hEbb := ebb (w.updateStatus r Status.tornDown)
  have hStill := ((hEbb.subsides hMade (.inr hTorn)).torn hTorn).2
  have hFirm : ¬ ((w.updateStatus r Status.tornDown).life r).status.Pledged := fun h => by
    have hState : ((w.updateStatus r Status.tornDown).status r).state = .created := h.2
    rw [hTorn] at hState
    cases hState
  have hAsked := ((hEbb.wanes hMade (.inr hTorn)).same_asked hFirm).1
  rw [hLeft] at hStill hAsked
  exact ⟨⟨hStill.fired, hStill.hearings⟩, hAsked⟩

end Act.Oblivious

namespace System

/-- One handle less is held. -/
theorem stream_released (made : w.Has r) :
    (w.released r).stream r = { w.stream r with handles := (w.stream r).handles - 1 } := by
  rw [released, stream_updateStream, if_pos ⟨rfl, made⟩]

/-- A stream with a handle less is, but for the mark, a stream that is closing. -/
theorem released_eq_marked (w : System κ) (r : StreamRef) :
    w.released r = (w.closed r).updateStream r
      (Stream.marked (w.status r).closing ((w.stream r).handles - 1)) := by
  rw [released, closed, updateStatus, updateStream_updateStream]
  exact updateStream_congr rfl

end System

namespace StreamRef

section

variable (live : (w.status r).state ≠ .destroyed) (last : (w.stream r).handles = 1)

include live last

/-- Whoever gives up the last handle drops the stream. -/
theorem on_release_of_last : (r.release env).on w = (r.drop env).on (w.released r) := by
  have hNone : ((w.released r).stream r).handles = 0 := by
    rw [System.stream_released (System.has_of_state_ne live), last]
  rw [System.released] at hNone
  rw [release, Act.on_modify_bind, Act.on_get_bind, if_pos hNone]
  rfl

/-- With nothing to cancel, the stream is torn down. -/
theorem on_release_of_settled (settled : (w.status r).cancellable = false) :
    (r.release env).on w = (r.destroy env).on (w.released r) := by
  rw [on_release_of_last live last, on_drop_of_settled]
  rwa [System.status_released]

variable (active : (w.status r).cancellable = true)

include active

/-- Whatever a host that leaves the stream alone does while it is asked, it does so too where the
handle is given up. -/
theorem on_release_of_active : (r.release env).on w =
    (env.host.cancel (w.stream r).id >>= fun answer => do
      modify (·.record (@Entry.hostAnswer _ (w.stream r).id .cancel answer.isOk r))
      r.destroy env).on ((w.aborting r).released r) := by
  have hActive : ((w.released r).status r).cancellable = true := by
    rwa [System.status_released]
  have hId : ((w.released r).stream r).id = (w.stream r).id := by
    rw [System.stream_released (System.has_of_state_ne live)]
  rw [on_release_of_last live last, on_drop_of_cancellable hActive, hId, System.aborting, hId]
  rfl

variable (oblivious : (env.host.cancel (w.stream r).id).Oblivious r)

include oblivious

/-- Once the host has answered, whatever its answer, the stream is torn down. -/
theorem on_release_of_answered {answer : Except HostError Unit}
    (answered : (env.host.cancel (w.stream r).id).on (w.aborting r) = (.ok answer, u)) :
    (r.release env).on w = (r.destroy env).on
      ((u.record (@Entry.hostAnswer _ (w.stream r).id .cancel answer.isOk r)).released r) := by
  rw [on_release_of_active live last active]
  exact Act.on_bind_ok (oblivious.on answered _) _

/-- A host that does not return keeps the stream from being torn down. -/
theorem on_release_of_halted {halt : Halt}
    (halts : (env.host.cancel (w.stream r).id).on (w.aborting r) = (.error halt, u)) :
    (r.release env).on w = (.error halt, u.released r) := by
  rw [on_release_of_active live last active]
  exact Act.on_bind_error (oblivious.on halts _) _

end

/-- Two teardowns that start from systems that differ in the mark and in the handles. -/
theorem paired_destroy_of_marked (blind : env.Blind r) (live : (y.status r).state ≠ .destroyed)
    (closing : Bool) (handles : Nat) :
    Act.Paired (System.Veiled r) (r.destroy env) (r.destroy env) y
      (y.updateStream r (Stream.marked closing handles)) := by
  have made := System.has_of_state_ne live
  have hLive : ((y.updateStream r (Stream.marked closing handles)).status r).state ≠
      .destroyed := by
    rw [System.status_updateStream, if_pos ⟨rfl, made⟩]
    exact live
  have hTorn : (y.updateStatus r Status.tornDown).Torn r := by
    refine ⟨(y.has_updateStatus r r _).2 made, ?_⟩
    rw [System.status_updateStatus, if_pos ⟨rfl, made⟩]
    rfl
  have hVeiled : (y.updateStatus r Status.tornDown).Veiled r
      ((y.updateStream r (Stream.marked closing handles)).updateStatus r Status.tornDown) := by
    have hSame : (y.updateStream r (Stream.marked closing handles)).updateStatus r Status.tornDown =
        (y.updateStatus r Status.tornDown).updateStream r (Stream.marked closing handles) := by
      simp only [System.updateStatus, System.updateStream_updateStream]
      rfl
    rw [hSame]
    exact .intro hTorn closing handles
  have hRest := Act.Blind.teardown blind r _ _ hVeiled
  rw [Act.Paired, Act.left, Act.left, System.on_destroy_of_live live,
    System.on_destroy_of_live hLive]
  exact hRest

end StreamRef

/-- Giving the last handle up is like a close: it ends the same way, the same is told of it, and
what is left behind differs in the stream's mark and its handles, and in nothing else. -/
structure Emulates (env : Surroundings κ) (r : StreamRef) (w : System κ) : Prop where
  ends : ((r.release env).on w).1 = ((r.close env).on w).1.map fun _ => ()
  told : ((r.release env).left w).past = ((r.close env).left w).past
  left : ∃ closing handles, (r.release env).left w =
    ((r.close env).left w).updateStream r (Stream.marked closing handles)

/-- What is left to do once the last handle is given up, and after the calls to the host, is the
teardown, which starts from the second system: the end is handed to the sinks once. -/
structure Finishes (env : Surroundings κ) (r : StreamRef) (w y : System κ)
    (calls : List HostCall) : Prop where
  on : (r.release env).on w = (r.destroy env).on y
  ended : w.Ended r ((r.release env).left w)
  asked : ((r.release env).left w).asked r = calls ++ w.asked r
  /-- If those return who are handed it, all who are attached are seen to. -/
  heard : env.Answers (.stream r) .destroyed (w.attachments r) (y.tearing r) →
    (r.release env).Returns w ∧
      ∃ heard, Visited env (.stream r) .destroyed (w.attachments r) (y.tearing r) heard

/-- The close comes to a teardown that starts where the stream is closing, and giving up the last
handle to one that starts from the same system with a handle less. -/
theorem emulates_of_destroy (blind : env.Blind r) (live : (x.status r).state ≠ .destroyed)
    (closes : (r.close env).on w =
      (do r.destroy env; return .ok () : Act κ (Except StreamError Unit)).on (x.closed r))
    (releases : (r.release env).on w = (r.destroy env).on (x.released r)) :
    Emulates env r w := by
  have hClosed : ((x.closed r).status r).state ≠ .destroyed := by
    rw [System.status_closed (System.has_of_state_ne live)]
    exact live
  obtain ⟨hEnds, hVeiled⟩ := StreamRef.paired_destroy_of_marked blind hClosed
    (x.status r).closing ((x.stream r).handles - 1)
  rw [← System.released_eq_marked] at hEnds hVeiled
  have hClose : (r.close env).left w = (r.destroy env).left (x.closed r) := by
    rw [Act.left, closes]
    exact Act.left_bind_pure _ _ _
  have hRelease : (r.release env).left w = (r.destroy env).left (x.released r) :=
    congrArg Prod.snd releases
  rw [← hClose, ← hRelease] at hVeiled
  obtain ⟨closing, handles, hLeft⟩ : ∃ closing handles, (r.release env).left w =
      ((r.close env).left w).updateStream r (Stream.marked closing handles) := by
    generalize (r.release env).left w = v at hVeiled
    cases hVeiled with
    | intro _ closing handles => exact ⟨closing, handles, rfl⟩
  refine ⟨?_, by rw [hLeft, System.past_updateStream], closing, handles, hLeft⟩
  rw [releases, closes, ← hEnds, Act.on_bind]
  cases ((r.destroy env).on (x.closed r)).1 <;> rfl

/-- A close outside of any context comes to the teardown as soon as the host has agreed. -/
theorem System.Agreed.on_close_of_free (serves : env.Serves look manners) (h : w.Agreed env r x)
    (free : (w.stream r).binding = .free) : (r.close env).on w =
      (do r.destroy env; return .ok () : Act κ (Except StreamError Unit)).on x := by
  have hInside : (r.isForeign env).on x = (.ok false, x) :=
    StreamRef.on_isForeign_of_free ((h.binding serves).trans free)
  rw [h.on_close, Act.on_bind, Act.left, StreamRef.on_closeDown_of_inside hInside, Act.on_bind,
    Act.left]

/-- A close that the host agrees to does not end in a refusal. -/
theorem System.Agreed.ne_refused (h : w.Agreed env r x) (e : StreamError) :
    ((r.close env).on w).1 ≠ .ok (.error e) := fun hRefused => by
  rw [h.on_close] at hRefused
  obtain ⟨_, -, hOk, -⟩ := Act.of_on_bind_ok hRefused
  cases hOk

section

variable (live : (w.status r).state ≠ .destroyed)

include live

/-- The teardown that is left to do starts from a system in which nothing has been heard of the
stream since. -/
theorem finishes_of_destroy {calls : List HostCall} (serves : env.Serves look manners)
    (releases : (r.release env).on w = (r.destroy env).on (y.released r))
    (stream : y.stream r = w.stream r) (still : w.Still r y)
    (asked : y.asked r = calls ++ w.asked r) : Finishes env r w (y.released r) calls := by
  have hEbb : env.Within (Ebb r) := (Ebb.pervades look r).serves serves
  have hStatus : (y.released r).status r = w.status r := by
    rw [System.status_released, System.status, stream, System.status]
  have hLive : ((y.released r).status r).state ≠ .destroyed := hStatus ▸ live
  have made := System.has_of_state_ne hLive
  have hLeft : (r.release env).left w = (r.destroy env).left (y.released r) :=
    congrArg Prod.snd releases
  have hStill : w.Still r (y.released r) := ⟨still.fired, still.hearings⟩
  obtain ⟨hEnded, hAsked⟩ := Ebb.ended_destroy hEbb hLive
  rw [← hLeft] at hEnded hAsked
  refine ⟨releases, hEnded.before hStill, hAsked.trans asked, fun answers => ?_⟩
  have hAttached : (y.released r).attachments r = w.attachments r := by
    rw [System.attachments, System.source,
      System.stream_released ((y.has_updateStream r r _).1 made), stream]
    rfl
  rw [← hAttached] at answers ⊢
  obtain ⟨⟨_, hReturns⟩, hVisited⟩ := StreamRef.visited_of_destroy hLive answers
  exact ⟨⟨(), by rw [releases, hReturns]⟩, hVisited⟩

/-- A host that leaves the stream alone has answered, and the stream is what it was. -/
theorem stream_of_answered {ended : Except Halt (Except HostError Unit)}
    (oblivious : (env.host.cancel (w.stream r).id).Oblivious r)
    (serves : env.Serves look manners)
    (answered : (env.host.cancel (w.stream r).id).on (w.aborting r) = (ended, u)) :
    u.stream r = w.stream r := by
  have hLeft : (env.host.cancel (w.stream r).id).left (w.aborting r) = u :=
    congrArg Prod.snd answered
  have hGrows := serves.grow.cancel (w.stream r).id (w.aborting r)
  rw [← hLeft]
  exact oblivious.stream (Nat.lt_of_lt_of_le (System.has_of_state_ne live) hGrows)

variable (last : (w.stream r).handles = 1)

include last

/-- A stream that is closing asks the host for nothing any more. -/
theorem finishes_of_closing (serves : env.Serves look manners)
    (closing : (w.status r).closing = true) : Finishes env r w (w.released r) [] :=
  finishes_of_destroy live serves
    (StreamRef.on_release_of_settled live last (Status.Spent.cancellable (.inl closing)))
    rfl ⟨rfl, rfl⟩ rfl

variable (oblivious : (env.host.cancel (w.stream r).id).Oblivious r)

include oblivious

/-- Where the host agrees to a close, or need not, giving the last handle up does the same. -/
theorem emulates_of_accepted (modest : env.Modest look r) (free : (w.stream r).binding = .free)
    (accepted : ∀ e, ((r.close env).on w).1 ≠ .ok (.error e)) : Emulates env r w := by
  have serves := modest.serves
  cases active : (w.status r).cancellable with
  | false =>
    exact emulates_of_destroy modest.blind live
      ((System.Agreed.unasked live active).on_close_of_free serves free)
      (StreamRef.on_release_of_settled live last active)
  | true =>
    rcases hAsked : (env.host.cancel (w.stream r).id).on (w.aborting r) with ⟨ended, u⟩
    have hAsking : (env.host.cancel (w.stream r).id).on (w.asking r) = (ended, u.closed r) :=
      oblivious.on hAsked _
    rcases ended with halt | e | _
    · -- The host panics, which ends both, before the stream is torn down.
      have hClose := StreamRef.on_close_of_halted active hAsking
      have hRelease := StreamRef.on_release_of_halted live last active oblivious hAsked
      refine ⟨by rw [hRelease, hClose]; rfl, ?_, (u.status r).closing, (u.stream r).handles - 1, ?_⟩
      · rw [Act.left, hRelease, Act.left, hClose]
        rfl
      · rw [Act.left, hRelease, Act.left, hClose]
        exact u.released_eq_marked r
    · rw [StreamRef.on_close_of_refused active hAsking] at accepted
      exact absurd rfl (accepted _)
    · have hStream := stream_of_answered live oblivious serves hAsked
      refine emulates_of_destroy (x := u.record _) modest.blind ?_
        ((System.Agreed.granted active hAsking).on_close_of_free serves free)
        (StreamRef.on_release_of_answered live last active oblivious hAsked)
      rw [System.status_record, System.status, hStream]
      exact live

/-- Where the host refuses a close, giving the last handle up goes on from there. -/
theorem finishes_of_refused (serves : env.Serves look manners) {e : StreamError}
    (refused : (r.close env).on w = (.ok (.error e), v)) :
    Finishes env r w (v.released r) [.cancel] := by
  have hEbb : env.Within (Ebb r) := (Ebb.pervades look r).serves serves
  have made := System.has_of_state_ne live
  cases active : (w.status r).cancellable with
  | false =>
    exact absurd (congrArg Prod.fst refused) ((System.Agreed.unasked live active).ne_refused e)
  | true =>
    rcases hAsked : (env.host.cancel (w.stream r).id).on (w.aborting r) with ⟨ended, u⟩
    have hAsking : (env.host.cancel (w.stream r).id).on (w.asking r) = (ended, u.closed r) :=
      oblivious.on hAsked _
    have hStream := stream_of_answered live oblivious serves hAsked
    obtain ⟨hStill, hSame⟩ := oblivious.still (hEbb.cancel (w.stream r).id)
      (w := w.aborting r) made
    rw [Act.left, hAsked] at hStill hSame
    rcases ended with halt | other | _
    · rw [StreamRef.on_close_of_halted active hAsking] at refused
      cases refused
    · have hFree : (u.status r).closing = false := by
        rw [System.status, hStream]
        exact Bool.eq_false_iff.2 (Status.cancellable_iff.1 active).2.1
      rw [StreamRef.on_close_of_refused active hAsking, System.rebuffed_closed hFree] at refused
      obtain ⟨-, rfl⟩ := Prod.mk.inj refused
      refine finishes_of_destroy live serves
        (StreamRef.on_release_of_answered live last active oblivious hAsked) hStream ⟨?_, ?_⟩ ?_
      · rw [System.fired_record]
        exact hStill.fired.trans (System.fired_record ..)
      · rw [System.hearings_record]
        exact hStill.hearings.trans (System.hearings_record ..)
      · rw [System.asked_answered, hSame, System.aborting, System.asked_record]
        simp [Entry.deed?, Deed.asked?]
    · exact absurd (congrArg Prod.fst refused)
        ((System.Agreed.granted active hAsking).ne_refused e)

end

/-- Giving up the last handle of a stream that is not torn down agrees with closing it. Outside of
any context, and where the host leaves the stream alone while it is asked, the host is asked for the
same, the sinks are handed the same, and everything happens in the same order, whatever the host and
the sinks do, as long as they go by what the library tells and the host does not refuse. If it
refuses, which a close would leave at that, the stream is torn down nevertheless from there on, in
one pass. In a context or not, a stream that is closing asks the host for nothing, and is torn down
in one pass as well. -/
theorem drop_agrees_with_close (r : StreamRef) :
    (∀ (look : System κ → κ.Note) env, env.Modest look r → ∀ w,
      (w.status r).state ≠ .destroyed → (w.stream r).handles = 1 → (w.stream r).binding = .free →
      (env.host.cancel (w.stream r).id).Oblivious r →
      (∀ e, ((r.close env).on w).1 ≠ .ok (.error e)) → Emulates env r w) ∧
    (∀ (look : System κ → κ.Note) env, env.Serves look Surroundings.any → ∀ w,
      (w.status r).state ≠ .destroyed → (w.stream r).handles = 1 →
      (env.host.cancel (w.stream r).id).Oblivious r → ∀ e v,
      (r.close env).on w = (.ok (.error e), v) → Finishes env r w (v.released r) [.cancel]) ∧
    ∀ (look : System κ → κ.Note) env, env.Serves look Surroundings.any → ∀ w,
      (w.status r).state ≠ .destroyed → (w.stream r).handles = 1 → (w.status r).closing = true →
      Finishes env r w (w.released r) [] :=
  ⟨fun _ _ modest _ live last free oblivious accepted =>
    emulates_of_accepted live last oblivious modest free accepted,
   fun _ _ serves _ live last oblivious _ _ refused =>
    finishes_of_refused live last oblivious serves refused,
   fun _ _ serves _ live last closing => finishes_of_closing live last serves closing⟩

namespace Surroundings

/-- Surroundings whose sinks take the end of a stream for an occasion to ask whether it is closing,
to close it again and to stay attached, and whose host gives one answer to all who want to cancel
their transfers. -/
def lingering (answer : Except HostError Unit) : Surroundings Client.plain :=
  { obliging with
    deliver := fun sink o event =>
      match o, event with
      | .stream r, .destroyed => do
        let closing ← (do return ((← get).status r).isClosing : Act Client.plain Bool)
        let _ ← r.close obliging
        let added ← r.attach sink
        return closing || added
      | _, _ => return true
    host := { obliging.host with cancel := fun _ => pure answer } }

variable {r : StreamRef}

/-- Obliging surroundings look at nothing. -/
theorem modest_obliging : obliging.Modest (fun _ => ()) r :=
  .intro (fun _ => False) (fun _ h => h.elim) (fun _ _ _ => .pure _) (fun _ _ => .pure _)
    (fun _ _ _ => .pure _) (fun _ _ => .pure _) (fun _ => .pure _) (.pure _) (fun _ => .pure _)
    fun _ => .pure _

/-- Their calls on the stream tell them nothing of its mark and its handles. -/
theorem modest_lingering (answer : Except HostError Unit) :
    (lingering answer).Modest (fun _ => ()) r := by
  refine .intro (· = obliging) (fun _ h => h ▸ modest_obliging) (fun sink o event => ?_)
    (fun _ _ => .pure _) (fun _ _ _ => .pure _) (fun _ _ => .pure _) (fun _ => .pure _) (.pure _)
    (fun _ => .pure _) fun _ => .pure _
  have hCall {α : Type} (c : Call Client.plain α) :
      HostedStreams.Modest (fun _ => ()) r (· = obliging) (c.run obliging) := .call (by rfl) c
  simp only [lingering]
  split
  · rename_i q
    exact .bind (.see _ fun h => h.isClosing q) fun _ => .bind (hCall (.close q)) fun _ =>
      .bind (hCall (.attach q sink)) fun _ => .pure _
  · exact .pure true

end Surroundings

/-- A stream with a sink whose teardown is queued in a context of the client's. -/
def closingElsewhere : System Client.plain :=
  Surroundings.deferring.played [⟨_, .makeSink⟩, ⟨_, .makeStream (.drawn 0) { url := "" } true⟩,
    ⟨_, .attach ⟨0⟩ ⟨0⟩⟩, ⟨_, .close ⟨0⟩⟩]

/-- Both sinks hear of the end once, in order, and the calls that they make on it have no effect.
-/
theorem drop_agrees_with_close_twoSinks :
    Emulates (.lingering (.ok ())) ⟨0⟩ (Surroundings.obliging.played twoSinks) ∧
    (((⟨0⟩ : StreamRef).release (.lingering (.ok ()))).left
        (Surroundings.obliging.played twoSinks)).deliveries ⟨0⟩ =
      [(⟨0⟩, .created), (⟨1⟩, .created), (⟨0⟩, .destroyed), (⟨1⟩, .destroyed)] ∧
    Finishes (.lingering (.error (.rejected "close" ""))) ⟨0⟩
      (Surroundings.obliging.played twoSinks)
      ((((⟨0⟩ : StreamRef).close (.lingering (.error (.rejected "close" "")))).left
        (Surroundings.obliging.played twoSinks)).released ⟨0⟩) [.cancel] ∧
    Finishes Surroundings.deferring ⟨0⟩ closingElsewhere (closingElsewhere.released ⟨0⟩) [] := by
  obtain ⟨hAccepted, hRefused, hClosing⟩ := drop_agrees_with_close (κ := Client.plain) ⟨0⟩
  have hLive : ((Surroundings.obliging.played twoSinks).status ⟨0⟩).state ≠ .destroyed := by
    decide +kernel
  have hLast : ((Surroundings.obliging.played twoSinks).stream ⟨0⟩).handles = 1 := by decide +kernel
  have hModest (answer : Except HostError Unit) :
      (Surroundings.lingering answer).Modest (fun _ => ()) ⟨0⟩ :=
    Surroundings.modest_lingering answer
  refine ⟨?_, by decide +kernel, ?_, ?_⟩
  · have hEnd : (((⟨0⟩ : StreamRef).close (.lingering (.ok ()))).on
        (Surroundings.obliging.played twoSinks)).1 = .ok (.ok ()) := by decide +kernel
    exact hAccepted _ _ (hModest _) _ hLive hLast (by decide +kernel) (.pure (Except.ok ()))
      fun e => by rw [hEnd]; simp
  · have hEnd : (((⟨0⟩ : StreamRef).close (.lingering (.error (.rejected "close" "")))).on
        (Surroundings.obliging.played twoSinks)).1 =
          .ok (.error (.host "close" (.rejected "close" ""))) := by decide +kernel
    exact hRefused _ _ (hModest _).serves _ hLive hLast
      (.pure (Except.error (HostError.rejected "close" ""))) _ _ (Act.on_of_end hEnd)
  · exact hClosing _ _ Surroundings.serves_deferring _ (by decide +kernel) (by decide +kernel)
      (by decide +kernel)

namespace Surroundings

/-- Surroundings whose first sink, when it hears of the end of a stream, looks whether the stream
can still be had by a handle, and if so has the second sink detached. -/
def upgrading : Surroundings Client.plain :=
  { obliging with
    deliver := fun sink o event =>
      match sink.number, o, event with
      | 0, .stream r, .destroyed => do
        let handles ← (do return ((← get).stream r).handles : Act Client.plain Nat)
        if handles = 0 then return true else r.detach ⟨1⟩
      | _, _, _ => return true }

/-- Its call is one in obliging surroundings. -/
theorem serves_upgrading : upgrading.Serves (fun _ => ()) Surroundings.any := by
  refine .intro (obliging = ·) (fun _ h => h ▸ serves_obliging trivial)
    ⟨fun sink o event => ?_, fun _ _ => .pure _, fun _ _ _ => .pure _, fun _ _ => .pure _,
      fun _ => .pure _, .pure _, fun _ => .pure _, fun _ => .pure _⟩ trivial
  simp only [upgrading]
  split
  · rename_i r _
    refine .bind (.see fun w => (w.stream r).handles) fun handles => ?_
    split
    · exact .pure true
    · exact .call (rfl : obliging = obliging) (.detach r ⟨1⟩)
  · exact .pure true

end Surroundings

/-- The agreement needs that clients go by what the library tells. The handles are none of that:
a stream that is closed can still be had by the handle it is closed by, and one whose last handle is
given up cannot be had any more. A sink that goes by this has others detached, or not. -/
theorem not_emulates_of_serves :
    ¬ ∀ (look : System Client.plain → Unit) env, env.Serves look Surroundings.any → ∀ w,
      Reached look Surroundings.any w → ∀ r : StreamRef, (w.status r).state ≠ .destroyed →
      (w.stream r).handles = 1 → (w.stream r).binding = .free →
      (env.host.cancel (w.stream r).id).Oblivious r →
      (∀ e, ((r.close env).on w).1 ≠ .ok (.error e)) →
      ((r.release env).left w).asked r = ((r.close env).left w).asked r ∧
        ((r.release env).left w).deliveries r = ((r.close env).left w).deliveries r := by
  intro h
  have hEnd : (((⟨0⟩ : StreamRef).close .upgrading).on
      (Surroundings.obliging.played twoSinks)).1 = .ok (.ok ()) := by decide +kernel
  have hReached : Reached (fun _ => ()) Surroundings.any (Surroundings.obliging.played twoSinks) :=
    Surroundings.reached_played (Surroundings.serves_obliging trivial) twoSinks
  obtain ⟨-, hSame⟩ := h _ .upgrading Surroundings.serves_upgrading _ hReached ⟨0⟩
    (by decide +kernel) (by decide +kernel) (by decide +kernel) (.pure (Except.ok ()))
    fun e => by rw [hEnd]; simp
  have hClosed : (((⟨0⟩ : StreamRef).close .upgrading).left
      (Surroundings.obliging.played twoSinks)).deliveries ⟨0⟩ =
        [(⟨0⟩, .created), (⟨1⟩, .created), (⟨0⟩, .destroyed)] := by decide +kernel
  have hDropped : (((⟨0⟩ : StreamRef).release .upgrading).left
      (Surroundings.obliging.played twoSinks)).deliveries ⟨0⟩ =
        [(⟨0⟩, .created), (⟨1⟩, .created), (⟨0⟩, .destroyed), (⟨1⟩, .destroyed)] := by
    decide +kernel
  rw [hClosed, hDropped] at hSame
  cases hSame

end HostedStreams
