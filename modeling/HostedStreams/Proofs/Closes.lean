import HostedStreams.Proofs.Launched
import HostedStreams.Proofs.Rollback

/-! What one close comes to, by what the host and the stream's context answer. The host is asked
about a transfer that can be cancelled, and about no other. What it refuses leaves the stream as it
was. After that the context decides: inside it the stream is torn down at once, outside it the
teardown is queued, unless that was done before or the context takes none. -/
namespace HostedStreams

variable {κ : Client} {look : System κ → κ.Note} {manners : Surroundings κ → Prop}
  {env : Surroundings κ} {r : StreamRef} {u v w x y z : System κ}

/-- The stream is left alone. -/
structure System.Unmoved (r : StreamRef) (w v : System κ) : Prop where
  stream : v.stream r = w.stream r
  deeds : (v.life r).deeds = (w.life r).deeds

namespace Surroundings

/-- The host leaves the stream alone while it is asked to cancel the transfer. -/
def Reticent (r : StreamRef) (env : Surroundings κ) : Prop :=
  ∀ w : System κ, w.Unmoved r ((env.host.cancel (w.stream r).id).left w)

/-- The stream's context leaves the stream alone while it is asked for. -/
structure Discreet (r : StreamRef) (env : Surroundings κ) : Prop where
  isCurrent : ∀ w : System κ, w.Unmoved r (env.isCurrent.left w)
  scheduleTeardown : ∀ w : System κ, w.Unmoved r ((env.scheduleTeardown (w.stream r).id).left w)

end Surroundings

namespace System

/-- The host has agreed to a close of the stream, or it is not asked, and the rest of the close
starts from here. -/
inductive Agreed (env : Surroundings κ) (r : StreamRef) (w : System κ) : System κ → Prop
  | unasked (live : (w.status r).state ≠ .destroyed) (settled : (w.status r).cancellable = false) :
      Agreed env r w (w.closed r)
  | granted {v : System κ} (active : (w.status r).cancellable = true)
      (grants : (env.host.cancel (w.stream r).id).on (w.asking r) = (.ok (.ok ()), v)) :
      Agreed env r w (v.record (@Entry.hostAnswer _ (w.stream r).id .cancel true r))

namespace Agreed

/-- A stream to whose close the host agrees is alive up to then. -/
theorem live (h : w.Agreed env r x) : (w.status r).state ≠ .destroyed := by
  cases h with
  | unasked live => exact live
  | granted active => exact Status.state_ne_of_cancellable active

theorem made (h : w.Agreed env r x) : w.Has r :=
  has_of_state_ne h.live

/-- The rest of a close starts with the mark, and with the answer of the host if it was asked. -/
theorem eq (h : w.Agreed env r x) : x = w.closed r ∨ x = w.cancelled env r := by
  cases h with
  | unasked => exact .inl rfl
  | granted active grants =>
    refine .inr ?_
    rw [cancelled, Act.left]
    exact congrArg _ (congrArg Prod.snd grants).symm

/-- The close goes on once the host has agreed. -/
theorem on_close (h : w.Agreed env r x) : (r.close env).on w =
    (do r.closeDown env (w.status r).closing; return .ok () :
      Act κ (Except StreamError Unit)).on x := by
  have live : (w.stream r).status.state ≠ .destroyed := h.live
  cases h with
  | unasked _ settled =>
    have hSettled : (w.stream r).status.cancellable = false := settled
    simp only [StreamRef.close, Act.on_get_bind, if_neg live, Act.on_modify_bind, hSettled]
    rfl
  | granted active grants =>
    have hActive : (w.stream r).status.cancellable = true := active
    simp only [StreamRef.close, Act.on_get_bind, if_neg live, Act.on_modify_bind, if_pos hActive,
      askHost, bind_assoc, pure_bind]
    exact (Act.on_bind_ok grants _).trans rfl

/-- A stream to whose close the host agrees is spent. -/
theorem spent (serves : env.Serves look manners) (h : w.Agreed env r x) :
    x.Has r ∧ (x.status r).Spent :=
  StreamRef.spent_agreed serves h.made h.eq

/-- While the host is asked, the stream's binding stays as it is. -/
theorem binding (serves : env.Serves look manners) (h : w.Agreed env r x) :
    (x.stream r).binding = (w.stream r).binding := by
  have hClosed : ((w.closed r).stream r).binding = (w.stream r).binding := by
    rw [closed, updateStatus, stream_updateStream]
    split <;> rfl
  cases h with
  | unasked => exact hClosed
  | @granted v active grants =>
    have hMade : (w.asking r).Has r :=
      has_asking.2 (has_of_state_ne (Status.state_ne_of_cancellable active))
    have hAsked := ((Launches.serves serves).cancel (w.stream r).id (w.asking r)).binding hMade
    rw [Act.left, grants] at hAsked
    exact hAsked.trans hClosed

end Agreed

/-- The close comes to the stream's teardown, which starts from here. -/
structure Fells (w : System κ) (env : Surroundings κ) (r : StreamRef) (y : System κ) : Prop where
  left : (r.close env).left w = (r.destroy env).left y
  torn : (((r.close env).left w).status r).state = .destroyed
  returned : (r.destroy env).Returns y → ((r.close env).on w).1 = .ok (.ok ())

end System

namespace StreamRef

/-- To close a stream that is torn down succeeds and does nothing. -/
theorem on_close_of_torn (torn : (w.status r).state = .destroyed) :
    (r.close env).on w = (.ok (.ok ()), w) := by
  replace torn : (w.stream r).status.state = .destroyed := torn
  simp only [close, Act.on_get_bind, if_pos torn]
  rfl

/-- A stream without a context is never outside of it. -/
theorem on_isForeign_of_free (free : (x.stream r).binding = .free) :
    (r.isForeign env).on x = (.ok false, x) := by
  simp only [isForeign, Act.on_get_bind, free]
  rfl

/-- Inside its context a stream is torn down at once. -/
theorem on_closeDown_of_inside (inside : (r.isForeign env).on x = (.ok false, y)) (already : Bool) :
    (r.closeDown env already).on x = (r.destroy env).on y := by
  rw [closeDown, Act.on_bind_ok inside]
  rfl

/-- Outside it, a teardown that is queued already is enough. -/
theorem on_closeDown_of_already (outside : (r.isForeign env).on x = (.ok true, y)) :
    (r.closeDown env true).on x = (.ok (), y) := by
  rw [closeDown, Act.on_bind_ok outside]
  rfl

/-- Outside it, a stream whose context takes no teardown is torn down at once. -/
theorem on_closeDown_of_declined (outside : (r.isForeign env).on x = (.ok true, y))
    (declines : (r.scheduleTeardown env).on y = (.ok false, z)) :
    (r.closeDown env false).on x = (r.destroy env).on z := by
  rw [closeDown, Act.on_bind_ok outside]
  exact Act.on_bind_ok declines _

/-- Outside it, a teardown that the context takes is left to the context. -/
theorem on_closeDown_of_scheduled (outside : (r.isForeign env).on x = (.ok true, y))
    (takes : (r.scheduleTeardown env).on y = (.ok true, z)) :
    (r.closeDown env false).on x = (.ok (), z) := by
  rw [closeDown, Act.on_bind_ok outside]
  exact Act.on_bind_ok takes _

/-- While its context is asked for, a stream does not go away. -/
theorem has_of_isForeign (serves : env.Serves look manners) (made : x.Has r) :
    ((r.isForeign env).left x).Has r := by
  have hEbb : env.Within (Ebb r) := (Ebb.pervades look r).serves serves
  exact Nat.lt_of_lt_of_le made ((Ebb.carries look hEbb).legs Legs.isForeign).grows

/-- No stream is gone when its teardown is scheduled. -/
theorem has_of_scheduleTeardown (serves : env.Serves look manners) (made : y.Has r) :
    ((r.scheduleTeardown env).left y).Has r := by
  have hEbb : env.Within (Ebb r) := (Ebb.pervades look r).serves serves
  exact Nat.lt_of_lt_of_le made ((Ebb.carries look hEbb).legs Legs.scheduleTeardown).grows

end StreamRef

namespace System

/-- A close that comes to a teardown of the stream leaves it torn down. -/
theorem Agreed.fells (serves : env.Serves look manners) (h : w.Agreed env r x) (made : y.Has r)
    (down : (r.closeDown env (w.status r).closing).on x = (r.destroy env).on y) :
    w.Fells env r y := by
  have hLeft : (r.close env).left w = (r.destroy env).left y := by
    rw [Act.left, h.on_close]
    exact (Act.left_bind_pure _ _ x).trans (congrArg Prod.snd down)
  refine ⟨hLeft, ?_, fun returns => ?_⟩
  · rw [hLeft]
    exact StreamRef.torn_of_destroy serves made
  · obtain ⟨_, hReturns⟩ := returns
    rw [h.on_close, Act.on_bind, down, hReturns]
    rfl

end System

/-- A stream that is spent asks the host for no more cancelling. -/
theorem Life.Wanes.cancels {l m : Life} (h : l.Wanes m) :
    m.asked.count .cancel = l.asked.count .cancel := by
  rcases h.asked with ⟨hSame, -⟩ | ⟨-, -, config, hStart⟩
  · rw [hSame]
  · rw [hStart]
    simp

/-- A transfer can be cancelled that was asked for, is not being closed and has not ended. -/
theorem Status.cancellable_iff {s : Status} :
    s.cancellable = true ↔ s.requested = true ∧ ¬ s.closing = true ∧ ¬ s.state.terminal = true := by
  simp [cancellable, and_assoc]

/-- Of all closes those of a transfer that can be cancelled ask the host for that, once. -/
theorem StreamRef.count_asked_close (serves : env.Serves look manners) (w : System κ) :
    (((r.close env).left w).asked r).count .cancel =
      (w.asked r).count .cancel + if (w.status r).cancellable then 1 else 0 := by
  by_cases torn : (w.status r).state = .destroyed
  · rw [left_close_of_torn torn, Status.Spent.cancellable (.inr torn)]
    rfl
  cases active : (w.status r).cancellable with
  | true =>
    rw [asked_close serves active]
    simp
  | false =>
    have hAgreed : w.Agreed env r (w.closed r) := .unasked torn active
    obtain ⟨hMade, hSpent⟩ := hAgreed.spent serves
    have hEbb : env.Within (Ebb r) := (Ebb.pervades look r).serves serves
    have hDown : Ebb r (w.closed r) ((r.closeDown env (w.status r).closing).left (w.closed r)) :=
      (Ebb.carries look hEbb).legs <| Legs.closeDown _ fun _ _ _ => trivial
    have hLeft : (r.close env).left w =
        (r.closeDown env (w.status r).closing).left (w.closed r) := by
      rw [Act.left, hAgreed.on_close]
      exact Act.left_bind_pure _ _ _
    rw [hLeft]
    exact (hDown.wanes hMade hSpent).cancels.trans
      (congrArg (List.count _) (System.asked_of_past (w.past_updateStatus r _) r))


/-! A stream that is left alone. -/

namespace System

theorem Unmoved.refl (r : StreamRef) (w : System κ) : w.Unmoved r w :=
  ⟨rfl, rfl⟩

theorem Unmoved.trans (first : u.Unmoved r v) (second : v.Unmoved r w) : u.Unmoved r w :=
  ⟨second.stream.trans first.stream, second.deeds.trans first.deeds⟩

/-- The stream as it is, but marked as closing. -/
structure Marked (r : StreamRef) (w v : System κ) : Prop where
  stream : v.stream r = { w.stream r with status := { w.status r with closing := true } }
  passes : v.passes r = w.passes r

/-- A stream stays marked while it is left alone. -/
theorem Marked.unmoved (h : u.Marked r v) (alone : v.Unmoved r w) : u.Marked r w where
  stream := alone.stream.trans h.stream
  passes := by
    rw [← h.passes, passes_eq, passes_eq, Life.passes, Life.passes, alone.deeds]

/-- Passes are read off entries that start them. -/
theorem passes_record {e : Entry κ.Note} (h : (e.deed? r).bind Deed.pass? = none) :
    (v.record e).passes r = v.passes r := by
  rw [passes_eq, passes_eq, Life.passes, Life.passes, life_record, List.filterMap_append]
  cases hDeed : e.deed? r with
  | none => rfl
  | some deed =>
    rw [hDeed] at h
    have hNone : deed.pass? = none := h
    simp [hNone]

theorem passes_of_past (h : v.past = w.past) (r : StreamRef) : v.passes r = w.passes r := by
  rw [passes_eq, passes_eq, Life.passes, Life.passes, life, life, h]

/-- A close marks the stream, and changes nothing else of it. -/
theorem marked_closed (made : w.Has r) : w.Marked r (w.closed r) where
  stream := by
    rw [closed, updateStatus, stream_updateStream, if_pos ⟨rfl, made⟩]
    rfl
  passes := passes_of_past (w.past_updateStatus r _) r

/-- A request to cancel leaves the stream as it is, but marked. -/
theorem marked_asking (made : w.Has r) : w.Marked r (w.asking r) where
  stream := (marked_closed made).stream
  passes := (passes_record (by simp [Entry.deed?, Deed.pass?])).trans (marked_closed made).passes

/-- A host that leaves the stream alone is asked to cancel its transfer. -/
theorem unmoved_cancel (reticent : env.Reticent r) (made : w.Has r) :
    (w.asking r).Unmoved r ((env.host.cancel (w.stream r).id).left (w.asking r)) := by
  have hAlone := reticent (w.asking r)
  rwa [(marked_asking made).stream] at hAlone

/-- A reticent host agrees without touching the stream. -/
theorem Agreed.marked (h : w.Agreed env r x) (reticent : env.Reticent r) : w.Marked r x := by
  have made := h.made
  cases h with
  | unasked => exact marked_closed made
  | granted active grants =>
    have hAlone := unmoved_cancel reticent made
    rw [Act.left, grants] at hAlone
    have hMarked := (marked_asking made).unmoved hAlone
    exact ⟨hMarked.stream, (passes_record (by simp [Entry.deed?, Deed.pass?])).trans hMarked.passes⟩

/-- A discreet context tells whether it is current without touching the stream. -/
theorem unmoved_isForeign (discreet : env.Discreet r) (x : System κ) :
    x.Unmoved r ((r.isForeign env).left x) := by
  simp only [StreamRef.isForeign, Act.left_get_bind]
  split
  · exact .refl r x
  · rw [Act.left_bind_pure]
    exact discreet.isCurrent x
  · exact .refl r x

/-- A discreet context takes a teardown without touching the stream. -/
theorem unmoved_scheduleTeardown (discreet : env.Discreet r) (y : System κ) :
    y.Unmoved r ((r.scheduleTeardown env).left y) := by
  simp only [StreamRef.scheduleTeardown, Act.left_get_bind]
  split
  · exact .refl r y
  · exact discreet.scheduleTeardown y
  · simp only [Act.left_get_bind]
    split <;> exact ⟨rfl, rfl⟩

/-- A stream whose mark is taken back is as it was. -/
theorem Marked.restored (h : w.Marked r v) (active : (w.status r).cancellable = true)
    (id : StreamId) : (v.rebuffed r id).stream r = w.stream r ∧
      (v.rebuffed r id).passes r = w.passes r := by
  have live := Status.state_ne_of_cancellable active
  have free : (w.stream r).status.closing = false := by
    simp only [Status.cancellable, Bool.and_eq_true, Bool.not_eq_true'] at active
    exact active.1.2
  have hStatus : v.status r = { w.status r with closing := true } := congrArg (·.status) h.stream
  have made : v.Has r := has_of_state_ne (by rw [hStatus]; exact live)
  constructor
  · have hBack : (v.rebuffed r id).stream r =
        { v.stream r with status := { v.status r with closing := false } } := by
      rw [rebuffed, updateStatus, stream_updateStream, if_pos ⟨rfl, made⟩]
      rfl
    rw [hBack, hStatus, h.stream, status, ← free]
  · rw [rebuffed, passes_of_past (past_updateStatus ..),
      passes_record (by simp [Entry.deed?, Deed.pass?]), h.passes]

/-- What is promised of a close of the stream where things are as in the system. -/
structure Closes (w : System κ) (env : Surroundings κ) (r : StreamRef) : Prop where
  torn : (w.status r).state = .destroyed → (r.close env).on w = (.ok (.ok ()), w)
  /-- The host is asked to cancel a transfer that was asked for, is not closing yet and can make
  progress, and only then, and once. -/
  asked : (((r.close env).left w).asked r).count .cancel = (w.asked r).count .cancel +
    if (w.status r).requested ∧ ¬ (w.status r).closing ∧ ¬ (w.status r).state.terminal then 1 else 0
  /-- Beside what the host does and its answer, a close that it refuses has no effect. -/
  refused : ∀ e v, (w.status r).cancellable = true →
    (env.host.cancel (w.stream r).id).on (w.asking r) = (.ok (.error e), v) →
      (r.close env).on w = (.ok (.error (.host "close" e)), v.rebuffed r (w.stream r).id) ∧
      (env.Reticent r → (v.rebuffed r (w.stream r).id).stream r = w.stream r ∧
        (v.rebuffed r (w.stream r).id).passes r = w.passes r)
  unbound : ∀ x, w.Agreed env r x → (w.stream r).binding = .free →
    (r.isForeign env).on x = (.ok false, x)
  inside : ∀ x y, w.Agreed env r x → (r.isForeign env).on x = (.ok false, y) → w.Fells env r y
  /-- Outside the context there is nothing left to do for a close that is not the first one. -/
  again : ∀ y, (w.status r).closing = true → (w.status r).state ≠ .destroyed →
    (r.isForeign env).on w = (.ok true, y) → (r.close env).on w = (.ok (.ok ()), y)
  declined : ∀ x y z, w.Agreed env r x → (w.status r).closing = false →
    (r.isForeign env).on x = (.ok true, y) → (r.scheduleTeardown env).on y = (.ok false, z) →
      w.Fells env r z
  /-- The teardown is queued, and so far that is all, but for the mark. -/
  scheduled : ∀ x y z, w.Agreed env r x → (w.status r).closing = false →
    (r.isForeign env).on x = (.ok true, y) → (r.scheduleTeardown env).on y = (.ok true, z) →
      (r.close env).on w = (.ok (.ok ()), z) ∧
      (env.Reticent r → env.Discreet r → w.Marked r z)

end System

/-- A close that is not the first one needs no answer of the host. -/
theorem System.agreed_of_closing (closing : (w.status r).closing = true)
    (live : (w.status r).state ≠ .destroyed) (env : Surroundings κ) : w.Agreed env r w := by
  have hAgreed : w.Agreed env r (w.closed r) :=
    .unasked live (Status.Spent.cancellable (.inl closing))
  rwa [closed, updateStatus_of_eq (by rw [← closing])] at hAgreed

/-- What is promised of a close is kept wherever a client serves. -/
theorem System.closes_of_serves (serves : env.Serves look manners) (w : System κ) (r : StreamRef) :
    w.Closes env r where
  torn := StreamRef.on_close_of_torn
  asked := by
    rw [StreamRef.count_asked_close serves w]
    simp only [Status.cancellable_iff]
  refused e v active refuses := by
    refine ⟨StreamRef.on_close_of_refused active refuses, fun reticent => ?_⟩
    have made : w.Has r := has_of_state_ne (Status.state_ne_of_cancellable active)
    have hAlone := unmoved_cancel reticent made
    rw [Act.left, refuses] at hAlone
    exact ((marked_asking made).unmoved hAlone).restored active _
  unbound x agreed free :=
    StreamRef.on_isForeign_of_free ((agreed.binding serves).trans free)
  inside x y agreed inside := by
    have hMade := StreamRef.has_of_isForeign serves (agreed.spent serves).1
    rw [Act.left, inside] at hMade
    exact agreed.fells serves hMade (StreamRef.on_closeDown_of_inside inside _)
  again y closing live outside := by
    rw [(agreed_of_closing closing live env).on_close, closing,
      Act.on_bind_ok (StreamRef.on_closeDown_of_already outside)]
    rfl
  declined x y z agreed free outside declines := by
    have hMade := StreamRef.has_of_isForeign serves (agreed.spent serves).1
    rw [Act.left, outside] at hMade
    have hStill := StreamRef.has_of_scheduleTeardown serves hMade
    rw [Act.left, declines] at hStill
    refine agreed.fells serves hStill ?_
    rw [free]
    exact StreamRef.on_closeDown_of_declined outside declines
  scheduled x y z agreed free outside takes := by
    constructor
    · rw [agreed.on_close, free,
        Act.on_bind_ok (StreamRef.on_closeDown_of_scheduled outside takes)]
      rfl
    · intro reticent discreet
      have hForeign := unmoved_isForeign discreet (r := r) x
      have hScheduled := unmoved_scheduleTeardown discreet (r := r) y
      rw [Act.left, outside] at hForeign
      rw [Act.left, takes] at hScheduled
      exact (agreed.marked reticent).unmoved (hForeign.trans hScheduled)

end HostedStreams
