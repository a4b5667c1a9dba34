import HostedStreams.Proofs.Closing

/-! Closes that the host refuses. A stream is marked as closing before the host is asked, and the
mark is taken back once the host has refused. Whatever the host tells of the transfer in between
passes the stream by, except that it is over. -/
namespace HostedStreams

variable {κ : Client} {look : System κ → κ.Note} {manners : Surroundings κ → Prop}
  {env below : Surroundings κ} {r : StreamRef} {events : List Event} {v w : System κ}

/-- The events are handed to the stream one after the other. -/
def StreamRef.report (env : Surroundings κ) (r : StreamRef) (events : List Event) : Act κ Unit :=
  events.forM fun event => do let _ ← r.receive env event

/-- The stream ignores the event where it stands. -/
def Status.Ignores (s : Status) (event : Event) : Prop :=
  (event.impliesCreated = true → s.state ≠ .created) ∧ (s.react event).2 = .ignore

/-- Every stream that lives is torn down by its end. -/
theorem Status.react_destroyed {s : Status} (live : s.state ≠ .destroyed) :
    s.react .destroyed = (s, .destroy) := by
  cases hState : s.state <;> simp_all [react]

namespace System

/-- The system in which the host is asked to cancel the transfer of a stream that is closing. -/
def asking (w : System κ) (r : StreamRef) : System κ :=
  (w.closed r).record (@Entry.hostCall _ (w.stream r).id .cancel r)

/-- The system in which the host has refused that, and the stream is not closing any more. -/
def rebuffed (v : System κ) (r : StreamRef) (id : StreamId) : System κ :=
  (v.record (@Entry.hostAnswer _ id .cancel false r)).updateStatus r
    fun f => { f with closing := false }

theorem has_asking : (w.asking r).Has r ↔ w.Has r :=
  w.has_updateStatus r r fun f => { f with closing := true }

/-- A stream of which the host is asked to cancel the transfer counts as spent meanwhile. -/
theorem spent_asking (made : w.Has r) : ((w.asking r).status r).Spent :=
  .inl (by rw [asking, status_record, status_closed made])

/-- A mark that is taken back leaves the stream as it was. -/
theorem reopened_closed (free : (w.status r).closing = false) :
    (w.closed r).updateStatus r (fun f => { f with closing := false }) = w := by
  have hTwice : (w.closed r).updateStatus r (fun f => { f with closing := false }) =
      w.updateStatus r fun f => { f with closing := false } :=
    w.updateStream_updateStream r _ _
  rw [hTwice]
  refine updateStatus_of_eq ?_
  rw [← free]

/-- A refusal takes the mark of a close back. -/
theorem rebuffed_closed (free : (w.status r).closing = false) (id : StreamId) :
    (w.closed r).rebuffed r id = w.record (@Entry.hostAnswer _ id .cancel false r) :=
  congrArg (fun v : System κ => v.record (@Entry.hostAnswer _ id .cancel false r))
    (reopened_closed free)

/-- A refusal leaves nothing of the close but what was said. -/
theorem rebuffed_asking (free : (w.status r).closing = false) :
    (w.asking r).rebuffed r (w.stream r).id =
      (w.record (@Entry.hostCall _ (w.stream r).id .cancel r)).record
        (@Entry.hostAnswer _ (w.stream r).id .cancel false r) :=
  congrArg (fun v : System κ =>
    (v.record (@Entry.hostCall _ (w.stream r).id .cancel r)).record
    (@Entry.hostAnswer _ (w.stream r).id .cancel false r)) (reopened_closed free)

end System

namespace StreamRef

/-- A spent stream is handed an event, and nothing happens, unless it is the end of a stream that is
not torn down. -/
theorem on_receive_of_spent (spent : (w.status r).Spent) {event : Event}
    (other : event ≠ .destroyed ∨ (w.status r).state = .destroyed) :
    (r.receive env event).on w = (.ok false, w) := by
  have hApply (event : Event) (other : event ≠ .destroyed ∨ (w.status r).state = .destroyed) :
      (r.apply env event).on w = (.ok false, w) := by
    refine System.on_apply_of_ignored ((spent.react event).resolve_right fun hEnds => ?_)
    obtain ⟨hDestroy, live⟩ := hEnds
    have hEvent := other.resolve_right live
    have hClosing := spent.resolve_right live
    simp [Status.react, Status.isClosing, hClosing, live, hEvent] at hDestroy
  simp only [StreamRef.receive, Act.on_get_bind]
  split
  · rw [Act.on_bind_ok (hApply .created (.inl (by simp)))]
    exact hApply event other
  · exact hApply event other

/-- An event that is ignored does nothing. -/
theorem on_receive_of_ignored {event : Event} (h : (w.status r).Ignores event) :
    (r.receive env event).on w = (.ok false, w) := by
  obtain ⟨hCreated, hIgnore⟩ := h
  rw [System.on_receive_of_due (by simpa using hCreated)]
  rcases hReaction : (w.status r).react event with ⟨s, reaction⟩
  rw [hReaction] at hIgnore
  cases hIgnore
  obtain rfl := Status.of_react_ignore hReaction
  exact System.on_apply_of_ignored hReaction

/-- The end of a stream that is not torn down is its teardown. -/
theorem on_receive_of_end (live : (w.status r).state ≠ .destroyed) :
    (r.receive env .destroyed).on w = (do r.destroy env; return false : Act κ Bool).on w := by
  rw [System.on_receive_of_due rfl]
  simp only [StreamRef.apply, Act.on_get_bind, Status.react_destroyed live, Act.on_modify_bind,
    System.updateStatus_self]

/-- Where no event does anything, all of them together do not. -/
theorem on_report_of_idle (h : ∀ event ∈ events, (r.receive env event).on w = (.ok false, w)) :
    (r.report env events).on w = (.ok (), w) := by
  induction events with
  | nil => rfl
  | cons event rest ih =>
    have hFirst : ((do let _ ← r.receive env event) : Act κ Unit).on w = (.ok (), w) :=
      Act.on_bind_ok (h event List.mem_cons_self) _
    exact (Act.on_bind_ok hFirst _).trans
      (ih fun other hMem => h other (List.mem_cons_of_mem _ hMem))

/-- The close of a stream whose transfer the host refuses to cancel. -/
theorem on_close_of_refused (active : (w.status r).cancellable = true) {e : HostError}
    (refuses : (env.host.cancel (w.stream r).id).on (w.asking r) = (.ok (.error e), v)) :
    (r.close env).on w = (.ok (.error (.host "close" e)), v.rebuffed r (w.stream r).id) := by
  have live : (w.stream r).status.state ≠ .destroyed := Status.state_ne_of_cancellable active
  have hActive : (w.stream r).status.cancellable = true := active
  simp only [StreamRef.close, Act.on_get_bind, if_neg live, Act.on_modify_bind, if_pos hActive,
    askHost, bind_assoc, pure_bind]
  exact (Act.on_bind_ok refuses _).trans rfl

/-- The close of a stream of which the host panics instead of cancelling the transfer. -/
theorem on_close_of_halted (active : (w.status r).cancellable = true) {halt : Halt}
    (halts : (env.host.cancel (w.stream r).id).on (w.asking r) = (.error halt, v)) :
    (r.close env).on w = (.error halt, v) := by
  have live : (w.stream r).status.state ≠ .destroyed := Status.state_ne_of_cancellable active
  have hActive : (w.stream r).status.cancellable = true := active
  simp only [StreamRef.close, Act.on_get_bind, if_neg live, Act.on_modify_bind, if_pos hActive,
    askHost, bind_assoc, pure_bind]
  exact Act.on_bind_error halts _

section

variable (serves : below.Serves look manners)

include serves

/-- However it ends, a teardown leaves the stream torn down. -/
theorem torn_of_destroy (made : w.Has r) :
    (((r.destroy below).left w).status r).state = .destroyed :=
  Conserves.torn_of_destroy look ((Conserves.sustained look manners).serves serves).2 made

/-- Where the end of a spent stream is among the events, they come to its teardown. -/
theorem on_report_of_end (made : w.Has r) (spent : (w.status r).Spent)
    (live : (w.status r).state ≠ .destroyed) (ends : .destroyed ∈ events) :
    (r.report below events).on w = (r.destroy below).on w := by
  induction events with
  | nil => cases ends
  | cons event rest ih =>
    have hCons : r.report below (event :: rest) = (do
        (do let _ ← r.receive below event)
        r.report below rest) := rfl
    rw [hCons]
    by_cases hEvent : event = .destroyed
    · subst hEvent
      have hReceive : (r.receive below .destroyed).on w =
          (do r.destroy below; return false : Act κ Bool).on w := on_receive_of_end live
      have hTorn := torn_of_destroy serves made
      cases hEnd : (r.destroy below).on w with
      | mk ended v =>
        rw [Act.left, hEnd] at hTorn
        rw [Act.on_bind, Act.left, Act.on_bind, hReceive, Act.left, hReceive, Act.on_bind, Act.left,
          hEnd]
        cases ended with
        | error halt => rfl
        | ok _ =>
          -- What comes after the end is told of a stream that is torn down.
          exact on_report_of_idle fun event _ => on_receive_of_spent (.inr hTorn) (.inr hTorn)
    · have hIdle : (r.receive below event).on w = (.ok false, w) :=
        on_receive_of_spent spent (.inl hEvent)
      have hFirst : ((do let _ ← r.receive below event) : Act κ Unit).on w = (.ok (), w) :=
        Act.on_bind_ok hIdle _
      rw [Act.on_bind_ok hFirst]
      exact ih ((List.mem_cons.1 ends).resolve_left fun hSame => hEvent hSame.symm)

end

end StreamRef

namespace System

/-- The latest request is the one to cancel. -/
theorem asked_asking (w : System κ) (r : StreamRef) :
    (w.asking r).asked r = .cancel :: w.asked r := by
  rw [asking, asked_record, closed, asked_of_past (w.past_updateStatus r _)]
  simp [Entry.deed?, Deed.asked?]

/-- An answer asks for nothing. -/
theorem asked_answered (v : System κ) (r : StreamRef) (id : StreamId) (served : Bool) :
    (v.record (@Entry.hostAnswer _ id .cancel served r)).asked r = v.asked r := by
  simp [asked_record, Entry.deed?, Deed.asked?]

/-- A stream whose transfer can be cancelled was asked for, so nothing is left to be asked for. -/
theorem firm_asking (active : (w.status r).cancellable = true) (made : w.Has r) :
    ¬ ((w.asking r).life r).status.Pledged := fun h => by
  have hNever : ((w.asking r).status r).requested = false := h.1
  rw [asking, status_record, status_closed made] at hNever
  simp only [Status.cancellable, Bool.and_eq_true] at active
  exact absurd (active.1.1.symm.trans hNever) (by simp)

end System

/-- A stream whose transfer can be cancelled asks the host once when it is closed, whatever comes of
that. -/
theorem StreamRef.asked_close (serves : env.Serves look manners)
    (active : (w.status r).cancellable = true) :
    ((r.close env).left w).asked r = .cancel :: w.asked r := by
  have live : (w.stream r).status.state ≠ .destroyed := Status.state_ne_of_cancellable active
  have hActive : (w.stream r).status.cancellable = true := active
  have made : w.Has r := System.has_of_state_ne live
  have hEbb : env.Within (Ebb r) := (Ebb.pervades look r).serves serves
  have hMade := System.has_asking.2 made
  have hDone := hEbb.cancel (w.stream r).id (w.asking r)
  have hSpent := hDone.spent hMade (System.spent_asking made)
  obtain ⟨hSame, hStill⟩ := (hDone.wanes hMade (System.spent_asking made)).same_asked
    (System.firm_asking active made)
  have hThere := Nat.lt_of_lt_of_le hMade hDone.grows
  rw [← System.asked_asking]
  simp only [StreamRef.close, Act.left_get_bind, if_neg live, Act.left_modify_bind, if_pos hActive,
    askHost, bind_assoc, pure_bind]
  change (Act.left _ (w.asking r)).asked r = _
  cases hEnd : (env.host.cancel (w.stream r).id).on (w.asking r) with
  | mk ended v =>
    rw [Act.left, hEnd] at hSame hStill hThere hSpent
    rw [← hSame]
    cases ended with
    | error halt => rw [Act.left, Act.on_bind, hEnd, Act.left, hEnd]
    | ok answer =>
      rw [Act.left_bind_ok hEnd, Act.left_modify_bind,
        ← v.asked_answered r (w.stream r).id answer.isOk]
      cases answer with
      | error e => rfl
      | ok _ =>
        have hDown : Ebb r (v.record (@Entry.hostAnswer _ (w.stream r).id .cancel true r))
            ((r.closeDown env (w.status r).closing).left _) :=
          (Ebb.carries look hEbb).legs <| Legs.closeDown _ fun _ _ _ => trivial
        rw [Act.left_bind_pure]
        exact ((hDown.wanes hThere hSpent).same_asked hStill).1

namespace System

/-- To ask the host fires nothing. -/
theorem still_asking (w : System κ) (r : StreamRef) : w.Still r (w.asking r) :=
  ⟨fired_record (w.closed r) (@Entry.hostCall _ (w.stream r).id .cancel r) r,
    hearings_record (w.closed r) (@Entry.hostCall _ (w.stream r).id .cancel r) r⟩

/-- To be refused fires nothing. -/
theorem still_rebuffed (v : System κ) (r : StreamRef) (id : StreamId) :
    v.Still r (v.rebuffed r id) :=
  ⟨fired_record v (@Entry.hostAnswer _ id .cancel false r) r,
    hearings_record v (@Entry.hostAnswer _ id .cancel false r) r⟩

/-- To be refused leaves the state as it is. -/
theorem state_rebuffed (v : System κ) (r : StreamRef) (id : StreamId) :
    ((v.rebuffed r id).status r).state = (v.status r).state := by
  rw [rebuffed, status_updateStatus]
  split <;> rfl

end System

/-- What comes of a close that the host refuses, where it has handed the stream the events before
that. -/
structure Rebuffed (look : System κ → κ.Note) (manners : Surroundings κ → Prop)
    (env below : Surroundings κ) (r : StreamRef) (events : List Event) (e : HostError)
    (w : System κ) : Prop where
  /-- No event has any effect that is not the end: all is as before, but for the request and its
  answer. -/
  kept : .destroyed ∉ events → (r.close env).on w = (.ok (.error (.host "close" e)),
    (w.record (@Entry.hostCall _ (w.stream r).id .cancel r)).record
      (@Entry.hostAnswer _ (w.stream r).id .cancel false r))
  /-- Nothing is lost, if the stream ignores all the events where it stands. -/
  lossless : (∀ event ∈ events, (w.status r).Ignores event) → (r.close env).left w =
    (((r.report below events).left w).record (@Entry.hostCall _ (w.stream r).id .cancel r)).record
      (@Entry.hostAnswer _ (w.stream r).id .cancel false r)
  /-- The end has its effect, and no other event has. -/
  ended : .destroyed ∈ events → w.Ended r ((r.close env).left w) ∧
    ((r.destroy below).Returns (w.asking r) →
      ((r.close env).on w).1 = .ok (.error (.host "close" e)))
  asked : ((r.close env).left w).asked r = .cancel :: w.asked r
  again : .destroyed ∉ events → ∀ other : Surroundings κ, other.Serves look manners →
    ((r.close other).left ((r.close env).left w)).asked r = .cancel :: .cancel :: w.asked r

section

variable {e : HostError} (active : (w.status r).cancellable = true)
  (refuses : env.host.cancel (w.stream r).id = do r.report below events; return .error e)

include active refuses

/-- The events have been handed to the stream, and the host refuses. -/
theorem StreamRef.on_close_of_reported
    (reported : (r.report below events).on (w.asking r) = (.ok (), v)) :
    (r.close env).on w = (.ok (.error (.host "close" e)), v.rebuffed r (w.stream r).id) := by
  refine on_close_of_refused active ?_
  rw [refuses]
  exact (Act.on_bind_ok reported _).trans rfl

/-- All is as before, but for the request and its answer. -/
theorem StreamRef.on_close_of_endless (endless : .destroyed ∉ events) :
    (r.close env).on w = (.ok (.error (.host "close" e)),
      (w.record (@Entry.hostCall _ (w.stream r).id .cancel r)).record
        (@Entry.hostAnswer _ (w.stream r).id .cancel false r)) := by
  have made : w.Has r := System.has_of_state_ne (Status.state_ne_of_cancellable active)
  have free : (w.status r).closing = false := by
    simp only [Status.cancellable, Bool.and_eq_true, Bool.not_eq_true'] at active
    exact active.1.2
  have hIdle : (r.report below events).on (w.asking r) = (.ok (), w.asking r) :=
    on_report_of_idle fun event hMem =>
      on_receive_of_spent (System.spent_asking made) (.inl fun hEnd => endless (hEnd ▸ hMem))
  rw [on_close_of_reported active refuses hIdle, System.rebuffed_asking free]

/-- The stream comes to its end inside the request. -/
theorem System.ended_close (reports : below.Serves look manners) (ends : .destroyed ∈ events) :
    w.Ended r ((r.close env).left w) ∧ ((r.destroy below).Returns (w.asking r) →
      ((r.close env).on w).1 = .ok (.error (.host "close" e))) := by
  have live := Status.state_ne_of_cancellable active
  have made : w.Has r := has_of_state_ne live
  have hSpent := spent_asking made
  have hMade := has_asking.2 made
  have hLive : ((w.asking r).status r).state ≠ .destroyed := by
    rw [asking, status_record, status_closed made]
    exact live
  have hReport := StreamRef.on_report_of_end reports hMade hSpent hLive ends
  have hDestroyed := StreamRef.torn_of_destroy reports hMade
  have hEbb := Ebb.of_destroy ((Ebb.pervades look r).serves reports) (w.asking r)
  cases hEnd : (r.destroy below).on (w.asking r) with
  | mk ended v =>
    rw [Act.left, hEnd] at hDestroyed hEbb
    have hEnded : w.Ended r v := by
      have hEither := (hEbb.subsides hMade hSpent).live hLive
      exact (hEither.resolve_left fun h => h.1 hDestroyed).before (w.still_asking r)
    cases ended with
    | error halt =>
      have hHalt : (env.host.cancel (w.stream r).id).on (w.asking r) = (.error halt, v) := by
        rw [refuses, Act.on_bind, Act.left, hReport.trans hEnd]
      rw [Act.left, StreamRef.on_close_of_halted active hHalt]
      refine ⟨hEnded, fun hReturns => ?_⟩
      obtain ⟨_, hReturns⟩ := hReturns
      rw [hEnd] at hReturns
      cases hReturns
    | ok _ =>
      rw [Act.left, StreamRef.on_close_of_reported active refuses (hReport.trans hEnd)]
      refine ⟨hEnded.still (v.still_rebuffed r _) ?_, fun _ => rfl⟩
      exact (v.state_rebuffed r _).trans hDestroyed

end

/-- A host that is asked to cancel a transfer may hand the stream any events before it refuses. Of
these only the end of the stream has any effect. If that is not among them, the stream is as it was
before, its sinks have heard of nothing, and another close asks the host again. -/
theorem close_rebuffed {e : HostError} (serves : env.Serves look manners)
    (reports : below.Serves look manners) (active : (w.status r).cancellable = true)
    (refuses : env.host.cancel (w.stream r).id = do r.report below events; return .error e) :
    Rebuffed look manners env below r events e w := by
  have live := Status.state_ne_of_cancellable active
  have hAsked := StreamRef.asked_close serves active
  refine ⟨StreamRef.on_close_of_endless active refuses, fun ignored => ?_,
    System.ended_close active refuses reports, hAsked, fun none other serves' => ?_⟩
  · have hNone : .destroyed ∉ events := fun hMem => by
      have hIgnored := (ignored _ hMem).2
      rw [Status.react_destroyed live] at hIgnored
      cases hIgnored
    have hNothing : (r.report below events).on w = (.ok (), w) :=
      StreamRef.on_report_of_idle fun event hMem =>
        StreamRef.on_receive_of_ignored (ignored event hMem)
    rw [Act.left, StreamRef.on_close_of_endless active refuses hNone, Act.left, hNothing]
  · have hStatus : ((r.close env).left w).status r = w.status r := by
      rw [Act.left, StreamRef.on_close_of_endless active refuses none]
      rfl
    rw [StreamRef.asked_close serves' (hStatus ▸ active), hAsked]

/-- Surroundings whose host says that a transfer is complete when it is asked to cancel it, and then
refuses. -/
def Surroundings.grudging : Surroundings Client.plain :=
  { obliging with
    host := {
      obliging.host with
      cancel := fun _ => do
        StreamRef.report obliging ⟨0⟩ [.completed ⟨true⟩]
        return .error (.rejected "close" "") } }

/-- The host reports in obliging surroundings. -/
theorem Surroundings.serves_grudging : grudging.Serves (fun _ => ()) Surroundings.any := by
  refine .intro (· = obliging) (fun _ h => h ▸ serves_obliging trivial)
    ⟨fun _ _ _ => .pure _, fun _ _ => .pure _, fun _ _ _ => .pure _, fun _ _ => .pure _,
      fun _ => ?_, .pure _, fun _ => .pure _, fun _ => .pure _⟩ trivial
  have hCall {α : Type} (c : Call Client.plain α) :
      Conduct (fun _ => ()) (· = obliging) (c.run obliging) := .call (by rfl) c
  exact .bind (.bind (.bind (hCall (.receive ⟨0⟩ (.completed ⟨true⟩))) fun _ => .pure _)
    fun _ => .pure _) fun _ => .pure _

/-- A stream with an open transfer and a sink. -/
def openTransfer : System Client.plain :=
  Surroundings.grudging.played [⟨_, .makeSink⟩, ⟨_, .makeStream (.drawn 0) { url := "" } true⟩,
    ⟨_, .attach ⟨0⟩ ⟨0⟩⟩, ⟨_, .start ⟨0⟩⟩, ⟨_, .receive ⟨0⟩ (.opened {})⟩]

theorem reached_openTransfer : Reached (fun _ => ()) Surroundings.any openTransfer :=
  Surroundings.reached_played Surroundings.serves_grudging _

/-- The stream is open as before, and it can be closed again. -/
theorem close_rebuffed_openTransfer :
    (openTransfer.status ⟨0⟩).cancellable = true ∧
    ((⟨0⟩ : StreamRef).close .grudging |>.left openTransfer).status ⟨0⟩ = openTransfer.status ⟨0⟩ ∧
    Rebuffed (fun _ => ()) Surroundings.any .grudging .obliging ⟨0⟩ [.completed ⟨true⟩]
      (.rejected "close" "") openTransfer :=
  have active : (openTransfer.status ⟨0⟩).cancellable = true := by decide +kernel
  ⟨active, by decide +kernel, close_rebuffed Surroundings.serves_grudging
    (Surroundings.serves_obliging trivial) active rfl⟩

/-- That the transfer is complete is lost on a stream if the host says so before it refuses to
cancel it. -/
theorem not_lossless_openTransfer :
    ¬ ∀ (env below : Surroundings Client.plain) (w : System Client.plain) (r : StreamRef)
        (events : List Event) (e : HostError), env.Serves (fun _ => ()) Surroundings.any →
      below.Serves (fun _ => ()) Surroundings.any → Reached (fun _ => ()) Surroundings.any w →
      (w.status r).cancellable = true →
      env.host.cancel (w.stream r).id = (do r.report below events; return .error e) →
      ((r.close env).on w).1 = .ok (.error (.host "close" e)) →
      ((r.close env).left w).status r = ((r.report below events).left w).status r := by
  intro h
  have hSame := h .grudging .obliging openTransfer ⟨0⟩ [.completed ⟨true⟩] (.rejected "close" "")
    Surroundings.serves_grudging (Surroundings.serves_obliging trivial) reached_openTransfer
    (by decide +kernel) rfl (by decide +kernel)
  revert hSame
  decide +kernel

end HostedStreams
