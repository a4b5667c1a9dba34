import HostedStreams.Proofs.Ebb

/-! Closes that are accepted. Once a close has returned, a stream that was asked for before makes no
more calls to the host, and one that was not makes one at most: `start` does not see that it is
closing, and nobody cancels the transfer that this starts. -/
namespace HostedStreams

variable {κ : Client} {look : System κ → κ.Note} {manners : Surroundings κ → Prop}
  {env : Surroundings κ} {r : StreamRef} {w u : System κ}

namespace System

/-- The system in which the stream is closing. -/
def closed (w : System κ) (r : StreamRef) : System κ :=
  w.updateStatus r fun f => { f with closing := true }

/-- The system in which the host has agreed to cancel the stream's transfer. -/
def cancelled (w : System κ) (env : Surroundings κ) (r : StreamRef) : System κ :=
  ((env.host.cancel (w.stream r).id).left
      ((w.closed r).record (@Entry.hostCall _ (w.stream r).id .cancel r))).record
    (@Entry.hostAnswer _ (w.stream r).id .cancel true r)

/-- The stream is marked, and nothing else. -/
theorem status_closed (made : w.Has r) :
    (w.closed r).status r = { w.status r with closing := true } := by
  rw [closed, status_updateStatus, if_pos ⟨rfl, made⟩]

end System

namespace StreamRef

/-- A close that is accepted gets to its end once the host, if it is asked, has agreed. -/
theorem left_close_of_ok (live : (w.status r).state ≠ .destroyed)
    (accepted : ((r.close env).on w).1 = .ok (.ok ())) :
    ∃ x, ((w.status r).cancellable = false ∧ x = w.closed r ∨
        (w.status r).cancellable = true ∧ x = w.cancelled env r) ∧
      (r.close env).left w = (r.closeDown env (w.status r).closing).left x := by
  replace live : (w.stream r).status.state ≠ .destroyed := live
  simp only [StreamRef.close, Act.on_get_bind, Act.left_get_bind, Act.on_modify_bind,
    Act.left_modify_bind, if_neg live] at accepted ⊢
  split at accepted
  · rename_i active
    rw [if_pos active]
    simp only [Act.left_modify_bind, Act.on_modify_bind, askHost, bind_assoc, pure_bind]
      at accepted ⊢
    obtain ⟨answer, -, hRest, hEnd⟩ := Act.of_on_bind_ok accepted
    rw [hEnd]
    cases answer with
    | error e => cases hRest
    | ok _ => exact ⟨w.cancelled env r, .inr ⟨active, rfl⟩, Act.left_bind_pure _ _ _⟩
  · rename_i settled
    rw [if_neg settled]
    exact ⟨_, .inl ⟨Bool.eq_false_iff.2 settled, rfl⟩, Act.left_bind_pure _ _ _⟩

/-- To close a stream that is torn down does nothing. -/
theorem left_close_of_torn (torn : (w.status r).state = .destroyed) :
    (r.close env).left w = w := by
  replace torn : (w.stream r).status.state = .destroyed := torn
  simp only [StreamRef.close, Act.left_get_bind, if_pos torn]
  rfl

variable (serves : env.Serves look manners)

include serves

/-- While the host is asked, a stream that is closing stays so or is torn down. -/
theorem spent_agreed (made : w.Has r) {x : System κ}
    (agreed : x = w.closed r ∨ x = w.cancelled env r) : x.Has r ∧ (x.status r).Spent := by
  have hMade : (w.closed r).Has r := (w.has_updateStatus r r _).2 made
  have hSpent : ((w.closed r).status r).Spent := .inl (by rw [System.status_closed made])
  rcases agreed with rfl | rfl
  · exact ⟨hMade, hSpent⟩
  · have hAsked := ((Ebb.pervades look r).serves serves).cancel (w.stream r).id
      ((w.closed r).record (@Entry.hostCall _ (w.stream r).id .cancel r))
    exact ⟨Nat.lt_of_lt_of_le hMade hAsked.grows, hAsked.spent hMade hSpent⟩

/-- A stream whose close was accepted is spent. -/
theorem spent_of_close (made : w.Has r)
    (accepted : ((r.close env).on w).1 = .ok (.ok ())) :
    ((r.close env).left w).Has r ∧ (((r.close env).left w).status r).Spent := by
  by_cases torn : (w.status r).state = .destroyed
  · rw [left_close_of_torn torn]
    exact ⟨made, .inr torn⟩
  · obtain ⟨x, hAgreed, hLeft⟩ := left_close_of_ok torn accepted
    rw [hLeft]
    obtain ⟨hMade, hSpent⟩ := spent_agreed serves made (hAgreed.imp And.right And.right)
    have hDown : Ebb r x ((r.closeDown env (w.status r).closing).left x) :=
      (Ebb.carries look ((Ebb.pervades look r).serves serves)).legs <|
        Legs.closeDown _ fun _ _ _ => trivial
    exact ⟨Nat.lt_of_lt_of_le hMade hDown.grows, hDown.spent hMade hSpent⟩

end StreamRef

/-- Once a close has returned, whatever else goes on, the stream asks the host for nothing any more,
except for its transfer if that was not asked for by then. Of this request it is asked once, and it
is never cancelled. -/
theorem silent_of_close (serves : env.Serves look Surroundings.any) (made : w.Has r)
    (accepted : ((r.close env).on w).1 = .ok (.ok ()))
    (later : Run look Surroundings.any ((r.close env).left w) u) :
    u.asked r = ((r.close env).left w).asked r ∨
      (((r.close env).left w).status r).Pledged ∧
        ∃ config, u.asked r = .start config :: ((r.close env).left w).asked r := by
  obtain ⟨hMade, hSpent⟩ := StreamRef.spent_of_close serves made accepted
  have hLater : Ebb r ((r.close env).left w) u :=
    (Ebb.pervades look r).run (fun w f => .of_deskwork (.dispatcher f)) later
  exact (hLater.wanes hMade hSpent).asked.imp And.left fun ⟨hPledged, _, hStart⟩ =>
    ⟨hPledged, hStart⟩

/-- Surroundings with a context that runs elsewhere and takes teardowns. -/
def Surroundings.deferring : Surroundings Client.plain :=
  { obliging with isCurrent := pure false, scheduleTeardown := fun _ => pure true }

/-- They make no calls, whatever they put off. -/
theorem Surroundings.serves_deferring : deferring.Serves (fun _ => ()) Surroundings.any :=
  .intro (fun _ => False) (fun _ h => h.elim)
    ⟨fun _ _ _ => .pure _, fun _ _ => .pure _, fun _ _ _ => .pure _, fun _ _ => .pure _,
      fun _ => .pure _, .pure _, fun _ => .pure _, fun _ => .pure _⟩ trivial

/-- A stream of the client's own that was not asked for. -/
def unasked : System Client.plain :=
  Surroundings.deferring.played [⟨_, .makeStream (.drawn 0) { url := "" } true⟩]

/-- The stream is made by a call of its client. -/
theorem reached_unasked : Reached (fun _ => ()) Surroundings.any unasked :=
  Surroundings.reached_played Surroundings.serves_deferring _

/-- It is closed, and started after that, twice. -/
def unaskedClosed : System Client.plain :=
  ((⟨0⟩ : StreamRef).close Surroundings.deferring).left unasked

def unaskedStarted : System Client.plain :=
  (Call.each Surroundings.deferring [⟨_, .start ⟨0⟩⟩, ⟨_, .close ⟨0⟩⟩, ⟨_, .start ⟨0⟩⟩]).left
    unaskedClosed

/-- The close and the starts are calls of its client as well. -/
theorem run_unaskedStarted :
    Run (fun _ => ()) Surroundings.any unaskedClosed unaskedStarted :=
  .act .refl (.each Surroundings.serves_deferring _)

/-- Two starts after the close ask the host for the transfer once at most. -/
theorem silent_of_close_unasked :
    ((⟨0⟩ : StreamRef).close Surroundings.deferring |>.on unasked).1 = .ok (.ok ()) ∧
    (unaskedStarted.asked ⟨0⟩ = unaskedClosed.asked ⟨0⟩ ∨
      (unaskedClosed.status ⟨0⟩).Pledged ∧
        ∃ config, unaskedStarted.asked ⟨0⟩ = .start config :: unaskedClosed.asked ⟨0⟩) :=
  ⟨by decide +kernel, silent_of_close Surroundings.serves_deferring (by decide +kernel)
    (by decide +kernel) run_unaskedStarted⟩

/-- The host is asked for the transfer of a stream whose close was accepted. -/
theorem not_silent_unasked :
    ¬ ∀ (env : Surroundings Client.plain) (w u : System Client.plain) (r : StreamRef),
      env.Serves (fun _ => ()) Surroundings.any → Reached (fun _ => ()) Surroundings.any w →
      w.Has r → ((r.close env).on w).1 = .ok (.ok ()) →
      Run (fun _ => ()) Surroundings.any ((r.close env).left w) u →
      u.asked r = ((r.close env).left w).asked r := by
  intro h
  have hSilent := h Surroundings.deferring unasked unaskedStarted ⟨0⟩ Surroundings.serves_deferring
    reached_unasked (by decide +kernel) (by decide +kernel) run_unaskedStarted
  revert hSilent
  decide +kernel

end HostedStreams
