import HostedStreams.Proofs.Alike
import HostedStreams.Stream.Transfer

/-! What streams do where sinks panic, against what they do where none does. A stream is in its
next state before it hands anything over, so a panic takes nothing from it but the rest of the
pass. Only where an event stands for the acknowledgement as well is there something left to do
after a pass. -/
namespace HostedStreams

variable {κ : Client} {α : Type}

namespace Temper

/-- Where no sink panics, all sinks return. -/
theorem Even.calm {even : Temper κ} (h : even.Even) (bearing : Bearing κ) (r : StreamRef) :
    (Surroundings.recording bearing even).Calm r := by
  intro sink event w
  obtain ⟨handled, hTaken⟩ := h w.past
  exact ⟨handled, by rw [on_deliver_recording, hTaken]; rfl⟩

end Temper

section

variable (bearing : Bearing κ) {temper : Temper κ} (even : Temper κ) {w v : System κ}

/-- What a client works out from its memory is the same in systems that are alike. -/
theorem same_recalling (f : κ.State → Except Payload α × κ.State) (h : w.Alike temper v) :
    Act.Same temper (Act.recalling f) (Act.recalling f) w v := by
  rw [Act.Same, Act.left, Act.left, Act.on_recalling, Act.on_recalling, h.client]
  exact ⟨rfl, h.updateClient fun _ => (f w.client).2⟩

/-- The host is asked to cancel a transfer. -/
theorem same_cancel (h : w.Alike temper v) (r : StreamRef) (id : StreamId) :
    Act.Same temper (askHost (.recording bearing temper) r id .cancel (·.cancel id))
      (askHost (.recording bearing even) r id .cancel (·.cancel id)) w v := by
  simp only [askHost, Act.same_modify_bind]
  have hAnswered := same_recalling (bearing.cancel id)
    (h.record (@Entry.hostCall _ id .cancel r))
  exact hAnswered.bind fun answer _ => Act.same_pure (hAnswered.2.record _) _

/-- Whether a stream is foreign is the same in both. -/
theorem same_isForeign (h : w.Alike temper v) (r : StreamRef) :
    Act.Same temper (r.isForeign (.recording bearing temper))
      (r.isForeign (.recording bearing even)) w v := by
  simp only [StreamRef.isForeign, Act.same_get_bind, (h.stream r).binding]
  split
  · exact Act.same_pure h _
  · have hAsked := same_recalling bearing.isCurrent h
    exact hAsked.bind fun _ _ => Act.same_pure hAsked.2 _
  · simp only [Act.same_get_bind, h.inContext]
    exact Act.same_pure h _

/-- Whether a teardown is taken is the same in both. -/
theorem same_scheduleTeardown (h : w.Alike temper v) (r : StreamRef) :
    Act.Same temper (r.scheduleTeardown (.recording bearing temper))
      (r.scheduleTeardown (.recording bearing even)) w v := by
  simp only [StreamRef.scheduleTeardown, Act.same_get_bind, (h.stream r).binding, (h.stream r).id]
  cases (w.stream r).binding with
  | free => exact Act.same_pure h _
  | client => exact same_recalling _ h
  | worker =>
    simp only [Act.same_get_bind]
    rw [h.reads (f := (·.phase)) fun _ _ => rfl]
    split
    · simp only [Act.same_modify_bind]
      exact Act.same_pure (h.updateDispatcher fun _ n => ⟨n, rfl⟩) _
    · exact Act.same_pure h _

end

section

variable (bearing : Bearing κ) {temper even : Temper κ} (hEven : even.Even) {w v : System κ}
  {r : StreamRef}

/-- Nothing happens to a stream in a pass. -/
theorem status_fire_recording (temper : Temper κ) (r : StreamRef) (event : Event) (w : System κ)
    (q : StreamRef) :
    ((fire (.recording bearing temper) (.stream r) event).left w).status q = w.status q := by
  obtain hLeft | hLeft := left_fire_recording bearing temper r event w
  · rw [hLeft]
    rfl
  · rw [hLeft, System.status_updateSource]
    rfl

/-- A stream that is created goes about its acknowledgement to the end, or takes none. -/
theorem returns_apply_created (steadfast : temper.Steadfast) {event : Event}
    (other : event ≠ .created) (handing : Entry.handing? w.past = some event)
    (created : (w.status r).state = .created) :
    (r.apply (.recording bearing temper) .created).Returns w := by
  rw [Act.Returns, StreamRef.apply, Act.on_get_bind]
  cases hClosing : (w.status r).isClosing with
  | true =>
    simp only [Status.react, hClosing]
    exact ⟨false, rfl⟩
  | false =>
    simp only [Status.react, hClosing, created]
    exact returns_fire_created steadfast other (w := w.updateStatus r fun _ =>
      { w.status r with state := .opening }) handing

include hEven

/-- A pass to the same sinks. -/
theorem near_fire (h : w.Alike temper v) (hAudience : v.audience r = w.audience r) (event : Event) :
    Act.Near temper (fire (.recording bearing temper) (.stream r) event)
      (fire (.recording bearing even) (.stream r) event) w v := by
  refine ⟨fun _ => returns_fire (hEven.calm bearing r) event v, ?_⟩
  have hAired : (w.aired temper r event).Alike temper (v.aired even r event) := by
    have hPass := h.past.same (.pass (.stream r) event (.state (w.status r).state))
    have hPassed := hPass.passing hEven (.stream r) event (.state (w.status r).state)
      w.dispatcher.inContext (w.audience r)
    refine { h with past := ?_ }
    rw [System.aired, System.aired, hAudience, h.status]
    have hTaking : v.taking r event = w.taking r event := by
      funext sink
      rw [System.taking, System.taking, h.status, h.inContext]
    rw [hTaking]
    exact hPassed
  have hOther : (w.aired temper r event).Alike temper
      ((fire (.recording bearing even) (.stream r) event).left v) := by
    obtain hLeft | hLeft := left_fire_recording bearing even r event v
    · rw [hLeft]
      exact hAired
    · rw [hLeft]
      exact hAired.prune_right r
  obtain hLeft | hLeft := left_fire_recording bearing temper r event w
  · rw [hLeft]
    exact hOther
  · rw [hLeft]
    exact hOther.prune_left r

/-- A teardown is the same up to the panic of a sink. -/
theorem near_destroy (h : w.Alike temper v) (r : StreamRef) :
    Act.Near temper (r.destroy (.recording bearing temper)) (r.destroy (.recording bearing even))
      w v := by
  simp only [StreamRef.destroy, Act.near_get_bind, h.status]
  split
  · rename_i live
    have hMade := System.has_of_state_ne live
    simp only [Act.near_modify_bind]
    have hTorn := h.updateStatus r (f := Status.tornDown) (g := Status.tornDown)
      rfl fun _ => live
    have hAudience : (v.updateStatus r Status.tornDown).audience r =
        (w.updateStatus r Status.tornDown).audience r := by
      simp only [System.audience, System.source_updateStatus]
      exact h.audience live
    have hFire := near_fire bearing hEven hTorn hAudience .destroyed
    have hState : (((fire (.recording bearing temper) (.stream r) .destroyed).left
        (w.updateStatus r Status.tornDown)).status r).state = .destroyed := by
      rw [status_fire_recording, System.status_updateStatus, if_pos ⟨rfl, hMade⟩]
      rfl
    refine hFire.bind (fun _ _ => ?_) fun _ _ _ _ => ?_
    · exact hFire.2.clear_right hState
    · exact ⟨fun _ => ⟨(), rfl⟩, hFire.2.updateSource r fun live => absurd hState live⟩
  · exact Act.near_pure h _ _

/-- An event that is applied changes the status in the same way before any sink can panic. -/
theorem near_apply (h : w.Alike temper v) (r : StreamRef) (event : Event) :
    Act.Near temper (r.apply (.recording bearing temper) event)
      (r.apply (.recording bearing even) event) w v := by
  rcases hReact : (w.status r).react event with ⟨t, reaction⟩
  simp only [StreamRef.apply, Act.near_get_bind, h.status, hReact, Act.near_modify_bind]
  cases reaction with
  | fire fired =>
    obtain ⟨hTakes, -⟩ := Status.takes_of_react_fire hReact
    apply near_fire bearing hEven (h.updateStatus r rfl fun _ => hTakes.state_ne)
    simp only [System.audience, System.source_updateStatus]
    exact h.audience hTakes.state_ne
  | destroy =>
    obtain ⟨rfl, -⟩ := Status.of_react_destroy hReact
    exact (near_destroy bearing hEven (h.updateStatus r rfl fun live => live) r).bind_pure _ _
  | ignore =>
    obtain rfl := Status.of_react_ignore hReact
    exact Act.near_pure (h.updateStatus r rfl fun live => live) _ _

/-- A stream takes what the worker hands it. Its acknowledgement, where the event stands for that
too, must not be cut short. -/
theorem near_receive (h : w.Alike temper v) (steadfast : temper.Steadfast) (r : StreamRef)
    {event : Event} (handing : Entry.handing? w.past = some event) :
    Act.Near temper (r.receive (.recording bearing temper) event)
      (r.receive (.recording bearing even) event) w v := by
  simp only [StreamRef.receive, Act.near_get_bind, h.status]
  split
  · rename_i hImplied
    obtain ⟨hImplies, hCreated⟩ := by simpa using hImplied
    have hOther : event ≠ .created := fun he => by subst he; cases hImplies
    have hFirst := near_apply bearing hEven h r .created
    refine hFirst.bind_returns ?_ fun _ _ _ _ => near_apply bearing hEven hFirst.2 r event
    exact returns_apply_created bearing steadfast hOther handing hCreated
  · exact near_apply bearing hEven h r event

/-- The host is asked the same before the last teardown. -/
theorem near_drop (h : w.Alike temper v) (r : StreamRef) :
    Act.Near temper (r.drop (.recording bearing temper)) (r.drop (.recording bearing even))
      w v := by
  have hStatus : (v.stream r).status = (w.stream r).status := h.status r
  simp only [StreamRef.drop, Act.near_get_bind, hStatus, (h.stream r).id]
  split
  · split
    · have hAsked := same_cancel bearing even h r (w.stream r).id
      exact hAsked.bind_near fun _ _ => near_destroy bearing hEven hAsked.2 r
    · exact near_destroy bearing hEven h r
  · exact Act.near_pure h _ _

theorem near_release (h : w.Alike temper v) (r : StreamRef) :
    Act.Near temper (r.release (.recording bearing temper)) (r.release (.recording bearing even))
      w v := by
  have hLess := h.updateHandles r (· - 1)
  simp only [StreamRef.release, Act.near_modify_bind, Act.near_get_bind]
  rw [(hLess.stream r).handles]
  split
  · exact near_drop bearing hEven hLess r
  · exact Act.near_pure hLess _ _

theorem near_holding {a : Act κ α} {b : Act κ α} (r : StreamRef)
    (h : Act.Near temper a b (w.updateStream r fun s => { s with handles := s.handles + 1 })
      (v.updateStream r fun s => { s with handles := s.handles + 1 })) :
    Act.Near temper (r.holding (.recording bearing temper) a)
      (r.holding (.recording bearing even) b) w v := by
  simp only [StreamRef.holding, StreamRef.acquire, Act.near_modify_bind]
  exact h.after (near_release bearing hEven h.2 r)

theorem near_closeDown (h : w.Alike temper v) (r : StreamRef) (already : Bool) :
    Act.Near temper (r.closeDown (.recording bearing temper) already)
      (r.closeDown (.recording bearing even) already) w v := by
  have hForeign := same_isForeign bearing even h r
  apply hForeign.bind_near
  intro foreign _
  split
  · split
    · exact Act.near_pure hForeign.2 _ _
    · have hQueued := same_scheduleTeardown bearing even hForeign.2 r
      apply hQueued.bind_near
      intro queued _
      split
      · exact Act.near_pure hQueued.2 _ _
      · exact near_destroy bearing hEven hQueued.2 r
  · exact near_destroy bearing hEven hForeign.2 r

/-- A close asks the host the same, and goes on the same up to a panic in the teardown. -/
theorem near_close (h : w.Alike temper v) (r : StreamRef) :
    Act.Near temper (r.close (.recording bearing temper)) (r.close (.recording bearing even))
      w v := by
  have hStatus : (v.stream r).status = (w.stream r).status := h.status r
  have hClosing := h.updateStatus r (f := fun f => { f with closing := true })
    (g := fun f => { f with closing := true }) rfl fun live => live
  simp only [StreamRef.close, Act.near_get_bind, hStatus, (h.stream r).id]
  split
  · exact Act.near_pure h _ _
  · simp only [Act.near_modify_bind]
    split
    · have hAsked := same_cancel bearing even hClosing r (w.stream r).id
      apply hAsked.bind_near
      intro answer _
      cases answer with
      | ok _ => exact (near_closeDown bearing hEven hAsked.2 r _).bind_pure _ _
      | error e =>
        simp only [Act.near_modify_bind]
        exact Act.near_pure (hAsked.2.updateStatus r (f := fun f => { f with closing := false })
          (g := fun f => { f with closing := false }) rfl fun live => live) _ _
    · exact (near_closeDown bearing hEven hClosing r _).bind_pure _ _

end

end HostedStreams
