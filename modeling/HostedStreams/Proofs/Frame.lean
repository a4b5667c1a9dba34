import HostedStreams.Dispatch.Registry
import HostedStreams.Proofs.Execution

/-! Which parts of a system an update reaches. -/
namespace HostedStreams.System

variable {κ : Client}

/-- Whether the stream was made. -/
def Has (w : System κ) (r : StreamRef) : Prop :=
  r.number < w.streams.length

instance (w : System κ) (r : StreamRef) : Decidable (w.Has r) :=
  inferInstanceAs (Decidable (_ < _))

/-- Of a stream that was never made nothing is known. -/
theorem stream_of_not_has {w : System κ} {r : StreamRef} (h : ¬ w.Has r) :
    w.stream r = .absent := by
  simp [stream, List.getElem?_eq_none (Nat.le_of_not_lt h)]

/-- Only streams that were made can be anything but torn down. -/
theorem has_of_state_ne {w : System κ} {r : StreamRef} (h : (w.status r).state ≠ .destroyed) :
    w.Has r := by
  refine Decidable.byContradiction fun hNot => h ?_
  rw [status, stream_of_not_has hNot]
  rfl

@[simp] theorem status_record (w : System κ) (e : Entry κ.Note) (r : StreamRef) :
    (w.record e).status r = w.status r := rfl

/-! Updates of one stream. -/

/-- An update reaches the stream that it is made to, if there is one. -/
theorem stream_updateStream (w : System κ) (r q : StreamRef) (f : Stream → Stream) :
    (w.updateStream r f).stream q = if q = r ∧ w.Has r then f (w.stream q) else w.stream q := by
  by_cases hq : q = r
  · subst hq
    by_cases hHas : q.number < w.streams.length <;> simp [stream, updateStream, Has, hHas]
  · have hNumber : r.number ≠ q.number := fun he => hq (by cases q; cases r; cases he; rfl)
    simp [stream, updateStream, hq, hNumber]

@[simp] theorem has_updateStream (w : System κ) (r q : StreamRef) (f : Stream → Stream) :
    (w.updateStream r f).Has q ↔ w.Has q := by
  simp [Has, updateStream]

@[simp] theorem past_updateStream (w : System κ) (r : StreamRef) (f : Stream → Stream) :
    (w.updateStream r f).past = w.past := rfl

/-- An update shows in the status of the stream that it is made to. -/
theorem status_updateStream (w : System κ) (r q : StreamRef) (f : Stream → Stream) :
    (w.updateStream r f).status q =
      if q = r ∧ w.Has r then (f (w.stream q)).status else w.status q := by
  simp only [status, stream_updateStream]
  split <;> rfl

/-- An update shows in the sinks of the stream that it is made to. -/
theorem source_updateStream (w : System κ) (r q : StreamRef) (f : Stream → Stream) :
    (w.updateStream r f).source (.stream q) =
      if q = r ∧ w.Has r then (f (w.stream q)).source else w.source (.stream q) := by
  simp only [source, stream_updateStream]
  split <;> rfl

@[simp] theorem has_updateStatus (w : System κ) (r q : StreamRef) (f : Status → Status) :
    (w.updateStatus r f).Has q ↔ w.Has q := by
  simp [updateStatus]

/-- An update of a status reaches that status alone. -/
theorem status_updateStatus (w : System κ) (r q : StreamRef) (f : Status → Status) :
    (w.updateStatus r f).status q = if q = r ∧ w.Has r then f (w.status q) else w.status q :=
  status_updateStream ..

/-- No update of a status reaches the sinks. -/
@[simp] theorem source_updateStatus (w : System κ) (r : StreamRef) (o : Origin)
    (f : Status → Status) : (w.updateStatus r f).source o = w.source o := by
  cases o with
  | stream q =>
    rw [updateStatus, source_updateStream]
    split <;> rfl
  | hub h => rfl

@[simp] theorem past_updateStatus (w : System κ) (r : StreamRef) (f : Status → Status) :
    (w.updateStatus r f).past = w.past := rfl

/-- What becomes of the stream goes by what it is. -/
theorem updateStream_congr {w : System κ} {r : StreamRef} {f g : Stream → Stream}
    (h : f (w.stream r) = g (w.stream r)) : w.updateStream r f = w.updateStream r g := by
  have hModify : w.streams.modify r.number f = w.streams.modify r.number g := by
    apply List.ext_getElem?
    intro i
    rw [List.getElem?_modify, List.getElem?_modify]
    by_cases hi : r.number = i
    · subst hi
      cases hs : w.streams[r.number]? with
      | none => simp
      | some s =>
        simp only [stream, hs, Option.getD_some] at h
        simp [h]
    · simp [hi]
  simp only [updateStream, hModify]

/-- A change that leaves the stream as it is changes nothing. -/
theorem updateStream_of_eq {w : System κ} {r : StreamRef} {f : Stream → Stream}
    (h : f (w.stream r) = w.stream r) : w.updateStream r f = w := by
  rw [updateStream_congr (g := id) h, updateStream, List.modify_id]

/-- A change that leaves the status as it is changes nothing. -/
theorem updateStatus_of_eq {w : System κ} {r : StreamRef} {f : Status → Status}
    (h : f (w.status r) = w.status r) : w.updateStatus r f = w :=
  updateStream_of_eq (congrArg (fun status => { w.stream r with status }) h)

/-- Two changes of one stream make one. -/
theorem updateStream_updateStream (w : System κ) (r : StreamRef) (f g : Stream → Stream) :
    (w.updateStream r f).updateStream r g = w.updateStream r (g ∘ f) := by
  simp only [updateStream, List.modify_modify_eq]

/-- Changes of different streams do not get into each other's way. -/
theorem updateStream_comm (w : System κ) {r q : StreamRef} (other : q ≠ r) (f g : Stream → Stream) :
    (w.updateStream r f).updateStream q g = (w.updateStream q g).updateStream r f := by
  have hNumber : r.number ≠ q.number := fun he => other (by cases q; cases r; cases he; rfl)
  simp only [updateStream, List.modify_modify_ne f g w.streams hNumber]

/-- Writing a status back changes nothing. -/
theorem updateStatus_self (w : System κ) (r : StreamRef) :
    (w.updateStatus r fun _ => w.status r) = w :=
  updateStatus_of_eq rfl

/-! Handles. -/

/-- What handles there are makes no difference to the status. -/
theorem status_handles (w : System κ) (r q : StreamRef) (f : Nat → Nat) :
    (w.updateStream r fun s => { s with handles := f s.handles }).status q = w.status q := by
  rw [status_updateStream]
  split <;> rfl

/-! Updates of sources. -/

@[simp] theorem has_updateSource (w : System κ) (o : Origin) (q : StreamRef)
    (f : Source → Source) : (w.updateSource o f).Has q ↔ w.Has q := by
  cases o <;> simp [updateSource, Has, updateStream]

@[simp] theorem past_updateSource (w : System κ) (o : Origin) (f : Source → Source) :
    (w.updateSource o f).past = w.past := by
  cases o <;> rfl

@[simp] theorem dispatcher_updateSource (w : System κ) (o : Origin) (f : Source → Source) :
    (w.updateSource o f).dispatcher = w.dispatcher := by
  cases o <;> rfl

@[simp] theorem status_updateSource (w : System κ) (o : Origin) (q : StreamRef)
    (f : Source → Source) : (w.updateSource o f).status q = w.status q := by
  cases o with
  | stream r =>
    rw [updateSource, status_updateStream]
    split <;> rfl
  | hub h => rfl

/-- An update of a stream's sinks reaches those sinks alone. -/
theorem source_updateSource (w : System κ) (r q : StreamRef) (f : Source → Source) :
    (w.updateSource (.stream r) f).source (.stream q) =
      if q = r ∧ w.Has r then f (w.source (.stream q)) else w.source (.stream q) :=
  source_updateStream ..

/-! A stream that is made. -/

/-- The stream that is appended is the last one. -/
theorem stream_append (w : System κ) (made : Stream) (q : StreamRef) :
    ({ w with streams := w.streams ++ [made] } : System κ).stream q =
      if q.number = w.streams.length then made else w.stream q := by
  simp only [stream, List.getElem?_append]
  split
  · rw [if_neg (by omega)]
  · by_cases hq : q.number = w.streams.length
    · simp [hq]
    · rw [if_neg hq, List.getElem?_eq_none (by simp; omega), List.getElem?_eq_none (by omega)]

/-- One stream more is made than before. -/
theorem has_append (w : System κ) (made : Stream) (q : StreamRef) :
    ({ w with streams := w.streams ++ [made] } : System κ).Has q ↔
      w.Has q ∨ q.number = w.streams.length := by
  simp only [Has, List.length_append, List.length_singleton]
  omega

/-! A stream that is torn down. -/

/-- The teardown of a stream that is not torn down is a pass, after which all sinks are detached. -/
theorem on_destroy_of_live {env : Surroundings κ} {w : System κ} {r : StreamRef}
    (live : (w.status r).state ≠ .destroyed) : (r.destroy env).on w =
      (do
        let _ ← fire env (.stream r) .destroyed
        (Origin.stream r).clear : Act κ Unit).on (w.updateStatus r Status.tornDown) := by
  simp only [StreamRef.destroy, Act.on_get_bind, if_pos live, Act.on_modify_bind]

/-- What is torn down is not torn down again. -/
theorem on_destroy_of_torn {env : Surroundings κ} {w : System κ} {r : StreamRef}
    (torn : (w.status r).state = .destroyed) : (r.destroy env).on w = (.ok (), w) := by
  simp only [StreamRef.destroy, Act.on_get_bind, torn]
  rfl

/-- There is nothing left to tear down. -/
theorem left_destroy_of_torn {env : Surroundings κ} {w : System κ} {r : StreamRef}
    (torn : (w.status r).state = .destroyed) : (r.destroy env).left w = w := by
  rw [Act.left, on_destroy_of_torn torn]

/-- Nothing happens when the last handle of what is torn down is given up. -/
theorem returns_release_of_torn {env : Surroundings κ} {w : System κ} {r : StreamRef}
    (torn : (w.status r).state = .destroyed) : (r.release env).Returns w := by
  generalize hGiven : (w.updateStream r fun s => { s with handles := s.handles - 1 }) = v
  have hTorn : (v.status r).state = .destroyed := by
    rw [← hGiven, status_updateStream]
    split <;> exact torn
  have hDrop : (r.drop env).Returns v := by
    change Act.Returns (if (v.status r).state ≠ .destroyed then _ else pure ()) v
    rw [if_neg fun live => live hTorn]
    exact ⟨(), rfl⟩
  have hRest : Act.Returns (if (v.stream r).handles = 0 then r.drop env else pure ()) v := by
    split
    · exact hDrop
    · exact ⟨(), rfl⟩
  rw [← hGiven] at hRest
  exact hRest

/-- Giving up a handle of a stream that is torn down only counts. -/
theorem left_release_of_torn {env : Surroundings κ} {w : System κ} {r : StreamRef}
    (torn : (w.status r).state = .destroyed) :
    (r.release env).left w = w.updateStream r fun s => { s with handles := s.handles - 1 } := by
  simp only [StreamRef.release, Act.left_modify_bind, Act.left_get_bind]
  split
  · have hTorn : ((w.updateStream r fun s => { s with handles := s.handles - 1 }).status r).state =
        .destroyed := by
      rw [status_updateStream]
      split <;> exact torn
    simp only [StreamRef.drop, Act.left_get_bind]
    exact congrArg (Act.left · _) (if_neg fun live => live hTorn)
  · rfl

/-! Events that a stream receives. -/

/-- No acknowledgement is understood where it was given or is not implied. -/
theorem on_receive_of_due {env : Surroundings κ} {w : System κ} {r : StreamRef} {event : Event}
    (due : (event.impliesCreated && (w.status r).state = .created) = false) :
    (r.receive env event).on w = (r.apply env event).on w := by
  simp only [StreamRef.receive, Act.on_get_bind, due]
  rfl

/-- Nothing happens where an event neither changes the status nor has any other effect. -/
theorem on_apply_of_ignored {env : Surroundings κ} {w : System κ} {r : StreamRef} {event : Event}
    (h : (w.status r).react event = (w.status r, .ignore)) :
    (r.apply env event).on w = (.ok false, w) := by
  simp only [StreamRef.apply, Act.on_get_bind, h, Act.on_modify_bind, updateStatus_self]
  rfl

/-! The dispatcher's registry. -/

/-- The system without the registry's entry of the identifier. -/
def struck (w : System κ) (id : StreamId) : System κ :=
  w.updateDispatcher fun d => d.setRegistry (d.registry.filter (·.1 != id))

/-- The system without the registry's entries of streams that are torn down. -/
def pruned (w : System κ) : System κ :=
  w.updateDispatcher fun d =>
    d.setRegistry (d.registry.filter fun (_, r) => (w.status r).state ≠ .destroyed)

/-- What is not registered cannot be struck off. -/
theorem on_remove_of_none {w : System κ} {id : StreamId}
    (h : w.dispatcher.registered? id = none) :
    (Registry.remove id : Act κ _).on w = (.ok none, w) := by
  rw [Registry.remove, Act.on_get_bind, h]
  rfl

/-- What is struck off is handed out. -/
theorem on_remove_of_some {w : System κ} {id : StreamId} {r : StreamRef}
    (h : w.dispatcher.registered? id = some r) :
    (Registry.remove id : Act κ _).on w = (.ok (some r), w.struck id) := by
  rw [Registry.remove, Act.on_get_bind, h]
  rfl

/-- A stream that is registered and alive is found. -/
theorem on_find?_of_live {env : Surroundings κ} {w : System κ} {id : StreamId} {r : StreamRef}
    (known : w.dispatcher.registered? id = some r) (live : (w.status r).state ≠ .destroyed) :
    (Registry.find? env id).on w = (.ok (some r), w) := by
  simp only [Registry.find?, Act.on_get_bind, known, if_neg live]
  rfl

/-- Only a registered stream is found, and nothing happens to it. -/
theorem of_find?_some {env : Surroundings κ} {w : System κ} {id : StreamId} {r : StreamRef}
    (h : ((Registry.find? env id).on w).1 = .ok (some r)) :
    w.dispatcher.registered? id = some r ∧ (Registry.find? env id).left w = w := by
  rw [Registry.find?] at h ⊢
  obtain ⟨_, hGet, h, hLeft⟩ := Act.of_on_bind_ok h
  cases hGet
  rw [hLeft]
  cases hFound : w.dispatcher.registered? id with
  | none =>
    simp only [hFound] at h
    cases h
  | some q =>
    simp only [hFound] at h ⊢
    split at h
    · obtain ⟨_, -, h, -⟩ := Act.of_on_bind_ok h
      cases h
    · rename_i live
      rw [if_neg live]
      cases h
      exact ⟨rfl, rfl⟩

/-- However the search for a stream goes, it ends. What is found is not torn down, and what is
not found is not registered any more. -/
theorem ends_find? (env : Surroundings κ) (w : System κ) (id : StreamId) :
    (Registry.find? env id).Ends w fun found v => match found with
      | some r => w.dispatcher.registered? id = some r ∧ (w.status r).state ≠ .destroyed ∧ v = w
      | none => v.dispatcher.registered? id = none := by
  rw [Registry.find?]
  apply Act.Ends.on_bind (a := get) rfl
  cases hFound : w.dispatcher.registered? id with
  | none => exact ⟨none, w, rfl, hFound⟩
  | some r =>
    by_cases torn : (w.status r).state = .destroyed
    · have hForgotten : (Registry.forget env id).Ends w fun _ v =>
          v.dispatcher.registered? id = none := by
        apply Act.Ends.on_bind (on_remove_of_some hFound)
        apply (returns_release_of_torn (w := w.struck id) torn).ends
        rw [left_release_of_torn (w := w.struck id) torn]
        change Option.map _ (List.find? _ (List.filter _ _)) = none
        simp [List.find?_filter]
      simp only [if_pos torn]
      exact hForgotten.bind fun _ v hv => ⟨none, v, rfl, hv⟩
    · simp only [if_neg torn]
      exact ⟨some r, w, rfl, rfl, torn, rfl⟩

end HostedStreams.System
