import HostedStreams.Proofs.Steps

/-! Relations that hold across steps outside passes, and what it takes for them to hold
across passes too: that each thing a pass does upholds the relation, and that the sinks
do. -/
namespace HostedStreams

variable {κ : Client} {α β : Type}

/-- The relation holds across each step outside passes. -/
structure Steady (look : System κ → κ.Note) (R : System κ → System κ → Prop) : Prop where
  refl : ∀ w, R w w
  trans : ∀ {u v w}, R u v → R v w → R u w
  grows : ∀ {w v}, R w v → w.streams.length ≤ v.streams.length
  quiet : ∀ {w v}, Quiet look w v → R w v

/-- The standing of a stream is its state. -/
theorem System.standing_updateStatus {w : System κ} {r : StreamRef} (h : w.Has r)
    (f : Status → Status) :
    (w.updateStatus r f).standing (.stream r) = .state (f (w.status r)).state := by
  simp [standing, status_updateStatus, h]

/-- The system in which the pass of a teardown begins. -/
def System.tearing (w : System κ) (r : StreamRef) : System κ :=
  (w.updateStatus r Status.tornDown).record (.pass (.stream r) .destroyed (.state .destroyed))

/-- The relation holds across what is done one after the other, and when a sink is done with an
event. This is all that passes need of what goes on outside them. -/
structure Smooth (R : System κ → System κ → Prop) : Prop where
  refl : ∀ w, R w w
  trans : ∀ {u v w}, R u v → R v w → R u w
  doneWith : ∀ (w : System κ) (sink : SinkRef),
    R w (w.updateSink sink fun life => { life with busy := life.busy - 1 })

/-- The relation holds as a sink whose turn it is starts to take the event. -/
def Hands (R : System κ → System κ → Prop) (o : Origin) (event : Event) : Prop :=
  ∀ {w v : System κ} (a : Attachment), w.alive a.sink = true → (w.source o).holds a = true →
    (v = w.updateSink a.sink fun life => { life with busy := life.busy + 1 }) →
    R w (v.record (.delivery a.sink o event (v.standing o) v.dispatcher.inContext))

namespace Smooth

variable {R : System κ → System κ → Prop} (hR : Smooth R)

include hR

/-- What follows an action goes on from where the action leads. -/
theorem related_bind {a : Act κ α} {f : α → Act κ β} {u w : System κ} (ha : R u (a.left w))
    (hf : ∀ x, (a.on w).1 = .ok x → R (a.left w) ((f x).left (a.left w))) :
    R u ((a >>= f).left w) :=
  Act.related_bind (R := R) hR.trans ha hf

/-- Actions in a row keep to the relation if each of them does. -/
theorem within_bind {a : Act κ α} {f : α → Act κ β} (ha : a.Within R)
    (hf : ∀ x, (f x).Within R) : (a >>= f).Within R :=
  fun w => hR.related_bind (ha w) fun x _ => hf x _

theorem within_pure (x : α) : (pure x : Act κ α).Within R :=
  fun w => hR.refl w

/-- To do the same for each of several keeps to the relation if each single time does. -/
theorem within_forM {f : α → Act κ PUnit} (h : ∀ x, (f x).Within R) (l : List α) :
    (l.forM f).Within R := by
  induction l with
  | nil => exact hR.within_pure _
  | cons x rest ih => exact hR.within_bind (h x) fun _ => ih

/-- What is done last keeps to the relation on its own. -/
theorem within_after {a : Act κ α} {last : Act κ Unit} (ha : a.Within R) (hl : last.Within R) :
    (a.after last).Within R := by
  intro w
  rw [Act.left_after]
  exact hR.trans (ha w) (hl _)

/-- The handling of a halt keeps to the relation on its own. -/
theorem within_tryCatch {a : Act κ α} {handle : Halt → Act κ α} (ha : a.Within R)
    (hh : ∀ h, (handle h).Within R) : (tryCatch a handle).Within R := by
  intro w
  rw [Act.left, Act.on_tryCatch]
  cases hEnd : (a.on w).1 with
  | ok x => exact ha w
  | error h => exact hR.trans (ha w) (hh h _)

variable {env : Surroundings κ} (he : ∀ sink o event, (env.deliver sink o event).Within R)
  {o : Origin} {event : Event}

include he

/-- A sink is handed the event, takes it, and is done with it. -/
theorem related_deliverTo {w : System κ} {sink : SinkRef}
    (handed : ∀ {v}, (v = w.updateSink sink fun life => { life with busy := life.busy + 1 }) →
      R w (v.record (.delivery sink o event (v.standing o) v.dispatcher.inContext))) :
    R w ((deliverTo env o event sink).left w) := by
  simp only [deliverTo, Act.left_modify_bind, Act.left_after, Act.left_modify]
  apply hR.trans (handed rfl)
  apply hR.trans (he sink o event _)
  exact hR.doneWith _ sink

/-- A sink's turn, and the turns of those after it, keep to the relation. -/
theorem within_visit (hHands : Hands R o event) (l : List Attachment) :
    (visit env o event l).Within R := by
  induction l with
  | nil => exact hR.within_pure _
  | cons a rest ih =>
    intro w
    simp only [visit, Act.left_get_bind]
    split
    · exact hR.within_bind ih (fun _ => hR.within_pure _) w
    · rename_i hAlive
      split
      · exact ih w
      · rename_i hHolds
        apply hR.related_bind
        · apply hR.related_deliverTo he
          intro v kept
          exact hHands a (by simpa using hAlive) (by simpa using hHolds) kept
        · intro _ _
          exact hR.within_bind ih (fun _ => hR.within_pure _) _

/-- Once a pass is written down, the rest of it upholds the relation. -/
theorem related_fire (hHands : Hands R o event)
    (prune : ∀ w : System κ, R w (w.updateSource o (·.prune w.alive))) {u w : System κ}
    (begun : R u (w.record (.pass o event (w.standing o)))) :
    R u ((fire env o event).left w) := by
  simp only [fire, Act.left_get_bind, Act.left_modify_bind]
  apply hR.trans begun
  apply hR.related_bind (hR.within_visit he hHands _ _)
  intro _ _
  split
  · exact prune _
  · exact hR.refl _

/-- Once a teardown has begun, the rest of it upholds the relation. -/
theorem related_destroy {r : StreamRef} (hHands : Hands R (.stream r) .destroyed)
    (prune : ∀ w : System κ, R w (w.updateSource (.stream r) (·.prune w.alive)))
    (clear : ∀ w : System κ, R w (w.updateSource (.stream r) Source.clear)) {w : System κ}
    (live : (w.status r).state ≠ .destroyed) : R (w.tearing r) ((r.destroy env).left w) := by
  simp only [StreamRef.destroy, Act.left_get_bind, if_pos live, Act.left_modify_bind]
  have hStanding : (w.updateStatus r Status.tornDown).standing (.stream r) = .state .destroyed :=
    System.standing_updateStatus (System.has_of_state_ne live) _
  apply hR.related_bind
  · apply hR.related_fire he hHands prune
    rw [hStanding]
    exact hR.refl _
  · intro _ _
    exact clear _

/-- A hub's pass can begin at any time. -/
theorem within_fireHub {hub : HubRef} (hFiring : ∀ {w v}, Firing (.hub hub) w v → R w v)
    (event : Event) : (fire env (.hub hub) event).Within R :=
  fun _ => hR.related_fire he
    (fun a alive attached kept => hFiring (.hand _ event a alive attached kept))
    (fun _ => hFiring (.prune _)) (hFiring (.start hub event))

variable {r : StreamRef} (hFiring : ∀ {w v}, Firing (.stream r) w v → R w v)

include hFiring

/-- Where there is something to tear down the teardown is a pass, and otherwise it is nothing. -/
theorem within_destroy : (r.destroy env).Within R := by
  intro w
  by_cases live : (w.status r).state = .destroyed
  · rw [System.left_destroy_of_torn live]
    exact hR.refl w
  · apply hR.trans (hFiring (.tearDown r live))
    exact hR.related_destroy he
      (fun a alive attached kept => hFiring (.hand _ .destroyed a alive attached kept))
      (fun _ => hFiring (.prune _)) (fun _ => hFiring (.clear r)) live

/-- An event is ignored, fired, or begins a teardown. -/
theorem within_apply (event : Event) : (r.apply env event).Within R := by
  intro w
  rcases hReact : (w.status r).react event with ⟨t, reaction⟩
  simp only [StreamRef.apply, Act.left_get_bind, Act.left_modify_bind, hReact]
  cases reaction with
  | fire fired =>
    obtain ⟨hTakes, hFree⟩ := Status.takes_of_react_fire hReact
    have hBegun := hFiring (.take r hTakes hFree)
    rw [← System.standing_updateStatus (System.has_of_state_ne hTakes.state_ne) fun _ => t]
      at hBegun
    exact hR.related_fire he
      (fun a alive attached kept => hFiring (.hand _ fired a alive attached kept))
      (fun _ => hFiring (.prune _)) hBegun
  | destroy =>
    rw [(Status.of_react_destroy hReact).1, System.updateStatus_self]
    exact hR.within_bind (hR.within_destroy he hFiring) (fun _ => hR.within_pure _) w
  | ignore =>
    rw [Status.of_react_ignore hReact, System.updateStatus_self]
    exact hR.refl w

end Smooth

namespace Steady

variable {look : System κ → κ.Note} {R : System κ → System κ → Prop} (hR : Steady look R)

include hR

/-- What holds across all quiet steps holds across the end of a sink's turn. -/
theorem smooth : Smooth R where
  refl := hR.refl
  trans := hR.trans
  doneWith _ sink := hR.quiet (.doneWith sink)

theorem related_bind {a : Act κ α} {f : α → Act κ β} {u w : System κ} (ha : R u (a.left w))
    (hf : ∀ x, (a.on w).1 = .ok x → R (a.left w) ((f x).left (a.left w))) :
    R u ((a >>= f).left w) :=
  hR.smooth.related_bind ha hf

theorem within_bind {a : Act κ α} {f : α → Act κ β} (ha : a.Within R)
    (hf : ∀ x, (f x).Within R) : (a >>= f).Within R :=
  hR.smooth.within_bind ha hf

theorem within_pure (x : α) : (pure x : Act κ α).Within R :=
  hR.smooth.within_pure x

theorem within_forM {f : α → Act κ PUnit} (h : ∀ x, (f x).Within R) (l : List α) :
    (l.forM f).Within R :=
  hR.smooth.within_forM h l

theorem within_tryCatch {a : Act κ α} {handle : Halt → Act κ α} (ha : a.Within R)
    (hh : ∀ h, (handle h).Within R) : (tryCatch a handle).Within R :=
  hR.smooth.within_tryCatch ha hh

variable {env : Surroundings κ} (he : env.Within R) {o : Origin}

include he

omit he in
/-- No stream is gone when the host has answered. -/
theorem grows_ask {w : System κ} {r : StreamRef} {id : StreamId} {call : HostCall}
    {ask : Host (Act κ) → Act κ (Except HostError α)} (hAsk : (ask env.host).Within R) :
    w.streams.length ≤ ((askHost env r id call ask).left w).streams.length := by
  have hGrows := hR.grows (hAsk (w.record (@Entry.hostCall _ id call r)))
  simp only [askHost, Act.left_modify_bind]
  exact Act.related_bind (R := fun u v => u.streams.length ≤ v.streams.length) Nat.le_trans
    hGrows fun _ _ => Nat.le_refl _

/-- A sink is handed the event, takes it, and is done with it. -/
theorem related_deliverTo {w : System κ} {event : Event} {sink : SinkRef}
    (handed : ∀ {v}, (v = w.updateSink sink fun life => { life with busy := life.busy + 1 }) →
      R w (v.record (.delivery sink o event (v.standing o) v.dispatcher.inContext))) :
    R w ((deliverTo env o event sink).left w) :=
  hR.smooth.related_deliverTo he.deliver handed

theorem within_fireHub {hub : HubRef} (hFiring : ∀ {w v}, Firing (.hub hub) w v → R w v)
    (event : Event) : (fire env (.hub hub) event).Within R :=
  hR.smooth.within_fireHub he.deliver hFiring event

variable {r : StreamRef} (hFiring : ∀ {w v}, Firing (.stream r) w v → R w v)

include hFiring

/-- Once a teardown has begun, the rest of it upholds the relation. -/
theorem related_destroy {w : System κ} (live : (w.status r).state ≠ .destroyed) :
    R (w.tearing r) ((r.destroy env).left w) :=
  hR.smooth.related_destroy he.deliver
    (fun a alive attached kept => hFiring (.hand _ .destroyed a alive attached kept))
    (fun _ => hFiring (.prune _)) (fun _ => hFiring (.clear r)) live

theorem within_destroy : (r.destroy env).Within R :=
  hR.smooth.within_destroy he.deliver hFiring

theorem within_apply (event : Event) : (r.apply env event).Within R :=
  hR.smooth.within_apply he.deliver hFiring event

end Steady
end HostedStreams
