import HostedStreams.Proofs.Upheld

/-! Relations that the worker upholds while it runs. Besides handing events to streams it
writes down what it does, strikes streams that are torn down off the registry, and tears
others down itself. -/
namespace HostedStreams

variable {κ : Client} {α : Type}

/-- Whether the entry tells of the dispatcher's affairs alone. -/
def Entry.dispatching {Note : Type} : Entry Note → Bool
  | .accepted .. | .refused .. | .dispatched .. | .dropped .. | .jobBegan .. | .jobEnded .. => true
  | .pass .. | .delivery .. | .hostCall .. | .hostAnswer .. | .note .. => false

/-- The relation holds across what the worker does itself. -/
structure Tended (look : System κ → κ.Note) (manners : Surroundings κ → Prop)
    (R : System κ → System κ → Prop) : Prop extends Upheld look manners R where
  aside : ∀ (w : System κ) (f : Dispatcher κ → Dispatcher κ),
    w.dispatcher.Aside (f w.dispatcher) → R w (w.updateDispatcher f)
  dispatching : ∀ {w} {e : Entry κ.Note}, e.dispatching = true → R w (w.record e)
  strike : ∀ {u w : System κ} {id r}, u.dispatcher.registered? id = some r → R u w →
    (w.status r).state = .destroyed → R u (w.struck id)
  prune : ∀ w : System κ, R w w.pruned

namespace Tended

variable {look : System κ → κ.Note} {manners : Surroundings κ → Prop}
  {R : System κ → System κ → Prop} (hR : Tended look manners R)

include hR

/-- Entries about the dispatcher alone uphold the relation. -/
theorem within_record {e : Entry κ.Note} (h : e.dispatching = true) :
    (modify (·.record e) : Act κ Unit).Within R :=
  fun _ => hR.dispatching h

/-- What is kept beside the books upholds the relation. -/
theorem within_aside {f : Dispatcher κ → Dispatcher κ} (h : ∀ d : Dispatcher κ, d.Aside (f d)) :
    (modify (·.updateDispatcher f) : Act κ Unit).Within R :=
  fun w => hR.aside w f (h w.dispatcher)

/-- Counts that are no gauges. -/
theorem within_count {f : Metrics → Metrics} (hActive : ∀ m, (f m).activeStreams = m.activeStreams)
    (hDepth : ∀ m, (f m).queueDepth = m.queueDepth) :
    (modify (·.updateMetrics f) : Act κ Unit).Within R :=
  hR.within_aside fun _ => ⟨rfl, rfl, rfl, rfl, rfl, hActive _, hDepth _⟩

/-- An entry together with what is counted because of it. -/
theorem within_counted {e : Entry κ.Note} (h : e.dispatching = true) {f : Metrics → Metrics}
    (hActive : ∀ m, (f m).activeStreams = m.activeStreams)
    (hDepth : ∀ m, (f m).queueDepth = m.queueDepth) :
    (modify (fun w => (w.record e).updateMetrics f) : Act κ Unit).Within R :=
  fun _ => hR.trans (hR.dispatching h) (hR.within_count hActive hDepth _)

/-- The context is none of the books' concern. -/
theorem within_context (inside : Bool) :
    (modify (·.updateDispatcher fun d => { d with inContext := inside }) : Act κ Unit).Within R :=
  hR.within_aside fun _ => ⟨rfl, rfl, rfl, rfl, rfl, rfl, rfl⟩

/-- What the worker does in its context is done while it is noted that it does. -/
theorem related_inContext {u w : System κ} {act : Act κ α}
    (h : R u (act.left (w.updateDispatcher fun d => { d with inContext := true }))) :
    R u ((Worker.inContext act).left w) := by
  simp only [Worker.inContext, Act.left_get_bind, Act.left_modify_bind, Act.left_after]
  exact hR.trans h (hR.within_context _ _)

theorem inContext {act : Act κ α} (h : act.Within R) : (Worker.inContext act).Within R :=
  fun w => hR.related_inContext (hR.trans (hR.within_context true w) (h _))

/-- A panic that is held back is counted, and the relation is upheld up to it. -/
theorem related_contained {u w : System κ} {act : Act κ α} (h : R u (act.left w)) :
    R u ((Worker.contained act).left w) := by
  apply hR.related_bind (by simpa using h)
  intro ended _
  cases ended with
  | ok _ => exact hR.refl _
  | error _ => exact hR.within_count (f := Metrics.countPanic) (fun _ => rfl) (fun _ => rfl) _

theorem reply (ticket : Ticket) (answer : Reply κ.Value) : (Worker.reply ticket answer).Within R :=
  hR.within_aside fun _ => ⟨rfl, rfl, rfl, rfl, rfl, rfl, rfl⟩

variable {env : Surroundings κ} (hm : manners env) (he : env.Within R)

include hm he

theorem find? (id : StreamId) : (Registry.find? env id).Within R := by
  intro w
  simp only [Registry.find?, Act.left_get_bind]
  split
  · exact hR.refl w
  · rename_i r hFound
    split
    · rename_i torn
      have hStruck := hR.strike hFound (hR.refl w) torn
      exact hR.related_bind (hR.related_forget hm he (hR.refl w) hStruck) fun _ _ => hR.refl _
    · exact hR.refl w

theorem pruneRegistry : (Registry.prune env).Within R := by
  intro w
  simp only [Registry.prune, Act.left_get_bind]
  split
  · exact hR.trans (hR.prune w) (hR.within_forM (fun ⟨_, r⟩ => hR.release hm he r) _ _)
  · exact hR.refl w

/-- A notification is handed to its stream, once it is no longer counted as queued. -/
theorem related_dispatch {u w : System κ} (lowered : R u (w.updateMetrics Metrics.lowerDepth))
    (id : StreamId) (event : Event) : R u ((Worker.dispatch env id event).left w) := by
  simp only [Worker.dispatch, Act.left_modify_bind]
  apply hR.trans lowered
  apply hR.related_bind (hR.find? hm he id _)
  intro found hFound
  cases found with
  | none =>
    exact hR.within_counted (e := .dropped id event) (f := Metrics.countDropped) rfl
      (fun _ => rfl) (fun _ => rfl) _
  | some r =>
    obtain ⟨known, hLeft⟩ := System.of_find?_some hFound
    rw [hLeft]
    apply hR.related_holding hm he
    simp only [Act.left_modify_bind]
    have hTaken : R (w.updateMetrics Metrics.lowerDepth)
        ((Worker.contained (r.receive env event)).left
          (((w.updateMetrics Metrics.lowerDepth).updateStream r fun s =>
            { s with handles := s.handles + 1 }).record (.dispatched id event))) := by
      apply hR.related_contained
      apply hR.trans (hR.quiet (.handles r (· + 1)))
      exact hR.trans (hR.dispatching rfl) (hR.receive hm he r event _)
    apply Act.holds_bind hTaken
    intro _ _
    have hCounted := hR.trans hTaken
      (hR.within_count (f := Metrics.countEvent event.kind.name) (fun _ => rfl) (fun _ => rfl) _)
    simp only [Act.left_modify_bind, Act.left_get_bind]
    split
    · rename_i torn
      exact hR.related_forget hm he hCounted (hR.strike known hCounted torn)
    · exact hCounted

theorem runJob (ticket : Ticket) (job : κ.Job) : (Worker.runJob env ticket job).Within R := by
  apply hR.within_bind (hR.within_record rfl)
  intro _
  apply hR.within_bind (fun w => by simpa using he.work job w)
  intro ended
  cases ended with
  | ok v =>
    apply hR.within_bind (hR.within_record rfl)
    intro _
    exact hR.within_bind (hR.reply ticket _) fun _ => hR.pruneRegistry hm he
  | error _ =>
    refine hR.within_bind (hR.within_counted rfl (fun _ => rfl) fun _ => rfl) fun _ => ?_
    exact hR.within_bind (hR.reply ticket _) fun _ => hR.pruneRegistry hm he

end Tended
end HostedStreams
