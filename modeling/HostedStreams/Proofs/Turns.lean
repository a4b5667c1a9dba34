import HostedStreams.Proofs.Conservation
import HostedStreams.Proofs.Minding
import HostedStreams.Proofs.Settlement
import HostedStreams.Proofs.Tidiness

/-! Turns in which the worker hands one notification out or tears one stream down. Where clients
mind one stream at a time, such a turn is the affair of the stream that is meant: what becomes of
that stream, and what is counted, goes by this stream alone, and the others are left alone. -/
namespace HostedStreams

variable {κ : Client} {α : Type} {shares : Shares κ} {r : StreamRef} {id : StreamId}
  {env : Surroundings κ}

namespace Act.Private

theorem countPanic :
    Private shares r id (modify (·.updateMetrics Metrics.countPanic) : Act κ PUnit) := by
  refine changing fun h => .updateMetrics h (fun sorted => sorted) fun counter => ?_
  cases counter with
  | panics => exact ⟨1, fun _ _ => rfl⟩
  | events | dropped => exact ⟨0, fun _ _ => rfl⟩

theorem countDropped :
    Private shares r id (modify (·.updateMetrics Metrics.countDropped) : Act κ PUnit) := by
  refine changing fun h => .updateMetrics h (fun sorted => sorted) fun counter => ?_
  cases counter with
  | dropped => exact ⟨1, fun _ _ => rfl⟩
  | events | panics => exact ⟨0, fun _ _ => rfl⟩

theorem countEvent (label : String) :
    Private shares r id (modify (·.updateMetrics (Metrics.countEvent label)) : Act κ PUnit) := by
  refine changing fun h => .updateMetrics h (fun sorted => sorted.add label 1) fun counter => ?_
  cases counter with
  | events other => exact ⟨_, fun m sorted => Samples.count_add sorted label other 1⟩
  | dropped | panics => exact ⟨0, fun _ _ => rfl⟩

theorem lowerDepth :
    Private shares r id (modify (·.updateMetrics Metrics.lowerDepth) : Act κ PUnit) :=
  changing fun h => .updateMetrics h (fun sorted => sorted) fun counter =>
    ⟨0, fun _ _ => by cases counter <;> rfl⟩

/-- What is written down that is about no stream's sinks and no request. -/
theorem noting {e : Entry κ.Note} (other : ∀ q, e.about q = false) :
    Private shares r id (modify (·.record e) : Act κ PUnit) :=
  changing fun h => .record h fun q _ => other q

/-- A panic that is held back is the stream's own affair. -/
theorem contained {act : Act κ α} (h : Private shares r id act) :
    Private shares r id (Worker.contained act) := by
  refine bind h.contain fun ended => ?_
  cases ended with
  | ok _ => exact pure _
  | error _ => exact countPanic

theorem remove : Private shares r id (Registry.remove id : Act κ (Option StreamRef)) := by
  refine seeing fun {w v} h => ?_
  rw [h.registered]
  cases w.dispatcher.registered? id with
  | none => exact pure _ _ _ h
  | some q => exact bind (changing fun h => .struck h) (fun _ => pure _) _ _ h

/-- What is done with the stream once it is struck off, if it was there. -/
theorem removed {f : StreamRef → Act κ PUnit} (hf : Private shares r id (f r)) :
    Private shares r id (do if let some q ← Registry.remove id then f q) := by
  intro w v h
  refine (remove w v h).bind fun found hEnd => ?_
  cases found with
  | none => exact pure _ _ _ (remove w v h).2.twin
  | some q =>
    have hFound : w.dispatcher.registered? id = some q := by
      cases hKnown : w.dispatcher.registered? id with
      | none => rw [System.on_remove_of_none hKnown] at hEnd; cases hEnd
      | some p => rw [System.on_remove_of_some hKnown] at hEnd; cases hEnd; rfl
    obtain rfl := h.sole q hFound
    exact hf _ _ (remove w v h).2.twin

section

variable (he : env.Private shares r id)

include he

theorem forget : Private shares r id (Registry.forget env id) :=
  removed (release he)

theorem tearDown : Private shares r id (Worker.tearDown env id) :=
  removed (bind (contained (destroy he)) fun _ => release he)

theorem find? : Private shares r id (Registry.find? env id) := by
  refine seeing fun {w v} h => ?_
  rw [h.registered]
  cases hFound : w.dispatcher.registered? id with
  | none => exact pure _ _ _ h
  | some q =>
    obtain rfl := h.sole q hFound
    dsimp only
    rw [h.status]
    split
    · exact bind (forget he) (fun _ => pure _) _ _ h
    · exact pure _ _ _ h

theorem holding {act : Act κ α} (h : Private shares r id act) :
    Private shares r id (r.holding env act) :=
  bind acquire fun _ => after h (release he)

/-- Handing a notification to its stream is that stream's own affair. -/
theorem dispatch (event : Event) : Private shares r id (Worker.dispatch env id event) := by
  refine bind lowerDepth fun _ => fun w v h => (find? he w v h).bind fun found hEnd => ?_
  have hTwin := (find? he w v h).2.twin
  cases found with
  | none =>
    exact bind (noting fun _ => rfl) (fun _ => countDropped) _ _ hTwin
  | some q =>
    obtain rfl := h.sole q (System.of_find?_some hEnd).1
    refine holding he (bind (noting fun _ => rfl) fun _ =>
      bind (contained (receive he event)) fun _ =>
      bind (countEvent _) fun _ => seeing fun h => ?_) _ _ hTwin
    rw [h.status]
    split
    · exact forget he _ _ h
    · exact pure _ _ _ h

end
end Act.Private

namespace Worker

/-- What the worker does for a stream in one turn: it hands an event to the stream, or else it tears
the stream down. -/
def perform (env : Surroundings κ) (id : StreamId) : Option Event → Act κ Unit
  | some event => dispatch env id event
  | none => tearDown env id

/-- A turn for a stream concerns that stream alone. -/
theorem private_perform (he : env.Private shares r id) (event : Option Event) :
    Act.Private shares r id (perform env id event) := by
  cases event with
  | none => exact .tearDown he
  | some event => exact .dispatch he event

/-- A notification for which no stream is registered is given up. -/
theorem left_dispatch_of_unregistered {w : System κ} (event : Event)
    (unknown : w.dispatcher.registered? id = none) :
    (Worker.dispatch env id event).left w =
      ((w.updateMetrics Metrics.lowerDepth).record (.dropped id event)).updateMetrics
        Metrics.countDropped := by
  have hFound : (Registry.find? env id).on (w.updateMetrics Metrics.lowerDepth) =
      (.ok none, w.updateMetrics Metrics.lowerDepth) := by
    have hSame : (w.updateMetrics Metrics.lowerDepth).dispatcher.registered? id = none := unknown
    rw [Registry.find?, Act.on_get_bind, hSame]
    rfl
  rw [dispatch, Act.left_modify_bind, Act.left_bind_ok hFound]
  rfl

/-- Nothing is done where no stream is registered that could be torn down. -/
theorem left_tearDown_of_unregistered {w : System κ}
    (unknown : w.dispatcher.registered? id = none) : (tearDown env id).left w = w := by
  rw [tearDown, Act.left_bind_ok (System.on_remove_of_none unknown)]
  rfl

end Worker

namespace System

section

variable (shares : Shares κ)

/-- The stream, and what is kept and told of it, is the same in both systems. -/
structure Agree (r : StreamRef) (id : StreamId) (w v : System κ) : Prop where
  stream : v.stream r = w.stream r
  share : shares.get v.client r = shares.get w.client r
  sinks : v.sinks = w.sinks
  registered : v.dispatcher.registered? id = w.dispatcher.registered? id
  story : v.past.filter (·.about r) = w.past.filter (·.about r)

/-- What happens for the identifier leaves alone whatever is not registered under it. -/
structure Advances (id : StreamId) (w v : System κ) : Prop where
  stream : ∀ q, w.dispatcher.registered? id ≠ some q → v.stream q = w.stream q
  share : ∀ q, w.dispatcher.registered? id ≠ some q → shares.get v.client q = shares.get w.client q
  story : ∀ q, w.dispatcher.registered? id ≠ some q →
    v.past.filter (·.about q) = w.past.filter (·.about q)
  keeps : ∀ q, (v.stream q).id = (w.stream q).id ∧ (v.stream q).binding = (w.stream q).binding
  sinks : v.sinks = w.sinks
  registry : v.dispatcher.registry = w.dispatcher.registry ∨
    v.dispatcher.registry = w.dispatcher.registry.filter (·.1 != id)
  sorted : v.dispatcher.metrics.events.Sorted
  gain : ∀ counter, w.dispatcher.metrics.read counter ≤ v.dispatcher.metrics.read counter

/-- What is registered is known by its identifier, and the client minds it. -/
structure Fit (env : Surroundings κ) (w : System κ) : Prop where
  named : ∀ {id r}, w.dispatcher.registered? id = some r → (w.stream r).id = id
  worker : ∀ {id r}, w.dispatcher.registered? id = some r → (w.stream r).binding = .worker
  own : ∀ {id r}, w.dispatcher.registered? id = some r → env.Private shares r id
  sorted : w.dispatcher.metrics.events.Sorted

end

/-- Only the stream is registered under the identifier, and under no other one. -/
structure Sole (r : StreamRef) (id : StreamId) (w : System κ) : Prop where
  only : ∀ q, w.dispatcher.registered? id = some q → q = r
  other : ∀ i, w.dispatcher.registered? i = some r → i = id

/-- What the worker does first and last, where the notifications wait in the queue: teardowns come
before them. -/
def agenda (ns : List (StreamId × Event)) (w : System κ) : List (StreamId × Option Event) :=
  w.dispatcher.teardowns.map (fun id => (id, none)) ++ ns.map fun n => (n.1, some n.2)

/-- The worker is to do this and nothing else. -/
structure Lined (tasks : List (StreamId × Option Event)) (w : System κ) : Prop where
  running : w.dispatcher.phase = .running
  queued : ∃ ns : List (StreamId × Event),
    w.dispatcher.mailbox.items = ns.map (fun n => .notify n.1 n.2) ∧ w.agenda ns = tasks

variable {u v w w' v' : System κ}

/-- The part of it that is meant for one stream. -/
theorem filter_agenda (id : StreamId) (ns : List (StreamId × Event)) (w : System κ) :
    (w.agenda ns).filter (·.1 = id) =
      (w.dispatcher.teardowns.filter (· = id)).map (fun id => (id, none)) ++
        (ns.filter (·.1 = id)).map fun n => (n.1, some n.2) := by
  rw [agenda, List.filter_append, List.filter_map, List.filter_map]
  rfl

/-- Where nothing is to be done nothing waits. -/
theorem Lined.done (lined : Lined [] w) :
    w.dispatcher.teardowns = [] ∧ w.dispatcher.mailbox.items = [] := by
  obtain ⟨ns, hItems, hAgenda⟩ := lined.queued
  obtain ⟨hTeardowns, hNone⟩ := List.append_eq_nil_iff.1 hAgenda
  rw [List.map_eq_nil_iff.1 hNone] at hItems
  exact ⟨List.map_eq_nil_iff.1 hTeardowns, hItems⟩

namespace Agree

theorem refl (w : System κ) : Agree shares r id w w :=
  ⟨rfl, rfl, rfl, rfl, rfl⟩

theorem symm (h : Agree shares r id w v) : Agree shares r id v w :=
  ⟨h.stream.symm, h.share.symm, h.sinks.symm, h.registered.symm, h.story.symm⟩

theorem trans (first : Agree shares r id u v) (second : Agree shares r id v w) :
    Agree shares r id u w :=
  ⟨second.stream.trans first.stream, second.share.trans first.share, second.sinks.trans first.sinks,
    second.registered.trans first.registered, second.story.trans first.story⟩

/-- Two systems in whose worker's context the stream is the same. -/
theorem twin (h : Agree shares r id w v) (known : w.dispatcher.registered? id = some r)
    (fit : Fit shares env w) (fit' : Fit shares env v)
    (inContext : w.dispatcher.inContext = true ∧ v.dispatcher.inContext = true) :
    Twin shares r id w v where
  stream := h.stream
  share := h.share
  sinks := h.sinks
  registered := h.registered
  sole _ hq := Option.some.inj (hq.symm.trans known)
  named := fit.named known
  worker := fit.worker known
  inContext := inContext
  sorted := ⟨fit.sorted, fit'.sorted⟩

end Agree

/-- What is told of the stream goes on in the same way. -/
theorem Mirrors.agree (h : Mirrors shares r id w v w' v')
    (story : v.past.filter (·.about r) = w.past.filter (·.about r)) : Agree shares r id w' v' where
  stream := h.twin.stream
  share := h.twin.share
  sinks := h.twin.sinks
  registered := h.twin.registered
  story := by
    obtain ⟨news, hw, hv, -⟩ := h.news
    rw [hw, hv, List.filter_append, List.filter_append, story]

/-- What mirrors for a stream leaves the rest of the registry alone. -/
theorem Mirrors.advances (h : Mirrors shares r id w v w' v')
    (known : w.dispatcher.registered? id = some r) (named : (w.stream r).id = id)
    (worker : (w.stream r).binding = .worker) : Advances shares id w w' where
  stream q other := h.left.stream q fun hq => other (hq ▸ known)
  share q other := h.left.share q fun hq => other (hq ▸ known)
  story q other := by
    obtain ⟨news, hw, -, hNews⟩ := h.news
    have hNone : news.filter (·.about q) = [] :=
      List.filter_eq_nil_iff.2 fun e he => by simp [hNews e he q fun hq => other (hq ▸ known)]
    rw [hw, List.filter_append, hNone, List.nil_append]
  keeps q := by
    by_cases hq : q = r
    · subst hq
      exact ⟨h.twin.named.trans named.symm, h.twin.worker.trans worker.symm⟩
    · rw [h.left.stream q hq]
      exact ⟨rfl, rfl⟩
  sinks := h.left.sinks
  registry := h.left.registry
  sorted := h.twin.sorted.1
  gain counter := by
    obtain ⟨n, hw, -⟩ := h.gain counter
    omega

end System

/-! What a turn comes to. -/

section

variable {w v : System κ} {event : Option Event} {tasks others : List (StreamId × Option Event)}

open HostedStreams.System (Advances Agree Fit Lined Sole)

/-- What is confined to one stream leaves in line what waits. -/
theorem System.Lined.confined (lined : Lined tasks w) (h : Confined shares r id w v) :
    Lined tasks v := by
  obtain ⟨ns, hItems, hAgenda⟩ := lined.queued
  refine ⟨h.phase.trans lined.running, ns, h.mailbox ▸ hItems, ?_⟩
  rw [← hAgenda, System.agenda, h.teardowns, System.agenda]

namespace Worker

/-- A turn advances one stream and leaves the line as it is behind the turn. -/
theorem advances_perform (fit : Fit shares env w) (inContext : w.dispatcher.inContext = true)
    (lined : Lined tasks w) (id : StreamId) (event : Option Event) :
    Advances shares id w ((perform env id event).left w) ∧
      Lined tasks ((perform env id event).left w) := by
  cases known : w.dispatcher.registered? id with
  | none =>
    have hSame : Advances shares id w w := ⟨fun _ _ => rfl, fun _ _ => rfl, fun _ _ => rfl,
      fun _ => ⟨rfl, rfl⟩, rfl, .inl rfl, fit.sorted, fun _ => Nat.le_refl _⟩
    cases event with
    | none =>
      rw [perform, left_tearDown_of_unregistered known]
      exact ⟨hSame, lined⟩
    | some event =>
      rw [perform, left_dispatch_of_unregistered event known]
      refine ⟨{ hSame with gain := fun counter => ?_ }, lined.running, lined.queued⟩
      cases counter with
      | dropped => exact Nat.le_succ _
      | events | panics => exact Nat.le_refl _
  | some r =>
    have hSame : Agree shares r id w w := .refl w
    have hTwin := hSame.twin known fit fit ⟨inContext, inContext⟩
    obtain ⟨-, hMirrors⟩ := private_perform (fit.own known) event w w hTwin
    exact ⟨hMirrors.advances known (fit.named known) (fit.worker known),
      lined.confined hMirrors.left⟩

/-- Where the stream is the same, the same comes of what is done for it. -/
theorem agree_perform (agree : Agree shares r id w v) (sole : Sole r id w) (fit : Fit shares env w)
    (fit' : Fit shares env v)
    (inContext : w.dispatcher.inContext = true ∧ v.dispatcher.inContext = true)
    (event : Option Event) :
    Agree shares r id ((perform env id event).left w) ((perform env id event).left v) ∧
      ∀ counter, ((perform env id event).left w).dispatcher.metrics.read counter -
          w.dispatcher.metrics.read counter =
        ((perform env id event).left v).dispatcher.metrics.read counter -
          v.dispatcher.metrics.read counter := by
  cases known : w.dispatcher.registered? id with
  | none =>
    have hOther := agree.registered.trans known
    cases event with
    | none =>
      rw [perform, left_tearDown_of_unregistered known, left_tearDown_of_unregistered hOther]
      exact ⟨agree, fun _ => (Nat.sub_self _).trans (Nat.sub_self _).symm⟩
    | some event =>
      rw [perform, left_dispatch_of_unregistered event known,
        left_dispatch_of_unregistered event hOther]
      refine ⟨⟨agree.stream, agree.share, agree.sinks, agree.registered, agree.story⟩,
        fun counter => ?_⟩
      cases counter with
      | dropped => exact (Nat.add_sub_cancel_left ..).trans (Nat.add_sub_cancel_left ..).symm
      | events | panics => exact (Nat.sub_self _).trans (Nat.sub_self _).symm
  | some q =>
    obtain rfl := sole.only q known
    obtain ⟨-, hMirrors⟩ :=
      private_perform (fit.own known) event w v (agree.twin known fit fit' inContext)
    refine ⟨hMirrors.agree agree.story, fun counter => ?_⟩
    obtain ⟨n, hw, hv⟩ := hMirrors.gain counter
    rw [hw, hv, Nat.add_sub_cancel_left, Nat.add_sub_cancel_left]

/-- The system in which the worker has taken up a task and entered its context. -/
def entered (teardowns : List StreamId) (m : Mailbox (Command κ.Job)) (w : System κ) : System κ :=
  w.updateDispatcher fun d => { d with teardowns, mailbox := m, inContext := true }

/-- A turn sees to the first task. -/
theorem left_step_of_lined (env : Surroundings κ) (lined : Lined ((id, event) :: tasks) w) :
    ∃ (teardowns : List StreamId) (m : Mailbox (Command κ.Job)),
      Lined tasks (entered teardowns m w) ∧ (step env).left w =
        ((perform env id event).left (entered teardowns m w)).updateDispatcher fun d =>
          { d with inContext := w.dispatcher.inContext } := by
  obtain ⟨running, ns, hItems, hAgenda⟩ := lined
  cases hTeardowns : w.dispatcher.teardowns with
  | cons i rest =>
    rw [System.agenda, hTeardowns] at hAgenda
    cases hAgenda
    refine ⟨rest, w.dispatcher.mailbox, ⟨running, ns, hItems, rfl⟩, ?_⟩
    rw [left_step_of_teardown running hTeardowns, left_inContext]
    rfl
  | nil =>
    cases ns with
    | nil => rw [System.agenda, hTeardowns] at hAgenda; cases hAgenda
    | cons n rest =>
      rw [System.agenda, hTeardowns] at hAgenda
      cases hAgenda
      have hTaken : w.dispatcher.mailbox.receive = some (.notify n.1 n.2,
          { w.dispatcher.mailbox with
            items := rest.map fun n => .notify n.1 n.2
            waiters := Mailbox.grant w.dispatcher.mailbox.waiters }) := by
        rw [Mailbox.receive, hItems]
        rfl
      refine ⟨[], { w.dispatcher.mailbox with
        items := rest.map fun n => .notify n.1 n.2
        waiters := Mailbox.grant w.dispatcher.mailbox.waiters }, ⟨running, rest, rfl, rfl⟩, ?_⟩
      rw [left_step_of_command running hTeardowns hTaken, carryOut, left_inContext]
      rw [entered, ← hTeardowns]
      rfl

/-- A turn leaves alone whatever is not registered for what it sees to. -/
theorem advances_step (fit : Fit shares env w) (lined : Lined ((id, event) :: tasks) w) :
    Advances shares id w ((step env).left w) ∧ Lined tasks ((step env).left w) := by
  obtain ⟨teardowns, m, hEntered, hLeft⟩ := left_step_of_lined env lined
  obtain ⟨h, hLined⟩ := advances_perform (w := entered teardowns m w)
    ⟨fit.named, fit.worker, fit.own, fit.sorted⟩ rfl hEntered id event
  rw [hLeft]
  exact ⟨⟨h.stream, h.share, h.story, h.keeps, h.sinks, h.registry, h.sorted, h.gain⟩,
    hLined.running, hLined.queued⟩

/-- Where the stream is the same, the same comes of a turn that sees to it. -/
theorem agree_step (agree : Agree shares r id w v) (sole : Sole r id w) (fit : Fit shares env w)
    (fit' : Fit shares env v) (lined : Lined ((id, event) :: tasks) w)
    (lined' : Lined ((id, event) :: others) v) :
    Agree shares r id ((step env).left w) ((step env).left v) ∧
      ∀ counter, ((step env).left w).dispatcher.metrics.read counter -
          w.dispatcher.metrics.read counter =
        ((step env).left v).dispatcher.metrics.read counter -
          v.dispatcher.metrics.read counter := by
  obtain ⟨teardowns, m, -, hLeft⟩ := left_step_of_lined env lined
  obtain ⟨teardowns', m', -, hLeft'⟩ := left_step_of_lined env lined'
  have hEntered : Agree shares r id (entered teardowns m w) (entered teardowns' m' v) :=
    ⟨agree.stream, agree.share, agree.sinks, agree.registered, agree.story⟩
  obtain ⟨h, hGain⟩ := agree_perform hEntered ⟨sole.only, sole.other⟩
    ⟨fit.named, fit.worker, fit.own, fit.sorted⟩ ⟨fit'.named, fit'.worker, fit'.own, fit'.sorted⟩
    ⟨rfl, rfl⟩ event
  rw [hLeft, hLeft']
  exact ⟨⟨h.stream, h.share, h.sinks, h.registered, h.story⟩, hGain⟩

end Worker

end
end HostedStreams
