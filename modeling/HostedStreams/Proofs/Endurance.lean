import HostedStreams.Proofs.Conduct

/-! Only waiting for the worker can use turns up. No other action does, whatever clients do,
so it ends by itself or by a panic. -/
namespace HostedStreams

variable {κ : Client} {α β : Type}

/-- The action does not run out of turns. -/
def Act.Endures (a : Act κ α) : Prop :=
  ∀ w, (a.on w).1 ≠ .error .exhausted

/-- Whatever the client does when it is called, it does not run out of turns. -/
structure Surroundings.Endure (env : Surroundings κ) : Prop where
  deliver : ∀ sink origin event, (env.deliver sink origin event).Endures
  start : ∀ id config, (env.host.start id config).Endures
  requestRanges : ∀ id request ranges, (env.host.requestRanges id request ranges).Endures
  write : ∀ id data, (env.host.write id data).Endures
  cancel : ∀ id, (env.host.cancel id).Endures
  isCurrent : env.isCurrent.Endures
  scheduleTeardown : ∀ id, (env.scheduleTeardown id).Endures
  work : ∀ job, (env.work job).Endures

namespace Act.Endures

variable {a : Act κ α} {f : α → Act κ β}

protected theorem pure (x : α) : (pure x : Act κ α).Endures :=
  fun _ h => by cases h

protected theorem get : (get : Act κ (System κ)).Endures :=
  fun _ h => by cases h

protected theorem set (w : System κ) : (set w : Act κ PUnit).Endures :=
  fun _ h => by cases h

protected theorem modify (f : System κ → System κ) : (modify f : Act κ PUnit).Endures :=
  fun _ h => by cases h

protected theorem modifyGet (f : System κ → α × System κ) : (modifyGet f : Act κ α).Endures :=
  fun _ h => by cases h

theorem panic (payload : Payload) : (throw (.panic payload) : Act κ α).Endures :=
  fun _ h => by cases h

protected theorem bind (ha : a.Endures) (hf : ∀ x, (f x).Endures) : (a >>= f).Endures := by
  intro w h
  rw [on_bind] at h
  cases hEnd : (a.on w).1 with
  | ok x => exact hf x _ (by rwa [hEnd] at h)
  | error halt =>
    rw [hEnd] at h
    cases h
    exact ha w hEnd

theorem get_bind {f : System κ → Act κ β} (hf : ∀ w, (f w).Endures) : (get >>= f).Endures :=
  Endures.get.bind hf

theorem modify_bind {g : System κ → System κ} {f : PUnit → Act κ β} (hf : ∀ x, (f x).Endures) :
    (modify g >>= f).Endures :=
  (Endures.modify g).bind hf

theorem modifyGet_bind {g : System κ → α × System κ} (hf : ∀ x, (f x).Endures) :
    (modifyGet g >>= f).Endures :=
  (Endures.modifyGet g).bind hf

theorem after {last : Act κ Unit} (ha : a.Endures) (hl : last.Endures) :
    (a.after last).Endures := by
  intro w h
  rw [on_after] at h
  cases hEnd : (a.on w).1 with
  | ok x =>
    rw [hEnd] at h
    cases hLast : (last.on (a.left w)).1 with
    | ok _ =>
      rw [hLast] at h
      cases h
    | error halt =>
      rw [hLast] at h
      cases h
      exact hl _ hLast
  | error halt =>
    rw [hEnd] at h
    cases h
    exact ha w hEnd

/-- An action whose panics are held back ends by itself. -/
theorem returns_contain (ha : a.Endures) (w : System κ) : a.contain.Returns w := by
  cases hEnd : (a.on w).1 with
  | ok x => exact ⟨.ok x, by rw [on_contain, hEnd]⟩
  | error halt =>
    cases halt with
    | panic p => exact ⟨.error p, by rw [on_contain, hEnd]⟩
    | exhausted => exact absurd hEnd (ha w)

/-- Nothing but a panic can cut the action short, and the worker holds panics back. -/
theorem returns_contained (ha : a.Endures) (w : System κ) : (Worker.contained a).Returns w :=
  (ha.returns_contain w).bind fun ended => by cases ended <;> exact ⟨(), rfl⟩

/-- A panic that is held back is no halt any more. -/
theorem contain (ha : a.Endures) : a.contain.Endures := by
  intro w h
  obtain ⟨x, hx⟩ := ha.returns_contain w
  rw [hx] at h
  cases h

/-- A halt that goes on after something was done is the same halt. -/
theorem rethrow {last : Act κ Unit} (ha : a.Endures) (hl : last.Endures) :
    (tryCatch a fun halt => do last; throw halt).Endures := by
  intro w h
  rw [on_tryCatch] at h
  cases hEnd : (a.on w).1 with
  | ok x =>
    rw [hEnd] at h
    cases h
  | error halt =>
    rw [hEnd] at h
    change ((last >>= fun _ => throw halt).on _).1 = _ at h
    rw [on_bind] at h
    cases hLast : (last.on (a.left w)).1 with
    | ok _ =>
      rw [hLast] at h
      cases h
      exact ha w hEnd
    | error other =>
      rw [hLast] at h
      cases h
      exact hl _ hLast

theorem given {kept : Dispatcher κ → Bool} (ha : a.Endures) : (a.given kept).Endures := by
  apply get_bind
  intro w
  split
  · exact ha.bind fun _ => .pure _
  · exact .pure _

end Act.Endures

namespace Surroundings.Endure

variable {env : Surroundings κ}

theorem attach (r : StreamRef) (sink : SinkRef) : (r.attach sink : Act κ Bool).Endures := by
  apply Act.Endures.get_bind
  intro w
  split
  · exact .pure _
  · exact .modifyGet _

theorem makeStream (id : StreamId) (config : StreamConfig) (binding : Binding) :
    (makeStream id config binding : Act κ StreamRef).Endures :=
  .get_bind fun _ => (Act.Endures.set _).bind fun _ => .pure _

theorem acquire (r : StreamRef) : (r.acquire : Act κ Unit).Endures :=
  .modify _

theorem remove (id : StreamId) : (Registry.remove id : Act κ (Option StreamRef)).Endures := by
  apply Act.Endures.get_bind
  intro w
  split
  · exact .pure _
  · exact .modify_bind fun _ => .pure _

/-- To notify does not wait: a queue without room refuses. -/
theorem notify (id : StreamId) (event : Event) :
    (Dispatcher.notify id event : Act κ _).Endures := by
  apply Act.Endures.get_bind
  intro w
  simp only
  split
  · exact .modify_bind fun _ => .pure _
  · split <;> exact .modify_bind fun _ => .pure _

theorem beginInvoke (job : κ.Job) : (Dispatcher.beginInvoke job).Endures := by
  apply Act.Endures.get_bind
  intro w
  split
  · exact .pure _
  · apply Act.Endures.modifyGet_bind
    intro ticket
    apply Act.Endures.modifyGet_bind
    intro sent
    split <;> exact .pure _

theorem beginShutdown : (Dispatcher.beginShutdown : Act κ (Option Ticket)).Endures := by
  apply Act.Endures.get_bind
  intro w
  split
  · exact .pure _
  · apply Act.Endures.modify_bind
    intro _
    apply Act.Endures.modifyGet_bind
    intro ticket
    exact .modifyGet_bind fun _ => .pure _

theorem pollInvoke (ticket : Ticket) : (Dispatcher.pollInvoke ticket : Act κ _).Endures := by
  apply Act.Endures.modifyGet_bind
  intro sent
  split
  · exact .pure _
  · exact .pure _
  · apply Act.Endures.get_bind
    intro w
    simp only
    split <;> exact .pure _

theorem pollShutdown (ticket : Ticket) : (Dispatcher.pollShutdown ticket : Act κ _).Endures := by
  apply Act.Endures.modifyGet_bind
  intro sent
  split
  · exact .pure _
  · apply Act.Endures.get_bind
    intro w
    split <;> exact .pure _

variable (he : env.Endure)

include he

theorem deliverTo (o : Origin) (event : Event) (sink : SinkRef) :
    (deliverTo env o event sink).Endures :=
  .modify_bind fun _ => .modify_bind fun _ =>
    (he.deliver sink o event).after (.modify _)

/-- Each turn endures, and there are as many as there are sinks in the list. -/
theorem visit (o : Origin) (event : Event) (l : List Attachment) :
    (visit env o event l).Endures := by
  induction l with
  | nil => exact .pure _
  | cons a rest ih =>
    apply Act.Endures.get_bind
    intro w
    split
    · exact ih.bind fun _ => .pure _
    · split
      · exact ih
      · exact (he.deliverTo o event a.sink).bind fun _ => ih.bind fun _ => .pure _

theorem fire (o : Origin) (event : Event) : (fire env o event).Endures := by
  apply Act.Endures.get_bind
  intro w
  apply Act.Endures.modify_bind
  intro _
  apply (he.visit o event _).bind
  rintro ⟨handled, stale⟩
  simp only
  split
  · exact .modify_bind fun _ => .pure _
  · exact .pure _

theorem destroy (r : StreamRef) : (r.destroy env).Endures := by
  apply Act.Endures.get_bind
  intro w
  split
  · exact .modify_bind fun _ => (he.fire _ _).bind fun _ => .modify _
  · exact .pure _

theorem apply (r : StreamRef) (event : Event) : (r.apply env event).Endures := by
  apply Act.Endures.get_bind
  intro w
  split
  apply Act.Endures.modify_bind
  intro _
  split
  · exact he.fire _ _
  · exact (he.destroy r).bind fun _ => .pure _
  · exact .pure _

theorem receive (r : StreamRef) (event : Event) : (r.receive env event).Endures := by
  apply Act.Endures.get_bind
  intro w
  split
  · exact (he.apply r _).bind fun _ => he.apply r event
  · exact he.apply r event

omit he in
/-- The host that is asked endures. -/
theorem ask {r : StreamRef} {id : StreamId} {call : HostCall}
    {ask : Host (Act κ) → Act κ (Except HostError α)} (h : (ask env.host).Endures) :
    (askHost env r id call ask).Endures :=
  .modify_bind fun _ => h.bind fun _ => .modify_bind fun _ => .pure _

theorem startStream (r : StreamRef) : (r.start env).Endures := by
  apply Act.Endures.get_bind
  intro w
  simp only
  split
  · exact .pure _
  · apply Act.Endures.modify_bind
    intro _
    apply (ask (he.start _ _)).bind
    intro answer
    split
    · exact .pure _
    · exact (he.destroy r).bind fun _ => .pure _

theorem drop (r : StreamRef) : (r.drop env).Endures := by
  apply Act.Endures.get_bind
  intro w
  simp only
  split
  · split
    · exact (ask (he.cancel _)).bind fun _ => he.destroy r
    · exact he.destroy r
  · exact .pure _

theorem release (r : StreamRef) : (r.release env).Endures := by
  apply Act.Endures.modify_bind
  intro _
  apply Act.Endures.get_bind
  intro w
  split
  · exact he.drop r
  · exact .pure _

theorem closeDown (r : StreamRef) (already : Bool) : (r.closeDown env already).Endures := by
  have hForeign : (r.isForeign env).Endures := by
    apply Act.Endures.get_bind
    intro w
    split
    · exact .pure _
    · exact he.isCurrent.bind fun _ => .pure _
    · exact .get_bind fun _ => .pure _
  have hSchedule : (r.scheduleTeardown env).Endures := by
    apply Act.Endures.get_bind
    intro w
    simp only
    split
    · exact .pure _
    · exact he.scheduleTeardown _
    · apply Act.Endures.get_bind
      intro v
      split
      · exact .modify_bind fun _ => .pure _
      · exact .pure _
  apply hForeign.bind
  intro foreign
  split
  · split
    · exact .pure _
    · apply hSchedule.bind
      intro queued
      split
      · exact .pure _
      · exact he.destroy r
  · exact he.destroy r

theorem close (r : StreamRef) : (r.close env).Endures := by
  apply Act.Endures.get_bind
  intro w
  simp only
  split
  · exact .pure _
  · have hDown := (he.closeDown r (w.stream r).status.closing).bind
      fun _ => Act.Endures.pure (Except.ok (ε := StreamError) ())
    apply Act.Endures.modify_bind
    intro _
    split
    · apply (ask (he.cancel _)).bind
      intro answer
      split
      · exact .modify_bind fun _ => .pure _
      · exact hDown
    · exact hDown

theorem request (r : StreamRef) (operation : String) (ranges : List Range) :
    (r.request env operation ranges).Endures := by
  apply Act.Endures.get_bind
  intro w
  apply Act.Endures.modify_bind
  intro _
  apply (ask (he.requestRanges _ _ _)).bind
  intro answer
  split
  · exact .pure _
  · exact .modify_bind fun _ => .pure _

theorem readRange (r : StreamRef) (first stop : UInt64) : (r.readRange env first stop).Endures := by
  apply Act.Endures.get_bind
  intro w
  split
  · exact .pure _
  · split
    · exact .pure _
    · exact he.request r _ _

theorem readRanges (r : StreamRef) (ranges : List Range) : (r.readRanges env ranges).Endures := by
  apply Act.Endures.get_bind
  intro w
  split
  · exact .pure _
  · split
    · exact .pure _
    · split
      · exact .pure _
      · exact he.request r _ _

theorem writeStream (r : StreamRef) (data : List UInt8) : (r.write env data).Endures := by
  apply Act.Endures.get_bind
  intro w
  simp only
  split
  · exact .pure _
  · split
    · exact .pure _
    · apply (ask (he.write _ _)).bind
      intro answer
      split <;> exact .pure _

theorem createStream (config : StreamConfig) : (Dispatcher.createStream env config).Endures := by
  apply Act.Endures.get_bind
  intro w
  split
  · exact .pure _
  · apply Act.Endures.modifyGet_bind
    intro id
    apply (makeStream id config .worker).bind
    intro r
    apply ((acquire r).bind fun _ => .modify _).bind
    intro _
    apply ((he.startStream r).rethrow (he.release r)).bind
    intro started
    split
    · exact .pure _
    · have hForget : (Registry.forget env id).Endures := by
        apply (remove id).bind
        intro found
        split
        · exact he.release _
        · exact .pure _
      exact hForget.bind fun _ => (he.release r).bind fun _ => .pure _

theorem abandon : (Registry.abandon env).Endures := by
  apply Act.Endures.get_bind
  intro w
  apply Act.Endures.modify_bind
  intro _
  induction w.dispatcher.registry with
  | nil => exact .pure _
  | cons entry rest ih => exact (he.release entry.2).after ih

/-- No call runs out of turns. -/
theorem call (c : Call κ α) : (c.run env).Endures := by
  cases c with
  | makeStream id config bound => exact Endure.makeStream id config _
  | makeSink | makeHub =>
    exact .get_bind fun _ => (Act.Endures.set _).bind fun _ => .pure _
  | abandonSink | clearHub | acquire => exact .modify _
  | attachHub | detachHub | drawId | detach | readEvents => exact .modifyGet _
  | fireHub hub event => exact he.fire _ event
  | release r => exact he.release r
  | start r => exact he.startStream r
  | attach r sink => exact Endure.attach r sink
  | receive r event => exact he.receive r event
  | readRange r first stop => exact he.readRange r first stop
  | readRanges r ranges => exact he.readRanges r ranges
  | write r data => exact he.writeStream r data
  | close r => exact he.close r
  | destroy r => exact he.destroy r
  | createStream config => exact (he.createStream config).given
  | openUrl url => exact (Act.Endures.get_bind fun _ => he.createStream _).given
  | notify id event => exact (Endure.notify id event).given
  | beginInvoke job => exact (Endure.beginInvoke job).given
  | pollInvoke ticket => exact Endure.pollInvoke ticket
  | beginShutdown => exact Endure.beginShutdown.given
  | pollShutdown ticket => exact Endure.pollShutdown ticket
  | giveUp keepNotifier =>
    apply Act.Endures.modify_bind
    intro _
    apply Act.Endures.get_bind
    intro w
    split
    · exact he.abandon
    · exact .pure _

end Surroundings.Endure

/-- What clients do does not run out of turns. -/
theorem Conduct.endures {look : System κ → κ.Note} {below : Surroundings κ → Prop}
    (hBelow : ∀ env, below env → env.Endure) {a : Act κ α} (h : Conduct look below a) :
    a.Endures := by
  induction h with
  | pure a => exact .pure a
  | bind _ _ iha ihf => exact iha.bind ihf
  | see f => exact Act.Endures.get_bind fun _ => .pure _
  | remember | note => exact .modify _
  | panic payload => exact .panic payload
  | contain _ ih => exact ih.contain
  | after _ _ iha ihl => exact iha.after ihl
  | call usable c => exact (hBelow _ usable).call c

/-- Whatever a client does when it is called, it does not wait for the worker. -/
theorem Surroundings.Serves.endure {look : System κ → κ.Note} {manners : Surroundings κ → Prop}
    {env : Surroundings κ} (h : env.Serves look manners) : env.Endure := by
  induction h with
  | intro below _ above _ ih =>
    exact {
      deliver := fun sink origin event => (above.deliver sink origin event).endures ih
      start := fun id config => (above.start id config).endures ih
      requestRanges := fun id request ranges => (above.requestRanges id request ranges).endures ih
      write := fun id data => (above.write id data).endures ih
      cancel := fun id => (above.cancel id).endures ih
      isCurrent := above.isCurrent.endures ih
      scheduleTeardown := fun id => (above.scheduleTeardown id).endures ih
      work := fun job => (above.work job).endures ih }

end HostedStreams
