import HostedStreams.Proofs.Conduct
import HostedStreams.Proofs.Twins

/-! Clients that mind one stream at a time. Whoever is called for a stream goes by that stream and
by what is remembered for it, makes calls on no other stream, and panics at will. All that streams
do is then their own affair. -/
namespace HostedStreams

variable {κ : Client} {α : Type}

/-- Whatever the client does when it is called for the stream is the stream's own affair. -/
structure Surroundings.Private (shares : Shares κ) (r : StreamRef) (id : StreamId)
    (env : Surroundings κ) : Prop where
  deliver : ∀ sink event, Act.Private shares r id (env.deliver sink (.stream r) event)
  start : ∀ config, Act.Private shares r id (env.host.start id config)
  requestRanges : ∀ request ranges,
    Act.Private shares r id (env.host.requestRanges id request ranges)
  write : ∀ data, Act.Private shares r id (env.host.write id data)
  cancel : Act.Private shares r id (env.host.cancel id)

namespace Act.Private

variable {shares : Shares κ} {r : StreamRef} {id : StreamId} {env : Surroundings κ}

theorem updateStatus (f : Status → Status) :
    Private shares r id (modify (·.updateStatus r f) : Act κ PUnit) :=
  changing fun h => .updateStatus h rfl

theorem acquire : Private shares r id (r.acquire : Act κ Unit) :=
  changing fun h => .updateHandles h (· + 1)

/-- The list of sinks becomes another one, by what it was and which sinks are there. -/
theorem listing (f : (SinkRef → Bool) → Source → Bool × Source) :
    Private shares r id (modifyGet fun w => ((f w.alive (w.source (.stream r))).1,
      w.updateSource (.stream r) fun _ => (f w.alive (w.source (.stream r))).2) : Act κ Bool) := by
  intro w v h
  have hSame : f v.alive (v.source (.stream r)) = f w.alive (w.source (.stream r)) := by
    rw [h.source, h.alive]
  have hMirrors := System.Mirrors.updateSource h
    (f := fun _ => (f w.alive (w.source (.stream r))).2)
    (g := fun _ => (f v.alive (v.source (.stream r))).2) (congrArg Prod.snd hSame)
  have hAnswer : (.ok (f w.alive (w.source (.stream r))).1 : Except Halt Bool) =
      .ok (f v.alive (v.source (.stream r))).1 := by rw [hSame]
  exact ⟨hAnswer, hMirrors⟩

theorem attach (sink : SinkRef) : Private shares r id (r.attach sink : Act κ Bool) := by
  refine seeing fun {w v} h => ?_
  rw [h.status]
  split
  · exact pure false _ _ h
  · exact listing (Source.attach · sink) _ _ h

theorem detach (sink : SinkRef) : Private shares r id (r.detach sink : Act κ Bool) :=
  listing (Source.detach · sink)

/-- What the worker is busy with is inside its context. -/
theorem isForeign : Private shares r id (r.isForeign env) := by
  refine seeing fun h => ?_
  rw [h.stream, h.worker]
  refine mirrored_get_bind.2 ?_
  rw [h.inContext.1, h.inContext.2]
  exact pure _ _ _ h

/-- What the host is asked for the stream. -/
theorem askHost {α : Type} (call : HostCall) {ask : Host (Act κ) → Act κ (Except HostError α)}
    (hAsk : Private shares r id (ask env.host)) :
    Private shares r id (askHost env r id call ask) := by
  refine bind (changing fun h => .record h ?_) fun _ => bind hAsk fun _ =>
    bind (changing fun h => .record h ?_) fun _ => pure _
  all_goals exact fun q other => by simpa [Entry.about] using other.symm

section

variable (he : env.Private shares r id)

include he

theorem deliverTo (event : Event) (sink : SinkRef) :
    Private shares r id (deliverTo env (.stream r) event sink) := by
  intro w v h
  have hBusy : System.Twin shares r id
      (w.updateSink sink fun life => { life with busy := life.busy + 1 })
      (v.updateSink sink fun life => { life with busy := life.busy + 1 }) :=
    { h with sinks := congrArg (List.modify · sink.number _) h.sinks }
  have hTold := System.Mirrors.record hBusy (e := .delivery sink (.stream r) event
    (w.standing (.stream r)) true) fun q other => by simpa [Entry.about] using other.symm
  have hTaken := he.deliver sink event _ _ hTold.twin
  have hRun (u : System κ) (standing : u.standing (.stream r) = w.standing (.stream r))
      (inContext : u.dispatcher.inContext = true) :
      (HostedStreams.deliverTo env (.stream r) event sink).on u =
        ((env.deliver sink (.stream r) event).after (modify
          (·.updateSink sink fun life => { life with busy := life.busy - 1 }))).on
            ((u.updateSink sink fun life => { life with busy := life.busy + 1 }).record
              (.delivery sink (.stream r) event (w.standing (.stream r)) true)) := by
    rw [← standing, ← inContext]
    rfl
  rw [Mirrored, left, left, hRun w rfl h.inContext.1, hRun v h.standing h.inContext.2, on_after,
    on_after, hTaken.1]
  exact ⟨rfl, (hTold.trans hTaken.2).busy⟩

theorem visit (event : Event) (l : List Attachment) :
    Private shares r id (visit env (.stream r) event l) := by
  induction l with
  | nil => exact pure _
  | cons a rest ih =>
    refine seeing fun h => ?_
    rw [h.alive, h.source]
    split
    · exact (bind ih fun _ => pure _) _ _ h
    · split
      · exact ih _ _ h
      · exact (bind (deliverTo he event a.sink) fun _ => bind ih fun _ => pure _) _ _ h

theorem fire (event : Event) : Private shares r id (fire env (.stream r) event) := by
  refine seeing fun {w v} h => ?_
  rw [h.standing, h.source]
  have hPass : Private shares r id (modify (·.record (.pass (.stream r) event
      (w.standing (.stream r)))) : Act κ PUnit) :=
    changing fun h => .record h fun q other => by simpa [Entry.about] using other.symm
  refine (bind hPass fun _ => bind (visit he event _) fun ended => ?_) _ _ h
  obtain ⟨handled, stale⟩ := ended
  have hPruned : Private shares r id
      (modify fun w => w.updateSource (.stream r) (·.prune w.alive) : Act κ PUnit) :=
    changing fun h => .updateSource h (by rw [h.alive])
  dsimp only
  split
  · exact bind hPruned fun _ => pure _
  · exact pure _

theorem destroy : Private shares r id (r.destroy env) := by
  refine seeing fun h => ?_
  rw [h.status]
  split
  · refine (bind (updateStatus _) fun _ => bind (fire he _) fun _ => ?_) _ _ h
    exact changing fun h => .updateSource h rfl
  · exact pure _ _ _ h

theorem apply (event : Event) : Private shares r id (r.apply env event) := by
  refine seeing fun {w v} h => ?_
  rw [h.status]
  rcases (w.status r).react event with ⟨status, reaction⟩
  refine (bind (updateStatus _) fun _ => ?_) _ _ h
  cases reaction with
  | fire fired => exact fire he fired
  | destroy => exact bind (destroy he) fun _ => pure _
  | ignore => exact pure _

theorem receive (event : Event) : Private shares r id (r.receive env event) := by
  refine seeing fun h => ?_
  rw [h.status]
  split
  · exact (bind (apply he .created) fun _ => apply he event) _ _ h
  · exact apply he event _ _ h

theorem start : Private shares r id (r.start env) := by
  refine seeing fun {w v} h => ?_
  rw [h.stream]
  dsimp only
  rw [h.named]
  split
  · exact pure _ _ _ h
  · refine (bind (updateStatus _) fun _ => bind (askHost _ (he.start _)) fun answer => ?_) _ _ h
    cases answer with
    | ok _ => exact pure _
    | error e => exact bind (destroy he) fun _ => pure _

theorem closeDown (already : Bool) : Private shares r id (r.closeDown env already) := by
  intro w v h
  refine (isForeign w v h).bind fun foreign hEnd => ?_
  have hInside : foreign = false := by
    have hAnswer : ((r.isForeign env).on w).1 = .ok !w.dispatcher.inContext := by
      rw [StreamRef.isForeign, on_get_bind, h.worker]
      rfl
    rw [hAnswer, h.inContext.1] at hEnd
    exact (Except.ok.inj hEnd).symm
  subst hInside
  exact destroy he _ _ (isForeign w v h).2.twin

theorem close : Private shares r id (r.close env) := by
  refine seeing fun {w v} h => ?_
  rw [h.stream]
  dsimp only
  rw [h.named]
  split
  · exact pure _ _ _ h
  · refine (bind (updateStatus _) fun _ => ?_) _ _ h
    split
    · refine bind (askHost _ he.cancel) fun answer => ?_
      cases answer with
      | ok _ => exact bind (closeDown he _) fun _ => pure _
      | error e => exact bind (updateStatus _) fun _ => pure _
    · exact bind (closeDown he _) fun _ => pure _

theorem drop : Private shares r id (r.drop env) := by
  refine seeing fun {w v} h => ?_
  rw [h.stream]
  dsimp only
  rw [h.named]
  split
  · split
    · exact (bind (askHost _ he.cancel) fun _ => destroy he) _ _ h
    · exact destroy he _ _ h
  · exact pure _ _ _ h

theorem release : Private shares r id (r.release env) := by
  refine bind (changing fun h => .updateHandles h (· - 1)) fun _ => seeing fun h => ?_
  rw [h.stream]
  split
  · exact drop he _ _ h
  · exact pure _ _ _ h

theorem request (operation : String) (ranges : List Range) :
    Private shares r id (r.request env operation ranges) := by
  refine seeing fun {w v} h => ?_
  rw [h.stream]
  dsimp only
  rw [h.named]
  refine (bind (updateStatus _) fun _ =>
    bind (askHost _ (he.requestRanges _ _)) fun answer => ?_) _ _ h
  cases answer with
  | ok _ => exact pure _
  | error e => exact bind (updateStatus _) fun _ => pure _

theorem readRange (first stop : UInt64) : Private shares r id (r.readRange env first stop) := by
  refine seeing fun h => ?_
  rw [h.status]
  split
  · exact pure _ _ _ h
  · split
    · exact pure _ _ _ h
    · exact request he _ _ _ _ h

theorem readRanges (ranges : List Range) : Private shares r id (r.readRanges env ranges) := by
  refine seeing fun h => ?_
  rw [h.status]
  split
  · exact pure _ _ _ h
  · split
    · exact pure _ _ _ h
    · split
      · exact pure _ _ _ h
      · exact request he _ _ _ _ h

theorem write (data : List UInt8) : Private shares r id (r.write env data) := by
  refine seeing fun {w v} h => ?_
  rw [h.stream]
  dsimp only
  rw [h.named]
  split
  · exact pure _ _ _ h
  · split
    · exact pure _ _ _ h
    · refine (bind (askHost _ (he.write data)) fun answer => ?_) _ _ h
      cases answer <;> exact pure _

end
end Act.Private

/-- The call is an operation of the stream. -/
def Call.On (r : StreamRef) : Call κ α → Prop
  | .acquire q | .release q | .start q | .attach q _ | .detach q _ | .receive q _ | .readRange q _ _
  | .readRanges q _ | .write q _ | .close q | .destroy q => q = r
  | _ => False

theorem Act.Private.call {shares : Shares κ} {r : StreamRef} {id : StreamId} {env : Surroundings κ}
    (he : env.Private shares r id) {c : Call κ α} (own : c.On r) :
    Act.Private shares r id (c.run env) := by
  cases c <;> first | exact own.elim | obtain rfl := own
  case acquire => exact .acquire
  case release => exact .release he
  case start => exact .start he
  case attach sink => exact .attach sink
  case detach sink => exact .detach sink
  case receive event => exact .receive he event
  case readRange first stop => exact .readRange he first stop
  case readRanges ranges => exact .readRanges he ranges
  case write data => exact .write he data
  case close => exact .close he
  case destroy => exact .destroy he

/-- What a client does for one stream: it goes by what it sees of the stream and remembers for it,
panics and holds panics back, and makes calls on this stream only, in surroundings out of
`below`. -/
inductive Minding (shares : Shares κ) (r : StreamRef) (below : Surroundings κ → Prop) :
    {α : Type} → Act κ α → Prop
  | pure {α : Type} (a : α) : Minding shares r below (pure a)
  | bind {α β : Type} {a : Act κ α} {f : α → Act κ β} :
      Minding shares r below a → (∀ x, Minding shares r below (f x)) →
      Minding shares r below (a >>= f)
  | see {α : Type} (f : Stream → (SinkRef → Bool) → shares.Share → α) :
      Minding shares r below (do
        let w ← get
        return f (w.stream r) w.alive (shares.get w.client r))
  | remember (f : shares.Share → shares.Share) :
      Minding shares r below (modify (·.updateClient (shares.update r f)))
  | panic {α : Type} (payload : Payload) : Minding shares r below (throw (.panic payload) : Act κ α)
  | contain {α : Type} {a : Act κ α} : Minding shares r below a → Minding shares r below a.contain
  | after {α : Type} {a : Act κ α} {last : Act κ Unit} :
      Minding shares r below a → Minding shares r below last → Minding shares r below (a.after last)
  | call {α : Type} {env : Surroundings κ} (usable : below env) {c : Call κ α} (own : c.On r) :
      Minding shares r below (c.run env)

/-- Surroundings in which sinks and the host mind the stream, which the host knows by the
identifier, whenever they are called for it, at whatever depth. -/
inductive Surroundings.Minds (shares : Shares κ) (r : StreamRef) (id : StreamId) :
    Surroundings κ → Prop
  | intro {env : Surroundings κ} (below : Surroundings κ → Prop)
      (minds : ∀ lower, below lower → Minds shares r id lower)
      (deliver : ∀ sink event, Minding shares r below (env.deliver sink (.stream r) event))
      (start : ∀ config, Minding shares r below (env.host.start id config))
      (requestRanges : ∀ request ranges,
        Minding shares r below (env.host.requestRanges id request ranges))
      (write : ∀ data, Minding shares r below (env.host.write id data))
      (cancel : Minding shares r below (env.host.cancel id)) : Minds shares r id env

section

variable {shares : Shares κ} {r : StreamRef} {id : StreamId} (separate : shares.Separate)

include separate

/-- What a client does for one stream is the stream's own affair. -/
theorem Minding.private_ {below : Surroundings κ → Prop}
    (hBelow : ∀ env, below env → env.Private shares r id) {a : Act κ α}
    (h : Minding shares r below a) : Act.Private shares r id a := by
  induction h with
  | pure a => exact .pure a
  | bind _ _ iha ihf => exact .bind iha ihf
  | see f =>
    refine .seeing fun h => ?_
    rw [h.stream, h.alive, h.share]
    exact Act.Private.pure _ _ _ h
  | remember f => exact .changing fun h => .updateShare h separate f
  | panic payload => exact .panic payload
  | contain _ ih => exact .contain ih
  | after _ _ iha ihl => exact .after iha ihl
  | call usable own => exact .call (hBelow _ usable) own

/-- Surroundings that mind a stream make what they do for it its own affair. -/
theorem Surroundings.Minds.private_ {env : Surroundings κ} (h : env.Minds shares r id) :
    env.Private shares r id := by
  induction h with
  | intro below _ deliver start requestRanges write cancel ih =>
    exact {
      deliver := fun sink event => (deliver sink event).private_ separate ih
      start := fun config => (start config).private_ separate ih
      requestRanges := fun request ranges => (requestRanges request ranges).private_ separate ih
      write := fun data => (write data).private_ separate ih
      cancel := cancel.private_ separate ih }

end
end HostedStreams
