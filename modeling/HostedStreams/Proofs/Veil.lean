import HostedStreams.Proofs.Closes
import HostedStreams.Proofs.Refusal

/-! Clients that go by what the library tells. Of a stream that is torn down it tells nobody whether
a close was under way, nor how many handles are left, so systems that differ in nothing else are the
same to such a client: it does the same in both, and what it leaves behind differs in nothing else
either. A host that leaves a stream alone while it is asked goes by even less. -/
namespace HostedStreams

variable {κ : Client} {α β : Type}

/-- The stream with the mark of a close and the number of handles as they are given. -/
def Stream.marked (closing : Bool) (handles : Nat) (s : Stream) : Stream :=
  { s with handles, status := { s.status with closing } }

namespace System

variable {r q : StreamRef} {w v : System κ}

/-- The second system is the first one, but for the mark and the handles of a stream that is torn
down. -/
inductive Veiled (r : StreamRef) (w : System κ) : System κ → Prop
  | intro (torn : w.Torn r) (closing : Bool) (handles : Nat) :
      Veiled r w (w.updateStream r (Stream.marked closing handles))

namespace Veiled

theorem torn (h : w.Veiled r v) : w.Torn r := by
  cases h with
  | intro torn => exact torn

/-- No state is hidden. -/
theorem state (h : w.Veiled r v) (q : StreamRef) : (v.status q).state = (w.status q).state := by
  cases h with
  | intro =>
    rw [status_updateStream]
    split <;> rfl

/-- The stream is torn down in both systems. -/
theorem torn_right (h : w.Veiled r v) : v.Torn r := by
  refine ⟨?_, (h.state r).trans h.torn.2⟩
  cases h with
  | intro torn => exact (w.has_updateStream r r _).2 torn.1

theorem dispatcher (h : w.Veiled r v) : v.dispatcher = w.dispatcher := by
  cases h with
  | intro => rfl

theorem alive (h : w.Veiled r v) : v.alive = w.alive := by
  cases h with
  | intro => rfl

theorem length (h : w.Veiled r v) : v.streams.length = w.streams.length := by
  cases h with
  | intro => simp [updateStream]

theorem source (h : w.Veiled r v) (o : Origin) : v.source o = w.source o := by
  cases h with
  | intro =>
    cases o with
    | stream q =>
      rw [source_updateStream]
      split <;> rfl
    | hub hub => rfl

theorem standing (h : w.Veiled r v) (o : Origin) : v.standing o = w.standing o := by
  cases o with
  | stream q => exact congrArg Standing.state (h.state q)
  | hub hub => rw [System.standing, h.source, h.alive, System.standing]

/-- The library tells that a stream is closing only until it is torn down. -/
theorem isClosing (h : w.Veiled r v) (q : StreamRef) :
    (v.status q).isClosing = (w.status q).isClosing := by
  cases h with
  | intro torn =>
    rw [status_updateStream]
    split
    · rename_i hq
      have hState : (w.stream q).status.state = .destroyed := hq.1 ▸ torn.2
      simp [Status.isClosing, Stream.marked, System.status, hState]
    · rfl

/-- Other streams are the same in both systems. -/
theorem stream (h : w.Veiled r v) (other : q ≠ r) : v.stream q = w.stream q := by
  cases h with
  | intro => rw [stream_updateStream, if_neg fun hq => other hq.1]

theorem status (h : w.Veiled r v) (other : q ≠ r) : v.status q = w.status q :=
  congrArg Stream.status (h.stream other)

/-- Something is done that has nothing to do with streams. -/
theorem apart (h : w.Veiled r v) {f : System κ → System κ}
    (apart : ∀ (u : System κ) g, f (u.updateStream r g) = (f u).updateStream r g)
    (kept : (f w).streams = w.streams) : (f w).Veiled r (f v) := by
  cases h with
  | intro torn closing handles =>
    rw [apart]
    refine .intro ⟨?_, ?_⟩ closing handles
    · rw [Has, kept]
      exact torn.1
    · rw [System.status, System.stream, kept]
      exact torn.2

theorem record (h : w.Veiled r v) (e : Entry κ.Note) : (w.record e).Veiled r (v.record e) :=
  h.apart (fun _ _ => rfl) rfl

theorem updateSink (h : w.Veiled r v) (sink : SinkRef) (f : SinkLife → SinkLife) :
    (w.updateSink sink f).Veiled r (v.updateSink sink f) :=
  h.apart (fun _ _ => rfl) rfl

theorem updateDispatcher (h : w.Veiled r v) (f : Dispatcher κ → Dispatcher κ) :
    (w.updateDispatcher f).Veiled r (v.updateDispatcher f) :=
  h.apart (fun _ _ => rfl) rfl

/-- Something becomes of another stream. -/
theorem updateOther (h : w.Veiled r v) (other : q ≠ r) (f : Stream → Stream) :
    (w.updateStream q f).Veiled r (v.updateStream q f) := by
  cases h with
  | intro torn closing handles =>
    rw [w.updateStream_comm other]
    refine .intro ⟨(w.has_updateStream q r f).2 torn.1, ?_⟩ closing handles
    rw [status_updateStream, if_neg fun hr => other hr.1.symm]
    exact torn.2

/-- An update of another stream's status leaves the veil on. -/
theorem updateStatus (h : w.Veiled r v) (other : q ≠ r) (f : Status → Status) :
    (w.updateStatus q f).Veiled r (v.updateStatus q f) :=
  h.updateOther other _

/-- Something becomes of a stream that has nothing to do with the mark. -/
theorem updateStream (h : w.Veiled r v) (q : StreamRef) {f : Stream → Stream}
    (state : ∀ s, (f s).status.state = s.status.state)
    (marked : ∀ s closing handles, ∃ n, f (s.marked closing handles) = (f s).marked closing n) :
    (w.updateStream q f).Veiled r (v.updateStream q f) := by
  by_cases hq : q = r
  · subst hq
    cases h with
    | intro torn closing handles =>
      obtain ⟨n, hMarked⟩ := marked (w.stream q) closing handles
      have hSame : w.updateStream q (f ∘ Stream.marked closing handles) =
          w.updateStream q (Stream.marked closing n ∘ f) := updateStream_congr hMarked
      rw [updateStream_updateStream, hSame, ← updateStream_updateStream]
      refine .intro ⟨(w.has_updateStream q q f).2 torn.1, ?_⟩ closing n
      rw [status_updateStream, if_pos ⟨rfl, torn.1⟩, state]
      exact torn.2
  · exact h.updateOther hq f

/-- However many handles are added or given up, the veil stays on. -/
theorem updateHandles (h : w.Veiled r v) (q : StreamRef) (f : Nat → Nat) :
    (w.updateStream q fun s => { s with handles := f s.handles }).Veiled r
      (v.updateStream q fun s => { s with handles := f s.handles }) :=
  h.updateStream q (fun _ => rfl) fun _ _ handles => ⟨f handles, rfl⟩

theorem updateSource (h : w.Veiled r v) (o : Origin) (f : Source → Source) :
    (w.updateSource o f).Veiled r (v.updateSource o f) := by
  cases o with
  | stream q => exact h.updateStream q (fun _ => rfl) fun _ _ handles => ⟨handles, rfl⟩
  | hub hub => exact h.apart (fun _ _ => rfl) rfl

/-- A stream is made. -/
theorem append (h : w.Veiled r v) (made : Stream) :
    ({ w with streams := w.streams ++ [made] } : System κ).Veiled r
      { v with streams := v.streams ++ [made] } := by
  cases h with
  | intro torn closing handles =>
    have hHas : r.number < w.streams.length := torn.1
    have hModify : w.streams.modify r.number (Stream.marked closing handles) ++ [made] =
        (w.streams ++ [made]).modify r.number (Stream.marked closing handles) := by
      apply List.ext_getElem?
      intro i
      simp only [List.getElem?_modify, List.getElem?_append, List.length_modify]
      by_cases hi : i < w.streams.length
      · simp only [if_pos hi]
      · have hOther : r.number ≠ i := fun hr => hi (hr ▸ hHas)
        simp [if_neg hi, hOther]
    simp only [System.updateStream, hModify]
    refine .intro ⟨(w.has_append made r).2 (.inl torn.1), ?_⟩ closing handles
    rw [System.status, stream_append, if_neg (Nat.ne_of_lt hHas)]
    exact torn.2

end Veiled
end System

namespace Act

/-- The action neither goes by the stream nor changes it. -/
def Oblivious (r : StreamRef) (a : Act κ α) : Prop :=
  ∀ (w : System κ) f, a.on (w.updateStream r f) = ((a.on w).1, (a.left w).updateStream r f)

/-- The action does not tell the two systems apart. -/
def Blind (r : StreamRef) (a : Act κ α) : Prop :=
  ∀ w v : System κ, w.Veiled r v → Paired (System.Veiled r) a a w v

namespace Blind

variable {r q : StreamRef}

theorem pure (x : α) : Blind r (pure x : Act κ α) :=
  fun _ _ h => ⟨rfl, h⟩

theorem halt (halt : Halt) : Blind r (throw halt : Act κ α) :=
  fun _ _ h => ⟨rfl, h⟩

/-- A change that leaves the veil on is blind. -/
theorem changing {f : System κ → System κ} (h : ∀ {w v}, w.Veiled r v → (f w).Veiled r (f v)) :
    Blind r (modify f : Act κ PUnit) :=
  fun _ _ veiled => ⟨rfl, h veiled⟩

/-- What is done goes by what is seen, which is the same. -/
theorem seeing {f : System κ → Act κ α}
    (h : ∀ {w v}, w.Veiled r v → Paired (System.Veiled r) (f w) (f v) w v) :
    Blind r (get >>= f) :=
  fun _ _ veiled => h veiled

theorem bind {a : Act κ α} {f : α → Act κ β} (ha : Blind r a) (hf : ∀ x, Blind r (f x)) :
    Blind r (a >>= f) :=
  fun w v h => (ha w v h).bind fun x _ => hf x _ _ (ha w v h).2

theorem after {a : Act κ α} {last : Act κ Unit} (ha : Blind r a) (hLast : Blind r last) :
    Blind r (a.after last) :=
  fun w v h => (ha w v h).after (hLast _ _ (ha w v h).2)

theorem contain {a : Act κ α} (ha : Blind r a) : Blind r a.contain :=
  fun w v h => (ha w v h).contain

theorem tryCatch {a : Act κ α} {f : Halt → Act κ α} (ha : Blind r a)
    (hf : ∀ halt, Blind r (f halt)) : Blind r (tryCatch a f) :=
  fun w v h => (ha w v h).tryCatch fun halt _ => hf halt _ _ (ha w v h).2

/-- What goes by no stream and changes none. -/
theorem apart {a : Act κ α} (oblivious : a.Oblivious r)
    (kept : ∀ w : System κ, (a.left w).streams = w.streams) : Blind r a := by
  intro w v veiled
  refine ⟨?_, veiled.apart (fun u f => congrArg Prod.snd (oblivious u f)) (kept w)⟩
  cases veiled with
  | intro => rw [oblivious]

/-- Nothing comes of it where the stream is torn down. -/
theorem idle {a : Act κ α} {x : Except Halt α} (h : ∀ {w : System κ}, w.Torn r → a.on w = (x, w)) :
    Blind r a := by
  intro w v veiled
  rw [Paired, Act.left, Act.left, h veiled.torn, h veiled.torn_right]
  exact ⟨rfl, veiled⟩

/-- The dispatcher is seen to. -/
theorem books (f : Dispatcher κ → Dispatcher κ) :
    Blind r (modify (·.updateDispatcher f) : Act κ PUnit) :=
  changing (·.updateDispatcher f)

/-- An entry is made. -/
theorem entry (e : Entry κ.Note) : Blind r (modify (·.record e) : Act κ PUnit) :=
  changing (·.record e)

theorem updateStatus (other : q ≠ r) (f : Status → Status) :
    Blind r (modify (·.updateStatus q f) : Act κ PUnit) :=
  changing (·.updateStatus other f)

theorem acquire (q : StreamRef) : Blind r (q.acquire : Act κ Unit) :=
  changing (·.updateHandles q (· + 1))

end Blind
end Act

/-- Whatever the client does when it is called, it does not tell the two systems apart. -/
structure Surroundings.Blind (r : StreamRef) (env : Surroundings κ) : Prop where
  deliver : ∀ sink origin event, Act.Blind r (env.deliver sink origin event)
  start : ∀ id config, Act.Blind r (env.host.start id config)
  requestRanges : ∀ id request ranges, Act.Blind r (env.host.requestRanges id request ranges)
  write : ∀ id data, Act.Blind r (env.host.write id data)
  cancel : ∀ id, Act.Blind r (env.host.cancel id)
  isCurrent : Act.Blind r env.isCurrent
  scheduleTeardown : ∀ id, Act.Blind r (env.scheduleTeardown id)
  work : ∀ job, Act.Blind r (env.work job)

namespace Act.Blind

variable {r q : StreamRef} {env : Surroundings κ}

/-- The list of sinks becomes another one, by what it was and which sinks are there. -/
theorem listing (o : Origin) (f : (SinkRef → Bool) → Source → Bool × Source) :
    Blind r (modifyGet fun w => ((f w.alive (w.source o)).1,
      w.updateSource o fun _ => (f w.alive (w.source o)).2) : Act κ Bool) := by
  intro w v h
  have hSame : f v.alive (v.source o) = f w.alive (w.source o) := by rw [h.source, h.alive]
  have hVeiled : (w.updateSource o fun _ => (f w.alive (w.source o)).2).Veiled r
      (v.updateSource o fun _ => (f v.alive (v.source o)).2) := by
    rw [hSame]
    exact h.updateSource o _
  have hAnswer : (.ok (f w.alive (w.source o)).1 : Except Halt Bool) =
      .ok (f v.alive (v.source o)).1 := by rw [hSame]
  exact ⟨hAnswer, hVeiled⟩

theorem clear (o : Origin) : Blind r (o.clear : Act κ Unit) :=
  changing (·.updateSource o _)

theorem askHost {α : Type} (q : StreamRef) (id : StreamId) (call : HostCall)
    {ask : Host (Act κ) → Act κ (Except HostError α)} (hAsk : Blind r (ask env.host)) :
    Blind r (askHost env q id call ask) :=
  bind (entry _) fun _ => bind hAsk fun _ => bind (entry _) fun _ => pure _

section

variable (he : env.Blind r)

include he

/-- A sink that does not see through the veil takes the event in the same way. -/
theorem deliverTo (o : Origin) (event : Event) (sink : SinkRef) :
    Blind r (deliverTo env o event sink) := by
  refine bind (changing (·.updateSink sink _)) fun _ => bind (changing fun h => ?_) fun _ =>
    after (he.deliver sink o event) (changing (·.updateSink sink _))
  rw [h.standing, h.dispatcher]
  exact h.record _

theorem visit (o : Origin) (event : Event) (l : List Attachment) :
    Blind r (visit env o event l) := by
  induction l with
  | nil => exact pure _
  | cons a rest ih =>
    refine seeing fun h => ?_
    rw [h.alive, h.source]
    split
    · exact (bind ih fun _ => pure _) _ _ h
    · split
      · exact ih _ _ h
      · exact (bind (deliverTo he o event a.sink) fun _ => bind ih fun _ => pure _) _ _ h

/-- A pass goes by sinks and not by handles. -/
theorem fire (o : Origin) (event : Event) : Blind r (fire env o event) := by
  refine seeing fun h => ?_
  rw [h.standing, h.source]
  refine (bind (entry _) fun _ => bind (visit he o event _) fun (handled, stale) => ?_) _ _ h
  have hPruned : Blind r (modify fun w => w.updateSource o (·.prune w.alive) : Act κ PUnit) :=
    changing fun h => by
      rw [h.alive]
      exact h.updateSource o _
  dsimp only
  split
  · exact bind hPruned fun _ => pure _
  · exact pure _

/-- What is left of a teardown once the stream is marked as torn down. -/
theorem teardown (q : StreamRef) : Blind r (do
    let _ ← HostedStreams.fire env (.stream q) .destroyed
    (Origin.stream q).clear : Act κ Unit) :=
  bind (fire he _ _) fun _ => clear _

/-- No teardown goes by the mark or by the handles. -/
theorem destroy (q : StreamRef) : Blind r (q.destroy env) := by
  by_cases other : q = r
  · exact other ▸ idle fun torn => System.on_destroy_of_torn torn.2
  · refine seeing fun h => ?_
    rw [h.status other]
    split
    · exact (bind (updateStatus other _) fun _ => teardown he q) _ _ h
    · exact pure _ _ _ h

/-- What another stream makes of an event does not go by this one. -/
theorem apply (other : q ≠ r) (event : Event) : Blind r (q.apply env event) := by
  refine seeing fun {w v} h => ?_
  rw [h.status other]
  rcases (w.status q).react event with ⟨status, reaction⟩
  refine (bind (updateStatus other _) fun _ => ?_) _ _ h
  cases reaction with
  | fire fired => exact fire he _ fired
  | destroy => exact bind (destroy he q) fun _ => pure _
  | ignore => exact pure _

/-- A stream that is torn down takes no events, whatever its mark. -/
theorem receive (q : StreamRef) (event : Event) : Blind r (q.receive env event) := by
  by_cases other : q = r
  · exact other ▸ idle fun torn => StreamRef.on_receive_of_spent (.inr torn.2) (.inr torn.2)
  · refine seeing fun h => ?_
    rw [h.status other]
    split
    · exact (bind (apply he other .created) fun _ => apply he other event) _ _ h
    · exact apply he other event _ _ h

theorem start (q : StreamRef) : Blind r (q.start env) := by
  by_cases other : q = r
  · subst other
    refine idle (x := .ok (.ok ())) fun {w} torn => ?_
    have hState : (w.stream q).status.state = .destroyed := torn.2
    rw [StreamRef.start, Act.on_get_bind, if_pos (by simp [hState])]
    rfl
  · refine seeing fun h => ?_
    rw [h.stream other]
    dsimp only
    split
    · exact pure _ _ _ h
    · refine (bind (updateStatus other _) fun _ =>
        bind (askHost _ _ _ (he.start _ _)) fun answer => ?_) _ _ h
      cases answer with
      | ok _ => exact pure _
      | error e => exact bind (destroy he q) fun _ => pure _

omit he

theorem attach (q : StreamRef) (sink : SinkRef) : Blind r (q.attach sink : Act κ Bool) := by
  refine seeing fun h => ?_
  rw [h.state q]
  split
  · exact pure _ _ _ h
  · exact listing _ (Source.attach · sink) _ _ h

theorem detach (q : StreamRef) (sink : SinkRef) : Blind r (q.detach sink : Act κ Bool) :=
  listing _ (Source.detach · sink)

include he

theorem isForeign (other : q ≠ r) : Blind r (q.isForeign env) := by
  refine seeing fun h => ?_
  rw [h.stream other]
  split
  · exact pure _ _ _ h
  · exact (bind he.isCurrent fun _ => pure _) _ _ h
  · refine (seeing fun h => ?_) _ _ h
    rw [h.dispatcher]
    exact pure _ _ _ h

theorem scheduleTeardown (other : q ≠ r) : Blind r (q.scheduleTeardown env) := by
  refine seeing fun h => ?_
  rw [h.stream other]
  dsimp only
  split
  · exact pure _ _ _ h
  · exact he.scheduleTeardown _ _ _ h
  · refine (seeing fun h => ?_) _ _ h
    rw [h.dispatcher]
    split
    · exact (bind (books _) fun _ => pure _) _ _ h
    · exact pure _ _ _ h

theorem closeDown (other : q ≠ r) (already : Bool) : Blind r (q.closeDown env already) := by
  refine bind (isForeign he other) fun foreign => ?_
  split
  · split
    · exact pure _
    · refine bind (scheduleTeardown he other) fun queued => ?_
      split
      · exact pure _
      · exact destroy he q
  · exact destroy he q

/-- A close goes by the mark only where the stream lives. -/
theorem close (q : StreamRef) : Blind r (q.close env) := by
  by_cases other : q = r
  · exact other ▸ idle fun torn => StreamRef.on_close_of_torn torn.2
  · refine seeing fun h => ?_
    rw [h.stream other]
    dsimp only
    split
    · exact pure _ _ _ h
    · refine (bind (updateStatus other _) fun _ => ?_) _ _ h
      split
      · refine bind (askHost _ _ _ (he.cancel _)) fun answer => ?_
        cases answer with
        | ok _ => exact bind (closeDown he other _) fun _ => pure _
        | error e => exact bind (updateStatus other _) fun _ => pure _
      · exact bind (closeDown he other _) fun _ => pure _

theorem drop (other : q ≠ r) : Blind r (q.drop env) := by
  refine seeing fun h => ?_
  rw [h.stream other]
  dsimp only
  split
  · split
    · exact (bind (askHost _ _ _ (he.cancel _)) fun _ => destroy he q) _ _ h
    · exact destroy he q _ _ h
  · exact pure _ _ _ h

/-- Handles of a stream that is torn down are merely counted. -/
theorem release (q : StreamRef) : Blind r (q.release env) := by
  by_cases other : q = r
  · subst other
    intro w v h
    rw [Paired, Act.left, Act.left, System.on_release_of_torn h.torn.2,
      System.on_release_of_torn h.torn_right.2]
    exact ⟨rfl, h.updateHandles q (· - 1)⟩
  · refine bind (changing (·.updateHandles q (· - 1))) fun _ => seeing fun h => ?_
    rw [h.stream other]
    split
    · exact drop he other _ _ h
    · exact pure _ _ _ h

theorem request (other : q ≠ r) (operation : String) (ranges : List Range) :
    Blind r (q.request env operation ranges) := by
  refine seeing fun h => ?_
  rw [h.stream other]
  refine (bind (updateStatus other _) fun _ =>
    bind (askHost _ _ _ (he.requestRanges _ _ _)) fun answer => ?_) _ _ h
  cases answer with
  | ok _ => exact pure _
  | error e => exact bind (updateStatus other _) fun _ => pure _

end
end Act.Blind
end HostedStreams
