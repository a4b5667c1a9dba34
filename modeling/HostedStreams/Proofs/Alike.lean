import HostedStreams.Proofs.Recording

/-! Two systems side by side: one in which sinks panic and one in which none does. They are alike
if they differ in what a panic takes away, which is the rest of a pass and of what is done to the
list of sinks after it. Two actions keep them alike if they go the same way, or if the one is cut
short where the other has nothing more to do that matters. -/
namespace HostedStreams

variable {κ : Client} {α β γ δ : Type}

/-- The journal of a run in which sinks panic, against that of one in which none does. It lacks
deliveries only, and those only of a pass in which the last sink to take the event has panicked. -/
inductive Temper.Abridged (temper : Temper κ) : List (Entry κ.Note) → List (Entry κ.Note) → Prop
  | refl (past : List (Entry κ.Note)) : Abridged temper past past
  | same (e : Entry κ.Note) {past other : List (Entry κ.Note)} (h : Abridged temper past other) :
      Abridged temper (e :: past) (e :: other)
  | missed {past other : List (Entry κ.Note)} (taker sink : SinkRef) (origin : Origin)
      (event : Event) (standing : Standing) (inContext : Bool) {payload : Payload}
      (h : Abridged temper (.delivery taker origin event standing inContext :: past) other)
      (panicked :
        temper (.delivery taker origin event standing inContext :: past) = .error payload) :
      Abridged temper (.delivery taker origin event standing inContext :: past)
        (.delivery sink origin event standing inContext :: other)

/-- No sink panics. -/
def Temper.Even (temper : Temper κ) : Prop :=
  ∀ past, ∃ handled, temper past = .ok handled

namespace Temper

variable {temper even : Temper κ} {past other : List (Entry κ.Note)}

/-- Where no sink panics a pass comes to all of them. -/
theorem Even.passing_cons (h : even.Even) (entry : SinkRef → Entry κ.Note) (sink : SinkRef)
    (rest : List SinkRef) (past : List (Entry κ.Note)) :
    even.passing entry (sink :: rest) past = even.passing entry rest (entry sink :: past) := by
  obtain ⟨handled, hTaken⟩ := h (entry sink :: past)
  rw [passing, hTaken]

/-- Passes over the same sinks, in one of which a sink may panic. -/
theorem Abridged.passing (h : temper.Abridged past other) (hEven : even.Even) (origin : Origin)
    (event : Event) (standing : Standing) (inContext : Bool) (l : List SinkRef) :
    temper.Abridged (temper.passing (.delivery · origin event standing inContext) l past)
      (even.passing (.delivery · origin event standing inContext) l other) := by
  induction l generalizing past other with
  | nil => exact h
  | cons sink rest ih =>
    rw [hEven.passing_cons, Temper.passing]
    cases hTaken : temper (.delivery sink origin event standing inContext :: past) with
    | ok handled => exact ih (h.same _)
    | error payload =>
      -- Whoever comes after this sink misses the event.
      have hMissed (l : List SinkRef) : ∀ {other : List (Entry κ.Note)},
          temper.Abridged (.delivery sink origin event standing inContext :: past) other →
          temper.Abridged (.delivery sink origin event standing inContext :: past)
            (even.passing (.delivery · origin event standing inContext) l other) := by
        induction l with
        | nil => exact fun h => h
        | cons next rest ih =>
          intro other h
          rw [hEven.passing_cons]
          exact ih (h.missed sink next origin event standing inContext hTaken)
      exact hMissed rest (h.same _)

end Temper

/-- The same stream, but for its list of sinks, which comes to the same as long as it is not torn
down. -/
structure Stream.Alike (alive : SinkRef → Bool) (s t : Stream) : Prop where
  id : t.id = s.id
  config : t.config = s.config
  binding : t.binding = s.binding
  status : t.status = s.status
  handles : t.handles = s.handles
  source : s.status.state ≠ .destroyed → t.source.toList alive = s.source.toList alive

/-- The dispatcher with another count of panics. -/
def Dispatcher.withPanics (d : Dispatcher κ) (n : Nat) : Dispatcher κ :=
  { d with metrics := { d.metrics with panics := n } }

/-- The systems differ in what panics of sinks take away. -/
structure System.Alike (temper : Temper κ) (w v : System κ) : Prop where
  length : v.streams.length = w.streams.length
  stream : ∀ r, (w.stream r).Alike w.alive (v.stream r)
  hubs : v.hubs = w.hubs
  sinks : v.sinks = w.sinks
  dispatcher : ∃ panics, v.dispatcher = w.dispatcher.withPanics panics
  drawn : v.drawn = w.drawn
  client : v.client = w.client
  past : temper.Abridged w.past v.past

theorem System.updateSource_id (w : System κ) (r : StreamRef) :
    w.updateSource (.stream r) id = w := by
  change { w with streams := w.streams.modify r.number id } = w
  rw [List.modify_id]

namespace System.Alike

variable {temper : Temper κ} {w v : System κ} {r : StreamRef}

/-- Every system is like itself. -/
theorem refl (w : System κ) : w.Alike temper w where
  length := rfl
  stream _ := ⟨rfl, rfl, rfl, rfl, rfl, fun _ => rfl⟩
  hubs := rfl
  sinks := rfl
  dispatcher := ⟨w.dispatcher.metrics.panics, rfl⟩
  drawn := rfl
  client := rfl
  past := .refl _

/-- The same sinks are alive. -/
theorem alive (h : w.Alike temper v) : v.alive = w.alive := by
  funext sink
  rw [System.alive, h.sinks, System.alive]

theorem status (h : w.Alike temper v) (r : StreamRef) : v.status r = w.status r :=
  (h.stream r).status

theorem has (h : w.Alike temper v) : v.Has r ↔ w.Has r := by
  rw [Has, h.length, Has]

/-- The audience of a stream that lives is the same. -/
theorem audience (h : w.Alike temper v) (live : (w.status r).state ≠ .destroyed) :
    v.audience r = w.audience r := by
  rw [System.audience, h.alive]
  exact (h.stream r).source live

/-- What does not go by the count of panics comes to the same. -/
theorem reads (h : w.Alike temper v) {f : Dispatcher κ → α}
    (blind : ∀ d n, f (d.withPanics n) = f d) : f v.dispatcher = f w.dispatcher := by
  obtain ⟨panics, hDispatcher⟩ := h.dispatcher
  rw [hDispatcher, blind]

theorem inContext (h : w.Alike temper v) : v.dispatcher.inContext = w.dispatcher.inContext :=
  h.reads (f := (·.inContext)) fun _ _ => rfl

/-- The same happens to the same stream. -/
theorem updateStream (h : w.Alike temper v) (r : StreamRef) {f g : Stream → Stream}
    (hf : (f (w.stream r)).Alike w.alive (g (v.stream r))) :
    (w.updateStream r f).Alike temper (v.updateStream r g) where
  length := by simpa [System.updateStream] using h.length
  stream q := by
    have hAlive : (w.updateStream r f).alive = w.alive := rfl
    rw [hAlive, stream_updateStream, stream_updateStream]
    simp only [h.has]
    split
    · rename_i hq
      rw [hq.1]
      exact hf
    · exact h.stream q
  hubs := h.hubs
  sinks := h.sinks
  dispatcher := h.dispatcher
  drawn := h.drawn
  client := h.client
  past := h.past

/-- The same update of a status keeps systems alike if it brings nothing back. -/
theorem updateStatus (h : w.Alike temper v) (r : StreamRef) {f g : Status → Status}
    (same : g (w.status r) = f (w.status r))
    (live : (f (w.status r)).state ≠ .destroyed → (w.status r).state ≠ .destroyed) :
    (w.updateStatus r f).Alike temper (v.updateStatus r g) := by
  have hStream := h.stream r
  refine h.updateStream r { hStream with status := ?_, source := fun hLive => ?_ }
  · exact (congrArg g (h.status r)).trans same
  · exact hStream.source (live hLive)

/-- The same update of handles keeps systems alike. -/
theorem updateHandles (h : w.Alike temper v) (r : StreamRef) (f : Nat → Nat) :
    (w.updateStream r fun s => { s with handles := f s.handles }).Alike temper
      (v.updateStream r fun s => { s with handles := f s.handles }) :=
  have hStream := h.stream r
  h.updateStream r { hStream with handles := congrArg f hStream.handles }

/-- The lists of sinks are seen to, and still come to the same, or the stream is torn down. -/
theorem updateSource (h : w.Alike temper v) (r : StreamRef) {f g : Source → Source}
    (same : (w.status r).state ≠ .destroyed → (g (v.source (.stream r))).toList w.alive =
      (f (w.source (.stream r))).toList w.alive) :
    (w.updateSource (.stream r) f).Alike temper (v.updateSource (.stream r) g) :=
  h.updateStream r { h.stream r with source := same }

/-- Sinks that are gone are forgotten on one side. -/
theorem prune_left (h : w.Alike temper v) (r : StreamRef) :
    (w.updateSource (.stream r) (·.prune w.alive)).Alike temper v := by
  have hUpdated := h.updateSource r (f := (·.prune w.alive)) (g := id) fun live =>
    ((h.stream r).source live).trans (Source.toList_prune _ _).symm
  rwa [updateSource_id] at hUpdated

/-- Sinks that are gone are forgotten on the other side. -/
theorem prune_right (h : w.Alike temper v) (r : StreamRef) :
    w.Alike temper (v.updateSource (.stream r) (·.prune v.alive)) := by
  have hUpdated := h.updateSource r (f := id) (g := (·.prune v.alive)) fun live => by
    rw [h.alive]
    exact (Source.toList_prune _ _).trans ((h.stream r).source live)
  rwa [updateSource_id] at hUpdated

/-- The list of sinks of a stream that is torn down is cleared on the other side. -/
theorem clear_right (h : w.Alike temper v) (torn : (w.status r).state = .destroyed) :
    w.Alike temper (v.updateSource (.stream r) Source.clear) := by
  have hUpdated := h.updateSource r (f := id) (g := Source.clear) fun live => absurd torn live
  rwa [updateSource_id] at hUpdated

/-- The same entry keeps systems alike. -/
theorem record (h : w.Alike temper v) (e : Entry κ.Note) :
    (w.record e).Alike temper (v.record e) :=
  { h with past := h.past.same e }

/-- The dispatcher does the same, and does not go by how many panics were counted. -/
theorem updateDispatcher (h : w.Alike temper v) {f : Dispatcher κ → Dispatcher κ}
    (same : ∀ d n, ∃ m, f (d.withPanics n) = (f d).withPanics m) :
    (w.updateDispatcher f).Alike temper (v.updateDispatcher f) := by
  obtain ⟨panics, hDispatcher⟩ := h.dispatcher
  obtain ⟨m, hSame⟩ := same w.dispatcher panics
  exact { h with dispatcher := ⟨m, by rw [System.updateDispatcher, hDispatcher]; exact hSame⟩ }

/-- An update of what is counted keeps systems alike if it does not go by the panics. -/
theorem updateMetrics (h : w.Alike temper v) {f : Metrics → Metrics}
    (same : ∀ m n, ∃ k, f { m with panics := n } = { f m with panics := k }) :
    (w.updateMetrics f).Alike temper (v.updateMetrics f) := by
  apply h.updateDispatcher
  intro d n
  obtain ⟨k, hSame⟩ := same d.metrics n
  exact ⟨k, congrArg (fun m => { d with metrics := m }) hSame⟩

/-- A panic is counted on one side. -/
theorem panic_left (h : w.Alike temper v) : (w.updateMetrics Metrics.countPanic).Alike temper v :=
  { h with dispatcher := h.dispatcher }

/-- A panic is counted on the other side. -/
theorem panic_right (h : w.Alike temper v) :
    w.Alike temper (v.updateMetrics Metrics.countPanic) := by
  obtain ⟨panics, hDispatcher⟩ := h.dispatcher
  refine { h with dispatcher := ⟨panics + 1, ?_⟩ }
  exact congrArg (fun d => { d with metrics := d.metrics.countPanic }) hDispatcher

/-- The same memory keeps systems alike. -/
theorem updateClient (h : w.Alike temper v) (f : κ.State → κ.State) :
    (w.updateClient f).Alike temper (v.updateClient f) :=
  { h with client := congrArg f h.client }

end System.Alike
namespace Act

/-- Both actions end the same way, and leave systems behind that are alike. -/
def Same (temper : Temper κ) (a b : Act κ α) (w v : System κ) : Prop :=
  (a.on w).1 = (b.on v).1 ∧ (a.left w).Alike temper (b.left v)

/-- Both actions leave systems behind that are alike, and the second one ends by itself if the
first one does. -/
def Near (temper : Temper κ) (a : Act κ α) (b : Act κ β) (w v : System κ) : Prop :=
  (a.Returns w → b.Returns v) ∧ (a.left w).Alike temper (b.left v)

variable {temper : Temper κ} {w v : System κ}

theorem near_get_bind {f : System κ → Act κ α} {g : System κ → Act κ β} :
    Near temper (get >>= f) (get >>= g) w v ↔ Near temper (f w) (g v) w v := Iff.rfl

theorem near_modify_bind {f f' : System κ → System κ} {g : PUnit → Act κ α} {g' : PUnit → Act κ β} :
    Near temper (modify f >>= g) (modify f' >>= g') w v ↔
      Near temper (g ()) (g' ()) (f w) (f' v) := Iff.rfl

theorem same_get_bind {f g : System κ → Act κ α} :
    Same temper (get >>= f) (get >>= g) w v ↔ Same temper (f w) (g v) w v := Iff.rfl

theorem same_modify_bind {f f' : System κ → System κ} {g g' : PUnit → Act κ α} :
    Same temper (modify f >>= g) (modify f' >>= g') w v ↔
      Same temper (g ()) (g' ()) (f w) (f' v) := Iff.rfl

theorem Same.near {a b : Act κ α} (h : Same temper a b w v) : Near temper a b w v :=
  ⟨fun ⟨x, hx⟩ => ⟨x, h.1.symm.trans hx⟩, h.2⟩

/-- Changes that keep systems alike are the same. -/
theorem same_modify {f g : System κ → System κ} (h : (f w).Alike temper (g v)) :
    Same temper (modify f) (modify g) w v :=
  ⟨rfl, h⟩

/-- What is worked out from systems that are alike is the same if the answers are. -/
theorem same_modifyGet {f g : System κ → α × System κ} (answer : (f w).1 = (g v).1)
    (h : (f w).2.Alike temper (g v).2) : Same temper (modifyGet f) (modifyGet g) w v :=
  ⟨congrArg Except.ok answer, h⟩

/-- Panics are held back on both sides. -/
theorem Same.contain {a b : Act κ α} (h : Same temper a b w v) :
    Same temper a.contain b.contain w v :=
  Paired.contain h

theorem same_pure (h : w.Alike temper v) (x : α) : Same temper (pure x) (pure x) w v :=
  ⟨rfl, h⟩

theorem near_pure (h : w.Alike temper v) (x : α) (y : β) :
    Near temper (pure x : Act κ α) (pure y : Act κ β) w v :=
  ⟨fun _ => ⟨y, rfl⟩, h⟩

/-- An action that ends the same way is followed by actions that are near each other. -/
theorem Same.bind_near {a b : Act κ α} {f : α → Act κ β} {g : α → Act κ γ}
    (h : Same temper a b w v)
    (hf : ∀ x, (a.on w).1 = .ok x → Near temper (f x) (g x) (a.left w) (b.left v)) :
    Near temper (a >>= f) (b >>= g) w v := by
  cases hEnd : (a.on w).1 with
  | ok x =>
    have hOther : b.on v = (.ok x, b.left v) := on_of_end (h.1.symm.trans hEnd)
    have hFirst : a.on w = (.ok x, a.left w) := on_of_end hEnd
    rw [Near, Returns, Returns, Act.left, Act.left, on_bind_ok hFirst, on_bind_ok hOther]
    exact hf x hEnd
  | error halt =>
    have hOther := h.1.symm.trans hEnd
    rw [Near, Returns, Returns, Act.left, Act.left, on_bind, on_bind, hEnd, hOther]
    refine ⟨?_, h.2⟩
    rintro ⟨_, hx⟩
    cases hx

/-- Actions in a row are the same if what comes second is, wherever the first ones end alike. -/
theorem Same.bind {a b : Act κ α} {f g : α → Act κ β} (h : Same temper a b w v)
    (hf : ∀ x, (a.on w).1 = .ok x → Same temper (f x) (g x) (a.left w) (b.left v)) :
    Same temper (a >>= f) (b >>= g) w v :=
  Paired.bind h hf

/-- Where the first action is cut short and the second one is not, what comes after the second one
must not matter. -/
theorem Near.bind {a : Act κ α} {b : Act κ β} {f : α → Act κ γ} {g : β → Act κ δ}
    (h : Near temper a b w v)
    (alone : ∀ y, (b.on v).1 = .ok y → (a.left w).Alike temper ((g y).left (b.left v)))
    (both : ∀ x y, (a.on w).1 = .ok x → (b.on v).1 = .ok y →
      Near temper (f x) (g y) (a.left w) (b.left v)) :
    Near temper (a >>= f) (b >>= g) w v := by
  cases hEnd : (a.on w).1 with
  | ok x =>
    obtain ⟨y, hOther⟩ := h.1 ⟨x, hEnd⟩
    have hFirst : a.on w = (.ok x, a.left w) := on_of_end hEnd
    have hSecond : b.on v = (.ok y, b.left v) := on_of_end hOther
    rw [Near, Returns, Returns, Act.left, Act.left, on_bind_ok hFirst, on_bind_ok hSecond]
    exact both x y hEnd hOther
  | error halt =>
    have hHalted : ¬ (a >>= f).Returns w := by
      rintro ⟨_, hx⟩
      rw [on_bind, hEnd] at hx
      cases hx
    refine ⟨fun hReturns => absurd hReturns hHalted, ?_⟩
    rw [Act.left, on_bind, hEnd]
    exact holds_bind (P := fun u => (a.left w).Alike temper u) h.2 alone

/-- Only the answer is worked on afterwards. -/
theorem Near.bind_pure {a : Act κ α} {b : Act κ β} (h : Near temper a b w v) (f : α → γ)
    (g : β → δ) : Near temper (a >>= fun x => pure (f x)) (b >>= fun y => pure (g y)) w v :=
  h.bind (fun _ _ => h.2) fun _ _ _ _ => near_pure h.2 _ _

/-- Where both actions end by themselves, both go on. -/
theorem Near.bind_returns {a : Act κ α} {b : Act κ β} {f : α → Act κ γ} {g : β → Act κ δ}
    (h : Near temper a b w v) (ha : a.Returns w)
    (both : ∀ x y, (a.on w).1 = .ok x → (b.on v).1 = .ok y →
      Near temper (f x) (g y) (a.left w) (b.left v)) :
    Near temper (a >>= f) (b >>= g) w v := by
  obtain ⟨x, hEnd⟩ := ha
  obtain ⟨y, hOther⟩ := h.1 ⟨x, hEnd⟩
  have hFirst : a.on w = (.ok x, a.left w) := on_of_end hEnd
  have hSecond : b.on v = (.ok y, b.left v) := on_of_end hOther
  rw [Near, Returns, Returns, Act.left, Act.left, on_bind_ok hFirst, on_bind_ok hSecond]
  exact both x y hEnd hOther

/-- What is done after an action however that ends. -/
theorem Near.after {a : Act κ α} {b : Act κ β} {last other : Act κ Unit} (h : Near temper a b w v)
    (hLast : Near temper last other (a.left w) (b.left v)) :
    Near temper (a.after last) (b.after other) w v := by
  refine ⟨fun ⟨x, hx⟩ => ?_, by rw [left_after, left_after]; exact hLast.2⟩
  rw [on_after] at hx
  cases hEnd : (a.on w).1 with
  | error halt =>
    rw [hEnd] at hx
    cases hx
  | ok x =>
    obtain ⟨y, hOther⟩ := h.1 ⟨x, hEnd⟩
    rw [hEnd] at hx
    cases hLastEnd : (last.on (a.left w)).1 with
    | error halt =>
      simp only [hLastEnd] at hx
      cases hx
    | ok _ => exact Returns.after ⟨y, hOther⟩ (hLast.1 ⟨_, hLastEnd⟩)

/-- To do the same for each of several is the same if each single time is. -/
theorem same_forM {f g : α → Act κ Unit}
    (h : ∀ x w v, w.Alike temper v → Same temper (f x) (g x) w v) (l : List α)
    (hw : w.Alike temper v) : Same temper (l.forM f) (l.forM g) w v := by
  induction l generalizing w v with
  | nil => exact same_pure hw _
  | cons x rest ih => exact (h x w v hw).bind fun _ _ => ih (h x w v hw).2

end Act

end HostedStreams
