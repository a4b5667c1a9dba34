import HostedStreams.Proofs.Queue
import HostedStreams.Proofs.Roster
import HostedStreams.Stream.Transfer

/-! Two systems side by side that differ in anything but one stream and what is kept for it. What is
done for that stream alone goes the same way in both, changes the same things in both, and leaves
all that is left in each of them as it was. -/
namespace HostedStreams

variable {κ : Client} {α β : Type}

/-- How the memory of a client is shared out to streams. -/
structure Shares (κ : Client) where
  Share : Type
  get : κ.State → StreamRef → Share
  put : StreamRef → Share → κ.State → κ.State

namespace Shares

/-- What is put into the share of one stream is there, and leaves those of others alone. -/
structure Separate (shares : Shares κ) : Prop where
  get_put : ∀ r x s, shares.get (shares.put r x s) r = x
  get_put_of_ne : ∀ {q r}, q ≠ r → ∀ x s, shares.get (shares.put r x s) q = shares.get s q

def update (shares : Shares κ) (r : StreamRef) (f : shares.Share → shares.Share) (s : κ.State) :
    κ.State :=
  shares.put r (f (shares.get s r)) s

end Shares

/-- Whether the entry tells what the stream hands to its sinks, or what it asks of the host. -/
def Entry.about {Note : Type} (r : StreamRef) : Entry Note → Bool
  | .pass (.stream q) .. => q = r
  | .delivery _ (.stream q) .. => q = r
  | @Entry.hostCall _ _ _ q => q = r
  | @Entry.hostAnswer _ _ _ _ q => q = r
  | _ => false

/-- What the worker counts when it is done with a notification. -/
inductive Counter where
  | events (label : String)
  | dropped
  | panics

def Metrics.read (m : Metrics) : Counter → Nat
  | .events label => m.events.count label
  | .dropped => m.dropped
  | .panics => m.panics

namespace System

section

variable (shares : Shares κ) (r : StreamRef) (id : StreamId)

/-- While the worker is busy with the stream, the stream and whoever acts for it see the same. -/
structure Twin (w v : System κ) : Prop where
  stream : v.stream r = w.stream r
  share : shares.get v.client r = shares.get w.client r
  sinks : v.sinks = w.sinks
  registered : v.dispatcher.registered? id = w.dispatcher.registered? id
  sole : ∀ q, w.dispatcher.registered? id = some q → q = r
  named : (w.stream r).id = id
  worker : (w.stream r).binding = .worker
  inContext : w.dispatcher.inContext = true ∧ v.dispatcher.inContext = true
  sorted : w.dispatcher.metrics.events.Sorted ∧ v.dispatcher.metrics.events.Sorted

/-- From one system to the other, nothing is changed that belongs to other streams. -/
structure Confined (w v : System κ) : Prop where
  stream : ∀ q, q ≠ r → v.stream q = w.stream q
  share : ∀ q, q ≠ r → shares.get v.client q = shares.get w.client q
  sinks : v.sinks = w.sinks
  registry : v.dispatcher.registry = w.dispatcher.registry ∨
    v.dispatcher.registry = w.dispatcher.registry.filter (·.1 != id)
  phase : v.dispatcher.phase = w.dispatcher.phase
  teardowns : v.dispatcher.teardowns = w.dispatcher.teardowns
  mailbox : v.dispatcher.mailbox = w.dispatcher.mailbox

/-- What goes on from the first two systems to the last two is the same in both cases, and is
confined to the stream. -/
structure Mirrors (w v w' v' : System κ) : Prop where
  twin : Twin shares r id w' v'
  left : Confined shares r id w w'
  right : Confined shares r id v v'
  news : ∃ news, w'.past = news ++ w.past ∧ v'.past = news ++ v.past ∧
    ∀ e ∈ news, ∀ q, q ≠ r → e.about q = false
  gain : ∀ counter, ∃ n,
    w'.dispatcher.metrics.read counter = w.dispatcher.metrics.read counter + n ∧
    v'.dispatcher.metrics.read counter = v.dispatcher.metrics.read counter + n

end

variable {shares : Shares κ} {r : StreamRef} {id : StreamId} {u v w w' v' w'' v'' : System κ}

namespace Confined

theorem refl (w : System κ) : Confined shares r id w w :=
  ⟨fun _ _ => rfl, fun _ _ => rfl, rfl, .inl rfl, rfl, rfl, rfl⟩

theorem trans (first : Confined shares r id u v) (second : Confined shares r id v w) :
    Confined shares r id u w where
  stream q other := (second.stream q other).trans (first.stream q other)
  share q other := (second.share q other).trans (first.share q other)
  sinks := second.sinks.trans first.sinks
  registry := by
    rcases second.registry with hSecond | hSecond <;> rcases first.registry with hFirst | hFirst <;>
      rw [hSecond, hFirst]
    · exact .inl rfl
    · exact .inr rfl
    · exact .inr rfl
    · exact .inr (by simp)
  phase := second.phase.trans first.phase
  teardowns := second.teardowns.trans first.teardowns
  mailbox := second.mailbox.trans first.mailbox

end Confined

namespace Twin

theorem status (h : Twin shares r id w v) : v.status r = w.status r :=
  congrArg Stream.status h.stream

theorem source (h : Twin shares r id w v) : v.source (.stream r) = w.source (.stream r) :=
  congrArg Stream.source h.stream

theorem standing (h : Twin shares r id w v) : v.standing (.stream r) = w.standing (.stream r) := by
  rw [System.standing, h.status, System.standing]

/-- Both systems know the same sinks to be alive. -/
theorem alive (h : Twin shares r id w v) : v.alive = w.alive := by
  funext sink
  rw [System.alive, h.sinks, System.alive]

/-- The worker only serves streams that were made. -/
theorem has (h : Twin shares r id w v) : w.Has r := by
  refine Decidable.byContradiction fun hNot => ?_
  have hWorker := h.worker
  rw [stream_of_not_has hNot] at hWorker
  cases hWorker

/-- The stream is there in both systems. -/
theorem has_right (h : Twin shares r id w v) : v.Has r := by
  refine Decidable.byContradiction fun hNot => ?_
  have hWorker := h.worker
  rw [← h.stream, stream_of_not_has hNot] at hWorker
  cases hWorker

end Twin

namespace Mirrors

theorem refl (h : Twin shares r id w v) : Mirrors shares r id w v w v where
  twin := h
  left := .refl w
  right := .refl v
  news := ⟨[], rfl, rfl, by simp⟩
  gain _ := ⟨0, rfl, rfl⟩

theorem trans (first : Mirrors shares r id w v w' v') (second : Mirrors shares r id w' v' w'' v'') :
    Mirrors shares r id w v w'' v'' where
  twin := second.twin
  left := first.left.trans second.left
  right := first.right.trans second.right
  news := by
    obtain ⟨early, hw, hv, hEarly⟩ := first.news
    obtain ⟨late, hw', hv', hLate⟩ := second.news
    refine ⟨late ++ early, by rw [hw', hw, List.append_assoc], by rw [hv', hv, List.append_assoc],
      fun e he => ?_⟩
    exact (List.mem_append.1 he).elim (hLate e) (hEarly e)
  gain counter := by
    obtain ⟨n, hw, hv⟩ := first.gain counter
    obtain ⟨m, hw', hv'⟩ := second.gain counter
    exact ⟨n + m, by rw [hw', hw, Nat.add_assoc], by rw [hv', hv, Nat.add_assoc]⟩

/-- The same becomes of the stream. -/
theorem updateStream (h : Twin shares r id w v) {f g : Stream → Stream}
    (same : g (w.stream r) = f (w.stream r)) (hId : ∀ s, (f s).id = s.id)
    (hBinding : ∀ s, (f s).binding = s.binding) :
    Mirrors shares r id w v (w.updateStream r f) (v.updateStream r g) := by
  have hUpdated (u : System κ) (f : Stream → Stream) (made : u.Has r) :
      (u.updateStream r f).stream r = f (u.stream r) := by
    rw [stream_updateStream, if_pos ⟨rfl, made⟩]
  have hConfined (u : System κ) (f : Stream → Stream) :
      Confined shares r id u (u.updateStream r f) :=
    { Confined.refl u with
      stream := fun q other => by rw [stream_updateStream, if_neg fun hq => other hq.1] }
  have hw := hUpdated w f h.has
  refine ⟨{ h with stream := ?_, named := ?_, worker := ?_ }, hConfined w f, hConfined v g,
    ⟨[], rfl, rfl, by simp⟩, fun _ => ⟨0, rfl, rfl⟩⟩
  · rw [hUpdated v g h.has_right, hw, h.stream, same]
  · rw [hw, hId]
    exact h.named
  · rw [hw, hBinding]
    exact h.worker

/-- An update of the stream's status is the same in both if it comes to the same. -/
theorem updateStatus (h : Twin shares r id w v) {f g : Status → Status}
    (same : g (w.status r) = f (w.status r)) :
    Mirrors shares r id w v (w.updateStatus r f) (v.updateStatus r g) :=
  updateStream h (congrArg (fun status => { w.stream r with status }) same) (fun _ => rfl)
    fun _ => rfl

theorem updateHandles (h : Twin shares r id w v) (f : Nat → Nat) :
    Mirrors shares r id w v (w.updateStream r fun s => { s with handles := f s.handles })
      (v.updateStream r fun s => { s with handles := f s.handles }) :=
  updateStream h rfl (fun _ => rfl) fun _ => rfl

theorem updateSource (h : Twin shares r id w v) {f g : Source → Source}
    (same : g (w.source (.stream r)) = f (w.source (.stream r))) :
    Mirrors shares r id w v (w.updateSource (.stream r) f) (v.updateSource (.stream r) g) :=
  updateStream h (congrArg (fun source => { w.stream r with source }) same) (fun _ => rfl)
    fun _ => rfl

/-- What is remembered for the stream is remembered in its own share. -/
theorem updateShare (h : Twin shares r id w v) (separate : shares.Separate)
    (f : shares.Share → shares.Share) :
    Mirrors shares r id w v (w.updateClient (shares.update r f))
      (v.updateClient (shares.update r f)) := by
  have hConfined (u : System κ) : Confined shares r id u (u.updateClient (shares.update r f)) :=
    { (.refl u : Confined shares r id u u) with
      share := fun q other => separate.get_put_of_ne other _ _ }
  refine ⟨{ h with share := ?_ }, hConfined w, hConfined v, ⟨[], rfl, rfl, by simp⟩,
    fun _ => ⟨0, rfl, rfl⟩⟩
  exact (separate.get_put ..).trans ((congrArg f h.share).trans (separate.get_put ..).symm)

theorem record (h : Twin shares r id w v) {e : Entry κ.Note}
    (own : ∀ q, q ≠ r → e.about q = false) :
    Mirrors shares r id w v (w.record e) (v.record e) where
  twin := { h with }
  left := { Confined.refl w with }
  right := { Confined.refl v with }
  news := ⟨[e], rfl, rfl, by simpa using own⟩
  gain _ := ⟨0, rfl, rfl⟩

/-- The same is counted. -/
theorem updateMetrics (h : Twin shares r id w v) {f : Metrics → Metrics}
    (sorted : ∀ {m : Metrics}, m.events.Sorted → (f m).events.Sorted)
    (gain : ∀ counter, ∃ n, ∀ m : Metrics, m.events.Sorted →
      (f m).read counter = m.read counter + n) :
    Mirrors shares r id w v (w.updateMetrics f) (v.updateMetrics f) where
  twin := { h with sorted := ⟨sorted h.sorted.1, sorted h.sorted.2⟩ }
  left := { Confined.refl w with }
  right := { Confined.refl v with }
  news := ⟨[], rfl, rfl, by simp⟩
  gain counter := by
    obtain ⟨n, hGain⟩ := gain counter
    exact ⟨n, hGain _ h.sorted.1, hGain _ h.sorted.2⟩

/-- The stream is struck off the registry. -/
theorem struck (h : Twin shares r id w v) :
    Mirrors shares r id w v (w.struck id) (v.struck id) := by
  have hGone (u : System κ) : (u.struck id).dispatcher.registered? id = none := by
    change Option.map _ (List.find? _ (List.filter _ _)) = none
    simp [List.find?_filter]
  exact {
    twin := { h with
      registered := (hGone v).trans (hGone w).symm
      sole := fun q hq => by rw [hGone] at hq; cases hq }
    left := { (.refl w : Confined shares r id w w) with registry := .inr rfl }
    right := { (.refl v : Confined shares r id v v) with registry := .inr rfl }
    news := ⟨[], rfl, rfl, by simp⟩
    gain := fun counter => ⟨0, by cases counter <;> rfl, by cases counter <;> rfl⟩ }

/-- What is done while a sink is kept busy leaves it as free as it was. -/
theorem busy {sink : SinkRef}
    (h : Mirrors shares r id (w.updateSink sink fun life => { life with busy := life.busy + 1 })
      (v.updateSink sink fun life => { life with busy := life.busy + 1 }) w' v') :
    Mirrors shares r id w v (w'.updateSink sink fun life => { life with busy := life.busy - 1 })
      (v'.updateSink sink fun life => { life with busy := life.busy - 1 }) := by
  have hFree {u x : System κ} (hSinks : x.sinks =
      u.sinks.modify sink.number fun life => { life with busy := life.busy + 1 }) :
      (x.updateSink sink fun life => { life with busy := life.busy - 1 }).sinks = u.sinks := by
    rw [updateSink, hSinks, List.modify_modify_eq]
    exact List.modify_id ..
  have hSinks := congrArg (List.modify · sink.number fun life : SinkLife =>
    { life with busy := life.busy - 1 }) h.twin.sinks
  exact {
    twin := { h.twin with sinks := hSinks }
    left := { h.left with sinks := hFree h.left.sinks }
    right := { h.right with sinks := hFree h.right.sinks }
    news := h.news
    gain := h.gain }

end Mirrors
end System

namespace Act

section

variable (shares : Shares κ) (r : StreamRef) (id : StreamId)

/-- Both actions end the same way, and do the same for the stream and nothing for others. -/
def Mirrored (a b : Act κ α) (w v : System κ) : Prop :=
  (a.on w).1 = (b.on v).1 ∧ System.Mirrors shares r id w v (a.left w) (b.left v)

/-- The action is the stream's own affair: it goes by the stream and its share alone, and changes
nothing else. -/
def Private (a : Act κ α) : Prop :=
  ∀ w v : System κ, System.Twin shares r id w v → Mirrored shares r id a a w v

end

variable {shares : Shares κ} {r : StreamRef} {id : StreamId} {w v : System κ}

theorem mirrored_get_bind {f g : System κ → Act κ α} :
    Mirrored shares r id (get >>= f) (get >>= g) w v ↔ Mirrored shares r id (f w) (g v) w v :=
  Iff.rfl

/-- What follows both actions may go by the answer that both give. -/
theorem Mirrored.bind {a b : Act κ α} {f g : α → Act κ β} (h : Mirrored shares r id a b w v)
    (hf : ∀ x, (a.on w).1 = .ok x → Mirrored shares r id (f x) (g x) (a.left w) (b.left v)) :
    Mirrored shares r id (a >>= f) (b >>= g) w v := by
  cases hEnd : (a.on w).1 with
  | ok x =>
    have hFirst : a.on w = (.ok x, a.left w) := on_of_end hEnd
    have hSecond : b.on v = (.ok x, b.left v) := on_of_end (h.1.symm.trans hEnd)
    obtain ⟨hSame, hMirrors⟩ := hf x hEnd
    rw [Mirrored, Act.left, Act.left, on_bind_ok hFirst, on_bind_ok hSecond]
    exact ⟨hSame, h.2.trans hMirrors⟩
  | error halt =>
    rw [Mirrored, Act.left, Act.left, on_bind, on_bind, hEnd, h.1.symm.trans hEnd]
    exact ⟨rfl, h.2⟩

/-- What is done after an action however that ends. -/
theorem Mirrored.after {a b : Act κ α} {last other : Act κ Unit} (h : Mirrored shares r id a b w v)
    (hLast : Mirrored shares r id last other (a.left w) (b.left v)) :
    Mirrored shares r id (a.after last) (b.after other) w v := by
  refine ⟨?_, by rw [left_after, left_after]; exact h.2.trans hLast.2⟩
  rw [on_after, on_after, h.1, hLast.1]

namespace Private

theorem pure (x : α) : Private shares r id (pure x : Act κ α) :=
  fun _ _ h => ⟨rfl, .refl h⟩

theorem panic (payload : Payload) : Private shares r id (throw (.panic payload) : Act κ α) :=
  fun _ _ h => ⟨rfl, .refl h⟩

/-- A change that mirrors in both systems is the stream's own affair. -/
theorem changing {f : System κ → System κ}
    (h : ∀ {w v}, System.Twin shares r id w v → System.Mirrors shares r id w v (f w) (f v)) :
    Private shares r id (modify f : Act κ PUnit) :=
  fun _ _ twin => ⟨rfl, h twin⟩

/-- What is done goes by what is seen, which is the same. -/
theorem seeing {f : System κ → Act κ α}
    (h : ∀ {w v}, System.Twin shares r id w v → Mirrored shares r id (f w) (f v) w v) :
    Private shares r id (get >>= f) :=
  fun _ _ twin => h twin

/-- Private actions in a row are private. -/
theorem bind {a : Act κ α} {f : α → Act κ β} (ha : Private shares r id a)
    (hf : ∀ x, Private shares r id (f x)) : Private shares r id (a >>= f) :=
  fun w v h => (ha w v h).bind fun x _ => hf x _ _ (ha w v h).2.twin

theorem after {a : Act κ α} {last : Act κ Unit} (ha : Private shares r id a)
    (hLast : Private shares r id last) : Private shares r id (a.after last) :=
  fun w v h => (ha w v h).after (hLast _ _ (ha w v h).2.twin)

theorem contain {a : Act κ α} (ha : Private shares r id a) : Private shares r id a.contain := by
  intro w v h
  obtain ⟨hSame, hMirrors⟩ := ha w v h
  refine ⟨?_, by rw [left_contain, left_contain]; exact hMirrors⟩
  rw [on_contain, on_contain, hSame]

end Private
end Act
end HostedStreams
