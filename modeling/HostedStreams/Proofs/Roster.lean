import HostedStreams.Proofs.Ledger
import HostedStreams.Proofs.Steady

/-! The registry and the streams. The worker serves the streams that the dispatcher makes,
under identifiers that are drawn for them, and each of them is registered for as long as it
is not torn down. -/
namespace HostedStreams

variable {κ : Client}

namespace System

/-- The worker serves the stream. -/
def Served (w : System κ) (r : StreamRef) : Prop :=
  w.Has r ∧ (w.stream r).binding = .worker

/-- What the registry lists, against the streams that there are. -/
structure Roster (w : System κ) : Prop where
  listed : ∀ {id r}, (id, r) ∈ w.dispatcher.registry → w.Served r ∧ (w.stream r).id = id
  enrolled : ∀ {r}, w.Served r → (w.status r).state ≠ .destroyed →
    ((w.stream r).id, r) ∈ w.dispatcher.registry
  drawn : ∀ {r}, w.Served r → ∃ n < w.drawn, (w.stream r).id = .drawn n
  distinct : ∀ {r q}, w.Served r → w.Served q → (w.stream r).id = (w.stream q).id → r = q

/-- No stream is made, none changes what it is known by or was made for, and none comes back
that was torn down. -/
structure Persists (w v : System κ) : Prop where
  has : ∀ r, v.Has r ↔ w.Has r
  id : ∀ r, (v.stream r).id = (w.stream r).id
  binding : ∀ r, (v.stream r).binding = (w.stream r).binding
  config : ∀ r, (v.stream r).config = (w.stream r).config
  torn : ∀ r, (w.status r).state = .destroyed → (v.status r).state = .destroyed
  drawn : w.drawn ≤ v.drawn

namespace Persists

variable {w v : System κ}

/-- Nothing is lost as long as the streams are the same. -/
theorem of_streams (hStreams : v.streams = w.streams) (hDrawn : w.drawn ≤ v.drawn) :
    w.Persists v := by
  have hStream (r : StreamRef) : v.stream r = w.stream r := by rw [stream, hStreams, stream]
  constructor
  · intro r
    rw [Has, hStreams, Has]
  · intro r
    rw [hStream]
  · intro r
    rw [hStream]
  · intro r
    rw [hStream]
  · intro r h
    rw [status, hStream]
    exact h
  · exact hDrawn

/-- A change to one stream loses nothing if it leaves alone what the stream is known by, and does
not bring the stream back. -/
theorem updateStream (q : StreamRef) {f : Stream → Stream} (hId : ∀ s, (f s).id = s.id)
    (hBinding : ∀ s, (f s).binding = s.binding) (hConfig : ∀ s, (f s).config = s.config)
    (hTorn : (w.status q).state = .destroyed → (f (w.stream q)).status.state = .destroyed) :
    w.Persists (w.updateStream q f) := by
  constructor
  · exact fun r => w.has_updateStream q r f
  · intro r
    rw [stream_updateStream]
    split
    · exact hId _
    · rfl
  · intro r
    rw [stream_updateStream]
    split
    · exact hBinding _
    · rfl
  · intro r
    rw [stream_updateStream]
    split
    · exact hConfig _
    · rfl
  · intro r h
    rw [status_updateStream]
    split
    · rename_i hq
      obtain ⟨rfl, -⟩ := hq
      exact hTorn h
    · exact h
  · exact Nat.le_refl _

/-- A change to a status loses nothing if it does not bring the stream back. -/
theorem updateStatus (q : StreamRef) {f : Status → Status}
    (hTorn : (w.status q).state = .destroyed → (f (w.status q)).state = .destroyed) :
    w.Persists (w.updateStatus q f) :=
  updateStream q (fun _ => rfl) (fun _ => rfl) (fun _ => rfl) hTorn

theorem updateSource (o : Origin) (f : Source → Source) : w.Persists (w.updateSource o f) := by
  cases o with
  | hub hub => exact of_streams rfl (Nat.le_refl _)
  | stream q => exact updateStream q (fun _ => rfl) (fun _ => rfl) (fun _ => rfl) fun h => h

theorem record {w v : System κ} (h : w.Persists v) (e : Entry κ.Note) :
    w.Persists (v.record e) :=
  ⟨h.has, h.id, h.binding, h.config, h.torn, h.drawn⟩

/-- No stream passes over to the worker, or from it. -/
theorem served (h : w.Persists v) {r : StreamRef} : v.Served r ↔ w.Served r := by
  rw [Served, Served, h.has, h.binding]

end Persists

theorem Persists.refl (w : System κ) : w.Persists w :=
  .of_streams rfl (Nat.le_refl _)

/-- The registry stays right as long as it lists the same streams and nothing is lost. -/
theorem Roster.persists {w v : System κ} (h : w.Roster) (p : w.Persists v)
    (hRegistry : v.dispatcher.registry = w.dispatcher.registry) : v.Roster where
  listed hMem := by
    rw [hRegistry] at hMem
    rw [p.served, p.id]
    exact h.listed hMem
  enrolled hServed live := by
    rw [hRegistry, p.id]
    exact h.enrolled (p.served.1 hServed) fun hTorn => live (p.torn _ hTorn)
  drawn hServed := by
    obtain ⟨n, hn, hId⟩ := h.drawn (p.served.1 hServed)
    exact ⟨n, Nat.lt_of_lt_of_le hn p.drawn, (p.id _).trans hId⟩
  distinct hr hq hSame := by
    rw [p.id, p.id] at hSame
    exact h.distinct (p.served.1 hr) (p.served.1 hq) hSame

/-- There is one stream more, and the others are as they were. -/
structure Grown (w v : System κ) (made : Stream) : Prop where
  has : ∀ r, v.Has r ↔ w.Has r ∨ r.number = w.streams.length
  old : ∀ {r}, w.Has r → v.stream r = w.stream r
  new : ∀ {r : StreamRef}, r.number = w.streams.length → v.stream r = made

namespace Grown

variable {w v : System κ} {made : Stream}

/-- A stream that is made comes last. -/
theorem append (w : System κ) (made : Stream) :
    w.Grown { w with streams := w.streams ++ [made] } made where
  has r := w.has_append made r
  old hHas := by
    rw [stream_append, if_neg (Nat.ne_of_lt hHas)]
  new hr := by
    rw [stream_append, if_pos hr]

/-- A stream that is made is served if it is made for the worker. -/
theorem served (h : w.Grown v made) {r : StreamRef} :
    v.Served r ↔ w.Served r ∨ r.number = w.streams.length ∧ made.binding = .worker := by
  rw [Served, Served, h.has]
  constructor
  · rintro ⟨hOld | hNew, hBinding⟩
    · exact .inl ⟨hOld, h.old hOld ▸ hBinding⟩
    · exact .inr ⟨hNew, h.new hNew ▸ hBinding⟩
  · rintro (⟨hOld, hBinding⟩ | ⟨hNew, hBinding⟩)
    · exact ⟨.inl hOld, by rwa [h.old hOld]⟩
    · exact ⟨.inr hNew, by rwa [h.new hNew]⟩

end Grown

/-- A client makes a stream of its own. -/
def BearsOwn (w v : System κ) : Prop :=
  ∃ made : Stream, made.binding ≠ .worker ∧ v = { w with streams := w.streams ++ [made] }

/-- Streams that clients make of their own are none that the registry lists. -/
theorem Roster.bearsOwn {w v : System κ} (h : w.Roster) (hBears : w.BearsOwn v) : v.Roster := by
  obtain ⟨made, own, rfl⟩ := hBears
  have hGrown := Grown.append w made
  have hServed {r : StreamRef} :
      ({ w with streams := w.streams ++ [made] } : System κ).Served r ↔ w.Served r := by
    rw [hGrown.served]
    simp [own]
  constructor
  · intro id r hMem
    obtain ⟨hr, hId⟩ := h.listed hMem
    rw [hGrown.old hr.1]
    exact ⟨hServed.2 hr, hId⟩
  · intro r hr live
    rw [hServed] at hr
    rw [status, hGrown.old hr.1] at live
    rw [hGrown.old hr.1]
    exact h.enrolled hr live
  · intro r hr
    rw [hServed] at hr
    rw [hGrown.old hr.1]
    exact h.drawn hr
  · intro r q hr hq hSame
    rw [hServed] at hr hq
    rw [hGrown.old hr.1, hGrown.old hq.1] at hSame
    exact h.distinct hr hq hSame

/-- The next identifier is nobody's yet. -/
theorem Roster.fresh {w : System κ} (h : w.Roster) {id : StreamId} {r : StreamRef}
    (hMem : (id, r) ∈ w.dispatcher.registry) : id ≠ .drawn w.drawn := by
  obtain ⟨hr, rfl⟩ := h.listed hMem
  obtain ⟨n, hn, hId⟩ := h.drawn hr
  rw [hId]
  exact fun he => Nat.ne_of_lt hn (StreamId.drawn.inj he)

/-- The dispatcher makes a stream, under the next identifier, and registers it. -/
theorem Roster.enlist {w v : System κ} (h : w.Roster) {made : Stream} (hGrown : w.Grown v made)
    (hId : made.id = .drawn w.drawn) (hWorker : made.binding = .worker)
    (hRegistry : v.dispatcher.registry =
      w.dispatcher.registry ++ [(.drawn w.drawn, ⟨w.streams.length⟩)])
    (hDrawn : v.drawn = w.drawn + 1) : v.Roster := by
  have hOther {r q : StreamRef} (hr : w.Served r) (hq : q.number = w.streams.length) :
      (v.stream r).id ≠ (v.stream q).id := by
    obtain ⟨n, hn, hOld⟩ := h.drawn hr
    rw [hGrown.old hr.1, hGrown.new hq, hOld, hId]
    exact fun he => Nat.ne_of_lt hn (StreamId.drawn.inj he)
  constructor
  · intro id r hMem
    rw [hRegistry] at hMem
    rcases List.mem_append.1 hMem with hOld | hNew
    · obtain ⟨hr, hSame⟩ := h.listed hOld
      rw [hGrown.old hr.1]
      exact ⟨hGrown.served.2 (.inl hr), hSame⟩
    · obtain ⟨rfl, rfl⟩ := Prod.mk.inj (List.mem_singleton.1 hNew)
      rw [hGrown.new rfl]
      exact ⟨hGrown.served.2 (.inr ⟨rfl, hWorker⟩), hId⟩
  · intro r hr live
    rw [hRegistry, List.mem_append]
    rcases hGrown.served.1 hr with hOld | ⟨hNew, -⟩
    · rw [status, hGrown.old hOld.1] at live
      rw [hGrown.old hOld.1]
      exact .inl (h.enrolled hOld live)
    · rw [hGrown.new hNew, hId]
      cases r
      exact .inr (by simp_all)
  · intro r hr
    rw [hDrawn]
    rcases hGrown.served.1 hr with hOld | ⟨hNew, -⟩
    · obtain ⟨n, hn, hSame⟩ := h.drawn hOld
      exact ⟨n, Nat.lt_succ_of_lt hn, by rw [hGrown.old hOld.1, hSame]⟩
    · exact ⟨w.drawn, Nat.lt_succ_self _, by rw [hGrown.new hNew, hId]⟩
  · intro r q hr hq hSame
    rcases hGrown.served.1 hr with hr | ⟨hr, -⟩ <;> rcases hGrown.served.1 hq with hq | ⟨hq, -⟩
    · rw [hGrown.old hr.1, hGrown.old hq.1] at hSame
      exact h.distinct hr hq hSame
    · exact absurd hSame (hOther hr hq)
    · exact absurd hSame.symm (hOther hq hr)
    · cases r
      cases q
      simp_all

/-- Streams that are torn down are struck off. -/
theorem Roster.strike {w v : System κ} (h : w.Roster) (hStreams : v.streams = w.streams)
    (hDrawn : v.drawn = w.drawn) {keep : StreamId × StreamRef → Bool}
    (hRegistry : v.dispatcher.registry = w.dispatcher.registry.filter keep)
    (hTorn : ∀ entry ∈ w.dispatcher.registry, keep entry = false →
      (w.status entry.2).state = .destroyed) : v.Roster := by
  have hStream (r : StreamRef) : v.stream r = w.stream r := by rw [stream, hStreams, stream]
  have hServed {r : StreamRef} : v.Served r ↔ w.Served r := by
    rw [Served, Served, Has, hStreams, hStream, Has]
  constructor
  · intro id r hMem
    rw [hRegistry] at hMem
    rw [hServed, hStream]
    exact h.listed (List.mem_filter.1 hMem).1
  · intro r hr live
    rw [hServed] at hr
    rw [status, hStream] at live
    rw [hRegistry, hStream, List.mem_filter]
    refine ⟨h.enrolled hr live, ?_⟩
    cases hKeep : keep ((w.stream _).id, _) with
    | true => rfl
    | false => exact absurd (hTorn _ (h.enrolled hr live) hKeep) live
  · intro r hr
    rw [hServed] at hr
    rw [hStream, hDrawn]
    exact h.drawn hr
  · intro r q hr hq hSame
    rw [hServed] at hr hq
    rw [hStream, hStream] at hSame
    exact h.distinct hr hq hSame

end System

/-- What a pass does loses no streams. -/
theorem Firing.persists {o : Origin} {w v : System κ} (h : Firing o w v) : w.Persists v := by
  cases h with
  | take r takes =>
    exact (System.Persists.updateStatus r fun hTorn => absurd hTorn takes.state_ne).record _
  | tearDown r live => exact (System.Persists.updateStatus r fun _ => rfl).record _
  | start hub event => exact (System.Persists.refl w).record _
  | hand o event a alive attached kept =>
    subst kept
    exact .of_streams rfl (Nat.le_refl _)
  | prune o => exact .updateSource o _
  | clear r => exact .updateSource _ _

/-- What a pass does of itself does not concern the dispatcher. -/
theorem Firing.dispatcher {o : Origin} {w v : System κ} (h : Firing o w v) :
    v.dispatcher = w.dispatcher := by
  cases h with
  | hand o event a alive attached kept => subst kept; rfl
  | prune o => exact w.dispatcher_updateSource o _
  | _ => rfl

/-- Outside passes nothing is lost either, but clients may make streams. -/
theorem Quiet.persists {look : System κ → κ.Note} {w v : System κ} (h : Quiet look w v) :
    w.Persists v ∨ w.BearsOwn v := by
  cases h with
  | makeStream id config binding own => exact .inr ⟨_, own, rfl⟩
  | drawId => exact .inl (.of_streams rfl (Nat.le_succ _))
  | handles r f => exact .inl (.updateStream r (fun _ => rfl) (fun _ => rfl) (fun _ => rfl) id)
  | attach | detach => exact .inl (.updateSource _ _)
  | hub hub f => exact .inl (.updateSource _ _)
  | closing r => exact .inl (.updateStatus r id)
  | start r | cancel r | uncancelled r | read r | unread r =>
    exact .inl ((System.Persists.updateStatus r id).record _)
  | write | abort | answer | note => exact .inl ((System.Persists.refl w).record _)
  | _ => exact .inl (.of_streams rfl (Nat.le_refl _))

end HostedStreams
