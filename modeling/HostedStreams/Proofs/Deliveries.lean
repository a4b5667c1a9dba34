import HostedStreams.Proofs.Lives

/-! What a stream hands to its sinks. Most steps have no part in it: they hand nothing of
the stream, leave its state alone, and do not attach anything once it is torn down. -/
namespace HostedStreams

variable {κ : Client}

/-- Whether a sink starts to take an event. -/
def Entry.isDelivery {Note : Type} : Entry Note → Bool
  | .delivery .. => true
  | _ => false

/-- The sink and the event, if the entry is that the sink starts to take it from the stream. -/
def Entry.handed? {Note : Type} (r : StreamRef) : Entry Note → Option (SinkRef × Event)
  | .delivery sink o event _ _ => if o = .stream r then some (sink, event) else none
  | _ => none

namespace System

/-- What the stream has handed to its sinks, in order. -/
def deliveries (w : System κ) (r : StreamRef) : List (SinkRef × Event) :=
  w.journal.filterMap (·.handed? r)

/-- What the stream has handed to its sinks, the latest first. -/
def handed (w : System κ) (r : StreamRef) : List (SinkRef × Event) :=
  w.past.filterMap (·.handed? r)

/-- The deliveries are what was handed over, the earliest first. -/
theorem deliveries_eq (w : System κ) (r : StreamRef) : w.deliveries r = (w.handed r).reverse := by
  rw [deliveries, journal, List.filterMap_reverse, handed]

/-- Only an entry of the stream's handing over adds to it. -/
theorem handed_record (w : System κ) (e : Entry κ.Note) (r : StreamRef) :
    (w.record e).handed r = (e.handed? r).toList ++ w.handed r := by
  simp only [handed, record, List.filterMap_cons]
  cases e.handed? r <;> rfl

theorem handed_of_past {w v : System κ} (h : v.past = w.past) (r : StreamRef) :
    v.handed r = w.handed r := by
  rw [handed, h, handed]

/-- What the stream is attached to, in order. -/
abbrev attachments (w : System κ) (r : StreamRef) : List Attachment :=
  (w.source (.stream r)).attachments

/-- What happened has no part in what the stream hands to its sinks. -/
structure Spares (r : StreamRef) (w v : System κ) : Prop where
  has : v.Has r ↔ w.Has r
  state : (v.status r).state = (w.status r).state
  handed : v.handed r = w.handed r
  /-- Nothing is attached any more to a stream that is torn down. -/
  attached : (w.status r).state = .destroyed →
    (v.attachments r).Sublist (w.attachments r)

namespace Spares

variable {r : StreamRef} {w : System κ}

/-- Streams are not concerned at all. -/
theorem of_streams {v : System κ} (hStreams : v.streams = w.streams)
    (hHanded : v.handed r = w.handed r) : w.Spares r v where
  has := by rw [Has, hStreams, Has]
  state := by rw [status, stream, hStreams, status, stream]
  handed := hHanded
  attached _ := by
    rw [attachments, source, stream, hStreams]
    exact List.Sublist.refl _

theorem record {e : Entry κ.Note} (h : e.handed? r = none) : w.Spares r (w.record e) :=
  of_streams rfl (by rw [handed_record, h]; rfl)

/-- A change of a stream that keeps its state and attaches nothing. -/
theorem updateStream (q : StreamRef) {f : Stream → Stream}
    (hState : (f (w.stream q)).status.state = (w.stream q).status.state)
    (hSource : (w.status q).state = .destroyed →
      (f (w.stream q)).source.attachments.Sublist (w.attachments q)) :
    w.Spares r (w.updateStream q f) := by
  constructor
  · exact w.has_updateStream q r f
  · rw [status_updateStream]
    split
    · rename_i h
      obtain ⟨rfl, -⟩ := h
      exact hState
    · rfl
  · exact handed_of_past rfl r
  · intro hTorn
    rw [attachments, source_updateStream]
    split
    · rename_i h
      obtain ⟨rfl, -⟩ := h
      exact hSource hTorn
    · exact List.Sublist.refl _

/-- A change of a status that keeps the state. -/
theorem updateStatus (q : StreamRef) {f : Status → Status}
    (hState : (f (w.status q)).state = (w.status q).state) : w.Spares r (w.updateStatus q f) :=
  updateStream q hState fun _ => List.Sublist.refl _

/-- A change of another stream's status. -/
theorem updateStatus_of_ne {q : StreamRef} (hq : r ≠ q) (f : Status → Status) :
    w.Spares r (w.updateStatus q f) where
  has := w.has_updateStatus q r f
  state := by rw [status_updateStatus, if_neg (fun h => hq h.1)]
  handed := handed_of_past rfl r
  attached _ := by
    have hSame : (w.updateStatus q f).attachments r = w.attachments r := by
      rw [attachments, source_updateStatus, attachments]
    exact hSame ▸ List.Sublist.refl _

/-- A change of a source that attaches nothing to a stream that is torn down. -/
theorem updateSource (o : Origin) {f : Source → Source}
    (h : ∀ q, o = .stream q → (w.status q).state = .destroyed →
      (f (w.source o)).attachments.Sublist (w.source o).attachments) :
    w.Spares r (w.updateSource o f) := by
  cases o with
  | hub hub => exact of_streams rfl rfl
  | stream q => exact updateStream q rfl fun hTorn => h q rfl hTorn

theorem trans {u v : System κ} (first : u.Spares r w) (second : w.Spares r v) : u.Spares r v where
  has := second.has.trans first.has
  state := second.state.trans first.state
  handed := second.handed.trans first.handed
  attached hTorn := (second.attached (first.state.trans hTorn)).trans (first.attached hTorn)

end Spares

theorem Bears.grows {w v : System κ} (h : w.Bears v) : w.streams.length ≤ v.streams.length := by
  obtain ⟨made, -, rfl⟩ := h
  simp

/-- Another stream is made. -/
theorem Bears.spares {r : StreamRef} {w v : System κ} (h : w.Bears v)
    (other : r.number ≠ w.streams.length) : w.Spares r v := by
  obtain ⟨made, -, rfl⟩ := h
  have hStream : ({ w with streams := w.streams ++ [made] } : System κ).stream r = w.stream r := by
    rw [stream_append, if_neg other]
  refine ⟨?_, ?_, rfl, fun _ => ?_⟩
  · rw [has_append]
    simp [other]
  · rw [status, hStream, status]
  · rw [attachments, source, hStream]
    exact .refl _

end System

/-- What the dispatcher does itself hands nothing over. -/
theorem Entry.handed?_of_dispatching {Note : Type} {e : Entry Note} (h : e.dispatching = true)
    (r : StreamRef) : e.handed? r = none := by
  cases e <;> first | rfl | cases h

/-- To restrict a list leaves the rest in order. -/
theorem Source.sublist_restrict (keep : Attachment → Bool) (s : Source) :
    (s.restrict keep).attachments.Sublist s.attachments :=
  List.filter_sublist

/-- Outside passes nothing is handed over, but streams are born. -/
theorem Quiet.spares {look : System κ → κ.Note} {w v : System κ} (h : Quiet look w v)
    (r : StreamRef) : w.Spares r v ∨ w.Bears v := by
  cases h with
  | makeStream id config binding own => exact .inr ⟨_, rfl, rfl⟩
  | handles q f => exact .inl (.updateStream q rfl fun _ => List.Sublist.refl _)
  | attach q sink live =>
    refine .inl (.updateSource _ fun p hp hTorn => ?_)
    cases hp
    exact absurd hTorn live
  | detach q sink => exact .inl (.updateSource _ fun _ _ _ => Source.sublist_restrict _ _)
  | hub hub f => exact .inl (.updateSource _ fun q hq => by cases hq)
  | closing q live settled => exact .inl (.updateStatus q rfl)
  | start q => exact .inl ((System.Spares.updateStatus q rfl).trans (.record rfl))
  | cancel q => exact .inl ((System.Spares.updateStatus q rfl).trans (.record rfl))
  | uncancelled q => exact .inl ((System.Spares.updateStatus q rfl).trans (.record rfl))
  | read q => exact .inl ((System.Spares.updateStatus q rfl).trans (.record rfl))
  | unread q => exact .inl ((System.Spares.updateStatus q rfl).trans (.record rfl))
  | note | write | abort | answer => exact .inl (.record rfl)
  | _ => exact .inl (.of_streams rfl rfl)

/-- A pass of another origin. -/
theorem Firing.spares {o : Origin} {w v : System κ} (h : Firing o w v) {r : StreamRef}
    (ho : o ≠ .stream r) : w.Spares r v := by
  cases h with
  | take q | tearDown q =>
    have hq : r ≠ q := fun he => ho (by rw [he])
    exact (System.Spares.updateStatus_of_ne hq _).trans (.record rfl)
  | start hub event => exact .record rfl
  | @hand _ u o event a alive attached kept =>
    have hKept : w.Spares r u := by
      subst kept
      exact .of_streams rfl rfl
    exact hKept.trans (.record (if_neg ho))
  | prune o => exact .updateSource o fun _ _ _ => Source.sublist_restrict _ _
  | clear q => exact .updateSource _ fun _ _ _ => Source.sublist_restrict _ _

end HostedStreams
