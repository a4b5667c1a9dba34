import HostedStreams.Proofs.Histories

/-! The life of one stream: its status, and what it did so far. Whatever goes on around a
stream, its life goes on by few moves, and what holds of every life that such moves make
holds of every stream at every moment. -/
namespace HostedStreams

variable {κ : Client}

/-- What a stream does: it starts a pass, it asks the host, and the host answers it. -/
inductive Deed where
  | pass (event : Event) (standing : Standing)
  | asked (call : HostCall)
  | answered (call : HostCall) (served : Bool)
  deriving DecidableEq

/-- What the entry tells of the stream. -/
def Entry.deed? {Note : Type} (r : StreamRef) : Entry Note → Option Deed
  | .pass o event standing => if o = .stream r then some (.pass event standing) else none
  | @Entry.hostCall _ _ call q => if q = r then some (.asked call) else none
  | @Entry.hostAnswer _ _ call served q => if q = r then some (.answered call served) else none
  | _ => none

namespace Entry

variable {Note : Type} {e : Entry Note} {r : StreamRef}

/-- The start of a pass tells of the stream that fires. -/
theorem deed?_eq_pass {event : Event} {standing : Standing} :
    e.deed? r = some (.pass event standing) ↔ e = .pass (.stream r) event standing := by
  cases e <;> simp only [deed?, reduceCtorEq, Entry.pass.injEq]
  all_goals split <;> simp_all

/-- A request tells of the stream that it is made for. -/
theorem deed?_eq_asked {call : HostCall} :
    e.deed? r = some (.asked call) ↔ ∃ id, e = @Entry.hostCall _ id call r := by
  cases e <;> simp only [deed?, reduceCtorEq, exists_false, Entry.hostCall.injEq]
  all_goals split <;> simp_all

/-- An answer tells of the stream that it is given to. -/
theorem deed?_eq_answered {call : HostCall} {served : Bool} :
    e.deed? r = some (.answered call served) ↔
      ∃ id, e = @Entry.hostAnswer _ id call served r := by
  cases e <;> simp only [deed?, reduceCtorEq, exists_false, Entry.hostAnswer.injEq]
  all_goals split <;> simp_all

end Entry

/-- A stream's status and its deeds, the latest deed first. -/
structure Life where
  status : Status
  deeds : List Deed

def System.life (w : System κ) (r : StreamRef) : Life where
  status := w.status r
  deeds := w.past.filterMap (·.deed? r)

/-- How a life goes on. -/
inductive Life.Move (l : Life) : Life → Prop
  | take {event : Event} {t : Status} (takes : l.status.Takes event t)
      (free : l.status.closing = false) :
      Move l ⟨t, .pass event (.state t.state) :: l.deeds⟩
  | tearDown (live : l.status.state ≠ .destroyed) :
      Move l ⟨l.status.tornDown, .pass .destroyed (.state .destroyed) :: l.deeds⟩
  | start (config : StreamConfig) (first : l.status.requested = false)
      (state : l.status.state = .created) :
      Move l ⟨{ l.status with requested := true }, .asked (.start config) :: l.deeds⟩
  | closing (live : l.status.state ≠ .destroyed) (settled : l.status.cancellable = false) :
      Move l ⟨{ l.status with closing := true }, l.deeds⟩
  | cancel (active : l.status.cancellable = true) :
      Move l ⟨{ l.status with closing := true }, .asked .cancel :: l.deeds⟩
  | uncancelled : Move l ⟨{ l.status with closing := false }, .answered .cancel false :: l.deeds⟩
  | read (ranges : List Range) (usable : l.status.usable = true)
      (seekable : l.status.seekable = true) (some_ : ranges ≠ [])
      (valid : ∀ range ∈ ranges, range.valid = true) :
      Move l ⟨l.status.register ranges,
        .asked (.requestRanges l.status.nextRequest ranges) :: l.deeds⟩
  | unread (request : RequestId) (ranges : List Range) :
      Move l ⟨l.status.withdraw request,
        .answered (.requestRanges request ranges) false :: l.deeds⟩
  | write (data : List UInt8) (usable : l.status.usable = true) :
      Move l ⟨l.status, .asked (.write data) :: l.deeds⟩
  | abort (active : l.status.cancellable = true) :
      Move l ⟨l.status, .asked .cancel :: l.deeds⟩
  | answer (call : HostCall) (served : Bool)
      (kept : ∀ request ranges, call = .requestRanges request ranges → served = true) :
      Move l ⟨l.status, .answered call served :: l.deeds⟩

/-- A life that moves have made out of nothing. -/
inductive Life.Lived : Life → Prop
  | born (seekable : Bool) : Lived ⟨{ seekable }, []⟩
  | move {l m : Life} (before : Lived l) (move : l.Move m) : Lived m

namespace System

/-- Which sinks are attached does not show in a life. -/
theorem life_updateSource (w : System κ) (o : Origin) (r : StreamRef) (f : Source → Source) :
    (w.updateSource o f).life r = w.life r := by
  simp [life]

/-- An entry that tells of the stream adds to its deeds. -/
theorem life_record (w : System κ) (e : Entry κ.Note) (r : StreamRef) :
    (w.record e).life r = ⟨w.status r, (e.deed? r).toList ++ (w.life r).deeds⟩ := by
  simp only [life, record, List.filterMap_cons]
  cases e.deed? r <;> rfl

theorem life_record_of_none {w : System κ} {e : Entry κ.Note} {r : StreamRef}
    (h : e.deed? r = none) : (w.record e).life r = w.life r := by
  rw [life_record, h]
  rfl

/-- What a stream did together with a change of its status. -/
theorem life_deed {w : System κ} {q : StreamRef} {e : Entry κ.Note} {deed : Deed}
    (made : w.Has q) (h : ∀ r, e.deed? r = if q = r then some deed else none)
    (f : Status → Status) (r : StreamRef) :
    ((w.updateStatus q f).record e).life r =
      if q = r then ⟨f (w.status r), deed :: (w.life r).deeds⟩ else w.life r := by
  rw [life_record, h]
  by_cases hr : q = r
  · subst hr
    simp [life, status_updateStatus, made]
  · simp [life, status_updateStatus, hr, Ne.symm hr]

end System

/-- Every stream's life stays as it is or moves, and no stream is made. -/
def System.Moves (w v : System κ) : Prop :=
  ∀ r, (v.Has r ↔ w.Has r) ∧
    (v.life r = w.life r ∨ w.Has r ∧ (w.life r).Move (v.life r))

namespace System.Moves

/-- Every life stays as it is where no stream and no deed is changed. -/
theorem of_same {w v : System κ} (hHas : ∀ r, v.Has r ↔ w.Has r)
    (hLife : ∀ r, v.life r = w.life r) : w.Moves v :=
  fun r => ⟨hHas r, .inl (hLife r)⟩

/-- One stream moves. -/
theorem of_deed {w : System κ} {q : StreamRef} {e : Entry κ.Note} {deed : Deed}
    (made : w.Has q) (h : ∀ r, e.deed? r = if q = r then some deed else none)
    (f : Status → Status) (move : (w.life q).Move ⟨f (w.status q), deed :: (w.life q).deeds⟩) :
    w.Moves ((w.updateStatus q f).record e) := by
  intro r
  refine ⟨by simp [Has, record, updateStatus, updateStream], ?_⟩
  rw [life_deed made h]
  by_cases hr : q = r
  · subst hr
    rw [if_pos rfl]
    exact .inr ⟨made, move⟩
  · rw [if_neg hr]
    exact .inl rfl

/-- One stream moves without a change of its status. -/
theorem of_deed_alone {w : System κ} {q : StreamRef} {e : Entry κ.Note} {deed : Deed}
    (made : w.Has q) (h : ∀ r, e.deed? r = if q = r then some deed else none)
    (move : (w.life q).Move ⟨w.status q, deed :: (w.life q).deeds⟩) : w.Moves (w.record e) := by
  have hMoves := of_deed made h (fun _ => w.status q) move
  rwa [updateStatus_self] at hMoves

/-- Nothing is told of any stream. -/
theorem of_untold {w : System κ} {e : Entry κ.Note} (h : ∀ r, e.deed? r = none) :
    w.Moves (w.record e) :=
  of_same (fun _ => Iff.rfl) fun r => life_record_of_none (h r)

end System.Moves

/-- A stream is made, seekable if it was configured so, and nothing else happens. -/
def System.Bears (w v : System κ) : Prop :=
  ∃ made : Stream, made.status = { seekable := made.config.seekable } ∧
    v = { w with streams := w.streams ++ [made] }

/-- A stream that is there already lives on as before where another one is made. -/
theorem System.Bears.life {w v : System κ} {r : StreamRef} (h : w.Bears v) (made : w.Has r) :
    v.life r = w.life r := by
  obtain ⟨s, -, rfl⟩ := h
  simp [System.life, status, stream_append, Nat.ne_of_lt made]

/-- The stream that is made has done nothing that was not told of it before. -/
theorem System.Bears.born {w v : System κ} {r : StreamRef} (h : w.Bears v) (new : ¬ w.Has r)
    (made : v.Has r) : ∃ seekable, v.life r = ⟨{ seekable }, (w.life r).deeds⟩ := by
  obtain ⟨s, hStatus, rfl⟩ := h
  have hNumber : r.number = w.streams.length := ((w.has_append s r).1 made).resolve_left new
  refine ⟨s.config.seekable, ?_⟩
  rw [← hStatus]
  simp [System.life, status, stream_append, hNumber]

/-- What the dispatcher does itself tells of no stream. -/
theorem Entry.deed?_of_dispatching {Note : Type} {e : Entry Note} (h : e.dispatching = true)
    (r : StreamRef) : e.deed? r = none := by
  cases e <;> first | rfl | cases h

/-- A step outside passes is at most one move of each life, or a birth. -/
theorem Quiet.moves {look : System κ → κ.Note} {w v : System κ} (h : Quiet look w v) :
    w.Moves v ∨ w.Bears v := by
  cases h with
  | makeStream id config binding own => exact .inr ⟨_, rfl, rfl⟩
  | note => exact .inl (.of_untold fun _ => rfl)
  | accept id event => exact .inl (.of_untold (e := .accepted id event) fun _ => rfl)
  | refuse id event reason => exact .inl (.of_untold (e := .refused id event reason) fun _ => rfl)
  | handles r f =>
    refine .inl (.of_same (fun q => w.has_updateStream r q _) fun q => ?_)
    simp only [System.life, System.status_updateStream, System.past_updateStream]
    split <;> rfl
  | hub hub f => exact .inl (.of_same (fun _ => Iff.rfl) fun _ => rfl)
  | attach r sink live =>
    exact .inl (.of_same (fun q => w.has_updateSource _ q _) fun q => w.life_updateSource ..)
  | detach r sink =>
    exact .inl (.of_same (fun q => w.has_updateSource _ q _) fun q => w.life_updateSource ..)
  | start r first state =>
    have made : w.Has r := System.has_of_state_ne (by rw [state]; simp)
    exact .inl (.of_deed made (fun _ => rfl) _ (.start _ first state))
  | closing r live settled =>
    refine .inl fun q => ⟨w.has_updateStatus r q _, ?_⟩
    by_cases hq : q = r
    · subst hq
      refine .inr ⟨System.has_of_state_ne live, ?_⟩
      have hMove := Life.Move.closing (l := w.life q) live settled
      simpa [System.life, System.status_updateStatus, System.has_of_state_ne live] using hMove
    · exact .inl (by simp [System.life, System.status_updateStatus, hq])
  | cancel r active =>
    exact .inl (.of_deed (System.has_of_state_ne (Status.state_ne_of_cancellable active))
      (fun _ => rfl) _ (.cancel active))
  | uncancelled r id made => exact .inl (.of_deed made (fun _ => rfl) _ .uncancelled)
  | read r ranges usable seekable some_ valid =>
    exact .inl (.of_deed (System.has_of_state_ne (Status.state_ne_of_usable usable))
      (fun _ => rfl) _ (.read ranges usable seekable some_ valid))
  | unread r id request ranges made =>
    exact .inl (.of_deed made (fun _ => rfl) _ (.unread request ranges))
  | write r data usable =>
    exact .inl (.of_deed_alone (System.has_of_state_ne (Status.state_ne_of_usable usable))
      (fun _ => rfl) (.write data usable))
  | abort r active =>
    exact .inl (.of_deed_alone (System.has_of_state_ne (Status.state_ne_of_cancellable active))
      (fun _ => rfl) (.abort active))
  | answer r id call served made kept =>
    exact .inl (.of_deed_alone made (fun _ => rfl) (.answer call served kept))
  | _ => exact .inl (.of_same (fun _ => Iff.rfl) fun _ => rfl)

/-- What a pass does is at most one move of each life. -/
theorem Firing.moves {o : Origin} {w v : System κ} (h : Firing o w v) : w.Moves v := by
  cases h with
  | take r takes free =>
    refine .of_deed (System.has_of_state_ne takes.state_ne) (fun q => ?_) _ (.take takes free)
    simp [Entry.deed?]
  | tearDown r live =>
    refine .of_deed (System.has_of_state_ne live) (fun q => ?_) _ (.tearDown live)
    simp [Entry.deed?]
  | start hub event => exact .of_untold fun _ => rfl
  | hand o event a alive attached kept =>
    subst kept
    exact .of_same (fun _ => Iff.rfl) fun _ => rfl
  | prune o => exact .of_same (fun q => w.has_updateSource _ q _) fun q => w.life_updateSource ..
  | clear r => exact .of_same (fun q => w.has_updateSource _ q _) fun q => w.life_updateSource ..

/-- Deskwork moves no life, but may bring one about. -/
theorem Deskwork.moves {w v : System κ} (h : Deskwork w v) : w.Moves v ∨ w.Bears v := by
  cases h with
  | enlist id config => exact .inr ⟨_, rfl, rfl⟩
  | entry e h => exact .inl (.of_untold (e.deed?_of_dispatching h))
  | dispatcher f => exact .inl (.of_same (fun _ => Iff.rfl) fun _ => rfl)

/-- Every step moves lives, or brings one about. -/
theorem Step.moves {look : System κ → κ.Note} {w v : System κ} (h : Step look w v) :
    w.Moves v ∨ w.Bears v := by
  cases h with
  | quiet h => exact h.moves
  | firing h => exact .inl h.moves
  | enlist id config => exact Deskwork.moves (.enlist id config)
  | dispatcher f => exact Deskwork.moves (.dispatcher f)
  | dispatching e h => exact Deskwork.moves (.entry e h)

/-- The life of a stream that is there stays as it is or moves. -/
theorem System.Moves.life {w v : System κ} {r : StreamRef} (h : w.Moves v ∨ w.Bears v)
    (made : w.Has r) : v.life r = w.life r ∨ (w.life r).Move (v.life r) :=
  h.elim (fun hMoves => (hMoves r).2.imp_right And.right) fun hBears => .inl (hBears.life made)

/-- The life of a stream that was made stays as it is or moves. -/
theorem Step.life {look : System κ → κ.Note} {w v : System κ} (h : Step look w v) {r : StreamRef}
    (made : w.Has r) : v.life r = w.life r ∨ (w.life r).Move (v.life r) :=
  System.Moves.life h.moves made

/-- Every stream that was made has lived, and nothing is told of others. -/
def System.AllLived (w : System κ) : Prop :=
  ∀ r, (w.Has r → (w.life r).Lived) ∧ (¬ w.Has r → (w.life r).deeds = [])

/-- Lives that move go on being lived. -/
theorem System.AllLived.moves {w v : System κ} (h : w.AllLived) (hMoves : w.Moves v) :
    v.AllLived := by
  intro r
  obtain ⟨hHas, hSame | ⟨hMade, hMove⟩⟩ := hMoves r
  · rw [hHas, hSame]
    exact h r
  · exact ⟨fun _ => ((h r).1 hMade).move hMove, fun hNot => absurd (hHas.2 hMade) hNot⟩

/-- A life that is brought about has lived. -/
theorem System.AllLived.bears {w v : System κ} (h : w.AllLived) (hBears : w.Bears v) :
    v.AllLived := by
  intro r
  by_cases made : w.Has r
  · rw [hBears.life made]
    refine ⟨fun _ => (h r).1 made, fun hNot => absurd ?_ hNot⟩
    obtain ⟨s, -, rfl⟩ := hBears
    exact (w.has_append s r).2 (.inl made)
  · by_cases new : v.Has r
    · obtain ⟨seekable, hLife⟩ := hBears.born made new
      rw [hLife, (h r).2 made]
      exact ⟨fun _ => .born _, fun hNot => absurd new hNot⟩
    · obtain ⟨s, -, rfl⟩ := hBears
      exact ⟨fun hMade => absurd hMade new, fun _ => (h r).2 made⟩

/-- At the outset there are no streams. -/
theorem System.AllLived.outset (client : κ.State) : ({ client } : System κ).AllLived :=
  fun _ => ⟨fun hMade => absurd hMade (Nat.not_lt_zero _), fun _ => rfl⟩

theorem System.AllLived.step {look : System κ → κ.Note} {w v : System κ} (hStep : Step look w v)
    (h : w.AllLived) : v.AllLived :=
  hStep.moves.elim h.moves h.bears

/-- At every moment of every run, moves have made the life of each stream. -/
theorem Always.lived (manners : Surroundings κ → Prop) : Always manners System.AllLived :=
  .of_step System.AllLived.outset System.AllLived.step

/-- What holds at every moment of every run follows from what holds there. -/
theorem Always.mono {manners : Surroundings κ → Prop} {P Q : System κ → Prop}
    (h : Always manners P) (hPQ : ∀ w, P w → Q w) : Always manners Q := by
  intro look w hReached
  obtain ⟨hw, hPast⟩ := h look w hReached
  refine ⟨hPQ w hw, fun n hn => ?_⟩
  obtain ⟨v, hv, hLook⟩ := hPast n hn
  exact ⟨v, hPQ v hv, hLook⟩

end HostedStreams
