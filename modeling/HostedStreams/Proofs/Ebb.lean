import HostedStreams.Proofs.Chores
import HostedStreams.Proofs.Forthright

/-! What still happens to a stream once a close of it was accepted. All that is left to its sinks is
its teardown, by one pass. All that it can still ask the host for is the transfer itself, and only
if that was never asked for: `start` looks at the state alone, which is `created` until the queued
teardown runs. -/
namespace HostedStreams

variable {κ : Client}

/-- The request, if the deed is one. -/
def Deed.asked? : Deed → Option HostCall
  | .asked call => some call
  | .pass .. | .answered .. => none

def Deed.answers : Deed → Bool
  | .answered .. => true
  | .pass .. | .asked _ => false

namespace Status

/-- A close is under way or was accepted, or the stream is torn down. -/
def Spent (s : Status) : Prop :=
  s.closing = true ∨ s.state = .destroyed

/-- The transfer was not asked for and still can be. -/
def Pledged (s : Status) : Prop :=
  s.requested = false ∧ s.state = .created

variable {s t : Status}

/-- There is nothing to cancel for a stream that is spent. -/
theorem Spent.cancellable (h : s.Spent) : s.cancellable = false := by
  rcases h with h | h <;> simp [Status.cancellable, h, StreamState.terminal]

/-- A stream that is spent cannot be used. -/
theorem Spent.usable (h : s.Spent) : s.usable = false := by
  rcases h with h | h <;> simp [Status.usable, h]

/-! What only a stream does that is not spent. -/

/-- A stream that can be used is not spent. -/
theorem not_spent_of_usable (h : s.usable = true) : ¬ s.Spent := fun spent => by
  rw [spent.usable] at h
  cases h

theorem not_spent_of_cancellable (h : s.cancellable = true) : ¬ s.Spent := fun spent => by
  rw [spent.cancellable] at h
  cases h

/-- A stream that takes an event and is not closing is not spent. -/
theorem Takes.not_spent {event : Event} (h : s.Takes event t) (free : s.closing = false) :
    ¬ s.Spent := by
  rintro (closing | torn)
  · rw [free] at closing
    cases closing
  · exact h.state_ne torn

/-- Of the events, such a stream takes none but the end. -/
theorem Spent.react (h : s.Spent) (event : Event) :
    s.react event = (s, .ignore) ∨ s.react event = (s, .destroy) ∧ s.state ≠ .destroyed := by
  rcases hReact : s.react event with ⟨t, reaction⟩
  cases reaction with
  | fire fired =>
    obtain ⟨hTakes, hFree⟩ := takes_of_react_fire hReact
    exact absurd h (hTakes.not_spent hFree)
  | destroy =>
    obtain ⟨rfl, hLive⟩ := of_react_destroy hReact
    exact .inr ⟨rfl, hLive⟩
  | ignore => exact .inl (by rw [of_react_ignore hReact])

end Status

namespace Life

variable {l m n : Life}

/-- What the host was asked for, the latest first. -/
def asked (l : Life) : List HostCall :=
  l.deeds.filterMap (·.asked?)

/-- The stream stays spent, and the host is not asked for anything, except for the transfer if that
was not asked for before. -/
structure Wanes (l m : Life) : Prop where
  spent : m.status.Spent
  asked : m.asked = l.asked ∧ (m.status.Pledged → l.status.Pledged) ∨
    l.status.Pledged ∧ ¬ m.status.Pledged ∧ ∃ config, m.asked = .start config :: l.asked

theorem Wanes.refl (h : l.status.Spent) : l.Wanes l :=
  ⟨h, .inl ⟨rfl, id⟩⟩

theorem Wanes.trans (first : l.Wanes m) (second : m.Wanes n) : l.Wanes n := by
  refine ⟨second.spent, ?_⟩
  rcases first.asked with ⟨hSame, hBack⟩ | ⟨hPledged, hKept, config, hStart⟩
  · rcases second.asked with ⟨hSame', hBack'⟩ | ⟨hPledged, hKept, config, hStart⟩
    · exact .inl ⟨hSame'.trans hSame, fun h => hBack (hBack' h)⟩
    · exact .inr ⟨hBack hPledged, hKept, config, by rw [hStart, hSame]⟩
  · rcases second.asked with ⟨hSame', hBack'⟩ | ⟨hPledged', -⟩
    · exact .inr ⟨hPledged, fun h => hKept (hBack' h), config, by rw [hSame', hStart]⟩
    · exact absurd hPledged' hKept

/-- A stream that is spent moves on so, unless the host refuses to cancel its transfer. -/
theorem Move.wanes (h : l.Move m) (spent : l.status.Spent)
    (kept : m.deeds ≠ .answered .cancel false :: l.deeds) : l.Wanes m := by
  cases h with
  | take takes free => exact absurd spent (takes.not_spent free)
  | tearDown live => exact ⟨.inr rfl, .inl ⟨rfl, fun h => by cases h.2⟩⟩
  | start config first state =>
    exact ⟨spent, .inr ⟨⟨first, state⟩, (fun h => by cases h.1), config, rfl⟩⟩
  | closing live settled => exact ⟨.inl rfl, .inl ⟨rfl, id⟩⟩
  | cancel active | abort active =>
    exact absurd spent (Status.not_spent_of_cancellable active)
  | uncancelled => exact absurd rfl kept
  | read ranges usable | write data usable =>
    exact absurd spent (Status.not_spent_of_usable usable)
  | unread | answer => exact ⟨spent, .inl ⟨rfl, id⟩⟩

/-- Only a transfer that can be cancelled is asked to be. -/
theorem Move.cancellable (h : l.Move m) (asks : m.deeds = .asked .cancel :: l.deeds) :
    l.status.cancellable = true := by
  cases h with
  | cancel active | abort active => exact active
  | closing => exact absurd asks (by simp)
  | _ => cases asks

end Life

namespace System

variable {w v : System κ} {r : StreamRef}

/-- What the host was asked for by the stream, the latest first. -/
def asked (w : System κ) (r : StreamRef) : List HostCall :=
  (w.life r).asked

/-- Only a request adds to what the host was asked for. -/
theorem asked_record (w : System κ) (e : Entry κ.Note) (r : StreamRef) :
    (w.record e).asked r = ((e.deed? r).bind Deed.asked?).toList ++ w.asked r := by
  rw [asked, Life.asked, life_record, List.filterMap_append]
  cases e.deed? r with
  | none => rfl
  | some deed => cases deed <;> rfl

/-- Without an entry the host is asked for nothing. -/
theorem asked_of_past (h : v.past = w.past) (r : StreamRef) :
    v.asked r = w.asked r := by
  simp only [asked, Life.asked, life, h]

/-- The answers that the stream was given are among those of the host. -/
theorem answered_life (w : System κ) (r : StreamRef) :
    (w.life r).deeds.filter (·.answers) = w.answers.filterMap (·.deed? r) := by
  rw [life, answers, List.filter_filterMap, List.filterMap_filter]
  congr 1
  funext e
  cases e <;> simp only [Entry.deed?, Entry.answers, Option.filter_none, Bool.false_eq_true,
    if_false, if_true]
  all_goals split <;> simp [Option.filter, Deed.answers]

/-- A deed is told by the entry that is written. -/
theorem deeds_of_past {e : Entry κ.Note} (h : v.past = e :: w.past) :
    (v.life r).deeds = (e.deed? r).toList ++ (w.life r).deeds := by
  simp only [life, h, List.filterMap_cons]
  cases e.deed? r <;> rfl

/-- A stream does something only in a move of its life. -/
theorem Moves.move (h : w.Moves v ∨ w.Bears v) (made : w.Has r)
    (new : (v.life r).deeds ≠ (w.life r).deeds) : (w.life r).Move (v.life r) :=
  (Moves.life h made).resolve_left fun hSame => new (congrArg Life.deeds hSame)

/-- Whatever happens leaves a spent stream so, except for a refused cancel. -/
theorem Moves.wanes (h : w.Moves v ∨ w.Bears v) (made : w.Has r) (spent : (w.status r).Spent)
    (kept : (v.life r).deeds ≠ .answered .cancel false :: (w.life r).deeds) :
    (w.life r).Wanes (v.life r) := by
  rcases Moves.life h made with hSame | hMove
  · rw [hSame]
    exact .refl spent
  · exact hMove.wanes spent kept

/-- Whoever is answered is told so by the host. -/
theorem deeds_ne_of_unanswered (unanswered : v.answers = w.answers) (call : HostCall)
    (served : Bool) : (v.life r).deeds ≠ .answered call served :: (w.life r).deeds := by
  intro hRefused
  have hAnswered := congrArg (·.filterMap (Entry.deed? r)) unanswered
  simp only [← answered_life, hRefused] at hAnswered
  simpa [Deed.answers] using congrArg List.length hAnswered

end System

/-- Whoever was asked for, and is spent, asks for nothing more. -/
theorem Life.Wanes.same_asked {w v : System κ} {r : StreamRef} (h : (w.life r).Wanes (v.life r))
    (firm : ¬ (w.life r).status.Pledged) :
    v.asked r = w.asked r ∧ ¬ (v.life r).status.Pledged := by
  obtain ⟨hSame, hBack⟩ := h.asked.resolve_right fun hSpoken => firm hSpoken.1
  exact ⟨hSame, fun hPledged => firm (hBack hPledged)⟩

/-- The event and whether the worker's context was on, if the entry is that a sink starts to take
the event from the stream. -/
def Entry.hearing? {Note : Type} (r : StreamRef) : Entry Note → Option (Event × Bool)
  | .delivery _ o event _ inContext => if o = .stream r then some (event, inContext) else none
  | _ => none

namespace System

variable {u v w : System κ} {r : StreamRef}

/-- What sinks heard of the stream, the latest first, and whether in the worker's context. -/
def hearings (w : System κ) (r : StreamRef) : List (Event × Bool) :=
  w.past.filterMap (·.hearing? r)

/-- Only a delivery of the stream's adds to what is heard of it. -/
theorem hearings_record (w : System κ) (e : Entry κ.Note) (r : StreamRef) :
    (w.record e).hearings r = (e.hearing? r).toList ++ w.hearings r := by
  simp only [hearings, record, List.filterMap_cons]
  cases e.hearing? r <;> rfl

theorem hearings_of_past (h : v.past = w.past) (r : StreamRef) : v.hearings r = w.hearings r := by
  rw [hearings, h, hearings]

/-- The stream starts no pass, and nobody hears anything of it. -/
structure Still (r : StreamRef) (w v : System κ) : Prop where
  fired : v.fired r = w.fired r
  hearings : v.hearings r = w.hearings r

theorem Still.trans (first : u.Still r v) (second : v.Still r w) : u.Still r w :=
  ⟨second.fired.trans first.fired, second.hearings.trans first.hearings⟩

/-- The stream is torn down by one pass, and nobody hears anything but the end. -/
structure Ended (r : StreamRef) (w v : System κ) : Prop where
  torn : (v.status r).state = .destroyed
  fired : v.fired r = .destroyed :: w.fired r
  hearings : ∃ news, v.hearings r = news ++ w.hearings r ∧ ∀ x ∈ news, x.1 = .destroyed

/-- The end may come after stillness. -/
theorem Ended.before (first : u.Still r v) (second : v.Ended r w) : u.Ended r w where
  torn := second.torn
  fired := by rw [second.fired, first.fired]
  hearings := by rw [← first.hearings]; exact second.hearings

/-- After the end there is stillness. -/
theorem Ended.still (first : u.Ended r v) (second : v.Still r w)
    (torn : (w.status r).state = .destroyed) : u.Ended r w where
  torn := torn
  fired := second.fired.trans first.fired
  hearings := by rw [second.hearings]; exact first.hearings

/-- At most the end of the stream comes to pass. -/
structure Subsides (r : StreamRef) (w v : System κ) : Prop where
  torn : (w.status r).state = .destroyed → (v.status r).state = .destroyed ∧ w.Still r v
  live : (w.status r).state ≠ .destroyed →
    (v.status r).state ≠ .destroyed ∧ w.Still r v ∨ w.Ended r v

theorem Subsides.trans (first : u.Subsides r v) (second : v.Subsides r w) : u.Subsides r w where
  torn hu := by
    obtain ⟨hv, hStill⟩ := first.torn hu
    obtain ⟨hw, hStill'⟩ := second.torn hv
    exact ⟨hw, hStill.trans hStill'⟩
  live hu := by
    rcases first.live hu with ⟨hv, hStill⟩ | hEnded
    · refine (second.live hv).imp (fun ⟨hw, hStill'⟩ => ⟨hw, hStill.trans hStill'⟩) ?_
      exact fun hEnded => hEnded.before hStill
    · obtain ⟨hw, hStill⟩ := second.torn hEnded.torn
      exact .inr (hEnded.still hStill hw)

/-- Where the state is kept in stillness, nothing has come to pass. -/
theorem Subsides.of_still (state : (v.status r).state = (w.status r).state) (still : w.Still r v) :
    w.Subsides r v :=
  ⟨fun torn => ⟨state.trans torn, still⟩, fun live => .inl ⟨state ▸ live, still⟩⟩

end System

/-- Outside passes nothing is heard. -/
theorem Quiet.hearings {look : System κ → κ.Note} {w v : System κ} (h : Quiet look w v)
    (r : StreamRef) : v.hearings r = w.hearings r := by
  cases h with
  | note | start | cancel | uncancelled | read | unread | write | abort | answer =>
    exact System.hearings_record ..
  | accept id event => exact System.hearings_record w (.accepted id event) r
  | refuse id event reason => exact System.hearings_record w (.refused id event reason) r
  | _ => exact System.hearings_of_past (by
      simp [System.updateClient, System.updateSink, System.updateDispatcher]) r

/-- Passes of others let nothing be heard of the stream. -/
theorem Firing.hearings {o : Origin} {w v : System κ} (h : Firing o w v) {r : StreamRef}
    (ho : o ≠ .stream r) : v.hearings r = w.hearings r := by
  cases h with
  | take | tearDown | start => exact System.hearings_record ..
  | hand o event a alive attached kept =>
    subst kept
    rw [System.hearings_record]
    simp only [Entry.hearing?, if_neg ho]
    rfl
  | prune | clear => exact System.hearings_of_past (by simp) r

/-- Nothing that is quiet is heard of a stream. -/
theorem Quiet.still {look : System κ → κ.Note} {w v : System κ} (h : Quiet look w v)
    (r : StreamRef) : w.Still r v :=
  ⟨h.fired r, h.hearings r⟩

/-- A pass of another origin is not heard of the stream. -/
theorem Firing.still {o : Origin} {w v : System κ} (h : Firing o w v) {r : StreamRef}
    (ho : o ≠ .stream r) : w.Still r v :=
  ⟨h.fired ho, h.hearings ho⟩

/-- No pass of itself says anything to the host. -/
theorem Firing.talk {o : Origin} {w v : System κ} (h : Firing o w v) : v.talk = w.talk := by
  cases h with
  | hand o event a alive attached kept => subst kept; rfl
  | take | tearDown | start => rfl
  | prune | clear => rw [System.talk, System.past_updateSource, System.talk]

/-- Deskwork says nothing to the host. -/
theorem Deskwork.talk {w v : System κ} (h : Deskwork w v) : v.talk = w.talk := by
  cases h with
  | entry e h => cases e <;> first | rfl | cases h
  | _ => rfl

/-- No host answers in a pass of itself. -/
theorem Firing.answers {o : Origin} {w v : System κ} (h : Firing o w v) :
    v.answers = w.answers :=
  System.answers_of_talk h.talk

/-- A stream that asks the host for something is there, and asking is all that it does. -/
theorem Quiet.move_of_request {look : System κ → κ.Note} {w v : System κ} {r : StreamRef}
    {id : StreamId} {call : HostCall} (h : Quiet look w v)
    (request : v.past = @Entry.hostCall _ id call r :: w.past) :
    w.Has r ∧ (w.life r).Move (v.life r) ∧
      (v.life r).deeds = .asked call :: (w.life r).deeds := by
  have hDeeds : (v.life r).deeds = .asked call :: (w.life r).deeds := by
    rw [System.deeds_of_past request]
    simp [Entry.deed?]
  rcases h.moves with hMoves | ⟨s, -, rfl⟩
  · rcases (hMoves r).2 with hSame | ⟨made, hMove⟩
    · rw [hSame] at hDeeds
      exact absurd hDeeds (List.cons_ne_self _ _).symm
    · exact ⟨made, hMove, hDeeds⟩
  · exact absurd request (List.cons_ne_self _ _).symm

/-- What becomes of a stream from one moment to a later one, if it is spent at the first. -/
structure Ebb (r : StreamRef) (w v : System κ) : Prop where
  grows : w.streams.length ≤ v.streams.length
  wanes : w.Has r → (w.status r).Spent → (w.life r).Wanes (v.life r)
  subsides : w.Has r → (w.status r).Spent → w.Subsides r v

namespace Ebb

variable {look : System κ → κ.Note} {r : StreamRef} {u v w : System κ}

/-- A stream that is spent stays spent. -/
theorem spent (h : Ebb r w v) (made : w.Has r) (hSpent : (w.status r).Spent) :
    (v.status r).Spent :=
  (h.wanes made hSpent).spent

theorem trans (first : Ebb r u v) (second : Ebb r v w) : Ebb r u w where
  grows := Nat.le_trans first.grows second.grows
  wanes made hSpent :=
    (first.wanes made hSpent).trans <|
      second.wanes (Nat.lt_of_lt_of_le made first.grows) (first.spent made hSpent)
  subsides made hSpent :=
    (first.subsides made hSpent).trans <|
      second.subsides (Nat.lt_of_lt_of_le made first.grows) (first.spent made hSpent)

/-- A stream that is not spent may do anything. -/
theorem of_not_spent (grows : w.streams.length ≤ v.streams.length)
    (h : ¬ (w.status r).Spent) : Ebb r w v :=
  ⟨grows, fun _ hSpent => absurd hSpent h, fun _ hSpent => absurd hSpent h⟩

/-- Whatever is neither heard of the stream nor told by an answer of the host. -/
theorem of_still (grows : w.streams.length ≤ v.streams.length) (moves : w.Moves v ∨ w.Bears v)
    (unanswered : v.answers = w.answers)
    (state : w.Has r → (v.status r).state = (w.status r).state) (still : w.Still r v) :
    Ebb r w v where
  grows := grows
  wanes made hSpent :=
    System.Moves.wanes moves made hSpent (System.deeds_ne_of_unanswered unanswered _ _)
  subsides made _ := .of_still (state made) still

theorem refl (w : System κ) : Ebb r w w :=
  of_still (Nat.le_refl _) (.inl (.of_same (fun _ => Iff.rfl) fun _ => rfl)) rfl (fun _ => rfl)
    ⟨rfl, rfl⟩

/-- Outside passes no state changes. -/
theorem state_of_quiet (h : Quiet look w v) (made : w.Has r) :
    (v.status r).state = (w.status r).state := by
  rcases h.spares r with hSpares | hBears
  · exact hSpares.state
  · exact congrArg (·.status.state) (hBears.life made)

theorem of_quiet (h : Quiet look w v) (unanswered : v.answers = w.answers) : Ebb r w v :=
  of_still h.grows h.moves unanswered (state_of_quiet h) (h.still r)

theorem of_firing {o : Origin} (h : Firing o w v) (ho : o ≠ .stream r) : Ebb r w v :=
  of_still h.grows (.inl h.moves) h.answers (fun _ => (h.spares ho).state) (h.still ho)

/-- Whoever asks the host to cancel the transfer of a stream, the stream was not spent. -/
theorem not_spent_of_request {y : System κ} {id : StreamId} (asked : Quiet look w y)
    (request : y.past = @Entry.hostCall _ id .cancel r :: w.past) :
    ¬ (w.status r).Spent := by
  obtain ⟨-, hMove, hDeeds⟩ := asked.move_of_request request
  exact Status.not_spent_of_cancellable (hMove.cancellable hDeeds)

/-- The host is asked and has answered. It was not asked to cancel the transfer of a spent stream,
and so what it refuses is nothing that makes the stream other than spent. -/
theorem of_ask {x y : System κ} {q : StreamRef} {id : StreamId} {call : HostCall} {served : Bool}
    (asked : Quiet look w y) (request : y.past = @Entry.hostCall _ id call q :: w.past)
    (does : Ebb r y u) (answered : Quiet look u x)
    (answer : x.past = @Entry.hostAnswer _ id call served q :: u.past) : Ebb r w x := by
  have hAsked : Ebb r w y := of_quiet asked (by rw [System.answers, request]; rfl)
  have hBefore := hAsked.trans does
  have hGrows := Nat.le_trans hBefore.grows answered.grows
  by_cases hSpent : w.Has r ∧ (w.status r).Spent
  · obtain ⟨made, hSpent⟩ := hSpent
    have hThere : u.Has r := Nat.lt_of_lt_of_le made hBefore.grows
    refine hBefore.trans ⟨answered.grows, fun _ spent => ?_, fun _ _ => ?_⟩
    · refine System.Moves.wanes answered.moves hThere spent fun hRefused => ?_
      rw [System.deeds_of_past answer] at hRefused
      have hDeed : ((@Entry.hostAnswer κ.Note id call served q).deed? r).toList =
          [.answered .cancel false] := List.append_cancel_right hRefused
      obtain ⟨_, hEntry⟩ := Entry.deed?_eq_answered.1 (Option.toList_eq_singleton_iff.1 hDeed)
      cases hEntry
      exact not_spent_of_request asked request hSpent
    · exact .of_still (state_of_quiet answered hThere) (answered.still r)
  · exact ⟨hGrows, fun made spent => absurd ⟨made, spent⟩ hSpent,
      fun made spent => absurd ⟨made, spent⟩ hSpent⟩

theorem smooth : Smooth (Ebb (κ := κ) r) where
  refl := refl
  trans := trans
  doneWith _ _ := of_still (Nat.le_refl _)
    (.inl (.of_same (fun _ => Iff.rfl) fun _ => rfl)) rfl (fun _ => rfl) ⟨rfl, rfl⟩

/-- What goes on while a stream is torn down: nothing but the end is heard of it. -/
structure Fades (r : StreamRef) (w v : System κ) : Prop where
  grows : w.streams.length ≤ v.streams.length
  torn : w.Has r → (w.status r).state = .destroyed → (v.status r).state = .destroyed
  wanes : w.Has r → (w.status r).state = .destroyed → (w.life r).Wanes (v.life r)
  fired : w.Has r → (w.status r).state = .destroyed → v.fired r = w.fired r
  hearings : w.Has r → (w.status r).state = .destroyed →
    ∃ news, v.hearings r = news ++ w.hearings r ∧ ∀ x ∈ news, x.1 = .destroyed

namespace Fades

/-- What ebbs fades. -/
theorem of_ebb (h : Ebb r w v) : Fades r w v where
  grows := h.grows
  torn made torn := ((h.subsides made (.inr torn)).torn torn).1
  wanes made torn := h.wanes made (.inr torn)
  fired made torn := ((h.subsides made (.inr torn)).torn torn).2.fired
  hearings made torn :=
    ⟨[], ((h.subsides made (.inr torn)).torn torn).2.hearings, fun _ hx => by cases hx⟩

theorem trans (first : Fades r u v) (second : Fades r v w) : Fades r u w := by
  have hStill (made : u.Has r) : v.Has r := Nat.lt_of_lt_of_le made first.grows
  constructor
  · exact Nat.le_trans first.grows second.grows
  · exact fun made torn => second.torn (hStill made) (first.torn made torn)
  · exact fun made torn =>
      (first.wanes made torn).trans (second.wanes (hStill made) (first.torn made torn))
  · exact fun made torn =>
      (second.fired (hStill made) (first.torn made torn)).trans (first.fired made torn)
  · intro made torn
    obtain ⟨news, hNews, hEnd⟩ := first.hearings made torn
    obtain ⟨later, hLater, hEnd'⟩ := second.hearings (hStill made) (first.torn made torn)
    refine ⟨later ++ news, by rw [hLater, hNews, List.append_assoc], fun x hx => ?_⟩
    exact (List.mem_append.1 hx).elim (hEnd' x) (hEnd x)

theorem smooth : Smooth (Fades (κ := κ) r) where
  refl w := of_ebb (Ebb.refl w)
  trans := trans
  doneWith w sink := of_ebb (Ebb.smooth.doneWith w sink)

/-- Each of the sinks is handed the end. -/
theorem hands : Hands (Fades (κ := κ) r) (.stream r) .destroyed := by
  intro w v a alive attached kept
  have hFiring : Firing (.stream r) w _ := .hand (.stream r) .destroyed a alive attached kept
  subst kept
  refine ⟨hFiring.grows, fun _ torn => torn, fun made torn => ?_, fun _ _ => ?_, fun _ _ => ?_⟩
  · exact System.Moves.wanes (.inl hFiring.moves) made (.inr torn)
      (System.deeds_ne_of_unanswered hFiring.answers _ _)
  · exact System.fired_record ..
  · refine ⟨_, System.hearings_record .., fun x hx => ?_⟩
    simp only [Entry.hearing?, if_true, Option.toList_some, List.mem_singleton] at hx
    rw [hx]

end Fades

theorem updateSource (o : Origin) (f : Source → Source) : Ebb r w (w.updateSource o f) := by
  have hPast := w.past_updateSource o f
  refine of_still ?_ (.inl (.of_same (fun q => w.has_updateSource o q f) fun q =>
    w.life_updateSource o q f)) ?_ (fun _ => ?_) ?_
  · cases o <;> simp [System.updateSource, System.updateStream]
  · rw [System.answers, hPast, System.answers]
  · rw [w.status_updateSource o r f]
  · exact ⟨System.fired_of_past hPast r, System.hearings_of_past hPast r⟩

section

variable {env : Surroundings κ} (he : env.Within (Ebb r))

include he

/-- Once the teardown of the stream has begun, nothing but the end is heard of it. -/
theorem fades_destroy (live : (w.status r).state ≠ .destroyed) :
    Fades r (w.tearing r) ((r.destroy env).left w) :=
  Fades.smooth.related_destroy (fun sink o event v => .of_ebb (he.deliver sink o event v))
    Fades.hands (fun _ => .of_ebb (updateSource _ _)) (fun _ => .of_ebb (updateSource _ _)) live

/-- The teardown of the stream is one pass, and the host is not asked for anything. -/
theorem ended_destroy (live : (w.status r).state ≠ .destroyed) :
    w.Ended r ((r.destroy env).left w) ∧ ((r.destroy env).left w).asked r = w.asked r := by
  have made := System.has_of_state_ne live
  have hTorn : ((w.tearing r).status r).state = .destroyed := by
    simp [System.tearing, System.status_updateStatus, made, Status.tornDown]
  have hMade : (w.tearing r).Has r := (w.has_updateStatus r r _).2 made
  have hRest := fades_destroy he live
  refine ⟨⟨hRest.torn hMade hTorn, ?_, ?_⟩, ?_⟩
  · rw [hRest.fired hMade hTorn, System.tearing, System.fired_record]
    simp [Entry.fired?, System.fired_of_past (w.past_updateStatus r _)]
  · obtain ⟨news, hNews, hEnd⟩ := hRest.hearings hMade hTorn
    refine ⟨news, ?_, hEnd⟩
    rw [hNews, System.tearing, System.hearings_record]
    exact congrArg _ (System.hearings_of_past (w.past_updateStatus r _) r)
  · have hFirm : ¬ ((w.tearing r).life r).status.Pledged := fun h => by
      have hState : ((w.tearing r).status r).state = .created := h.2
      rw [hTorn] at hState
      cases hState
    rw [((hRest.wanes hMade hTorn).same_asked hFirm).1, System.tearing, System.asked_record,
      System.asked_of_past (w.past_updateStatus r _)]
    simp [Entry.deed?, Deed.asked?]

/-- The teardown of the stream is the one thing that is left to it. -/
theorem of_destroy (w : System κ) : Ebb r w ((r.destroy env).left w) := by
  by_cases live : (w.status r).state = .destroyed
  · rw [System.left_destroy_of_torn live]
    exact refl w
  · have made := System.has_of_state_ne live
    have hBegun : Firing (.stream r) w (w.tearing r) := .tearDown r live
    have hTorn : ((w.tearing r).status r).state = .destroyed := by
      simp [System.tearing, System.status_updateStatus, made, Status.tornDown]
    have hMade : (w.tearing r).Has r := (w.has_updateStatus r r _).2 made
    have hRest := fades_destroy he live
    refine ⟨Nat.le_trans hBegun.grows hRest.grows, fun _ spent => ?_, fun _ _ => ?_⟩
    · exact (System.Moves.wanes (.inl hBegun.moves) made spent
        (System.deeds_ne_of_unanswered hBegun.answers _ _)).trans (hRest.wanes hMade hTorn)
    · exact ⟨fun torn => absurd torn live, fun _ => .inr (ended_destroy he live).1⟩

/-- No event makes a spent stream start a pass, unless it is the end. -/
theorem of_apply (event : Event) (w : System κ) : Ebb r w ((r.apply env event).left w) := by
  by_cases hSpent : (w.status r).Spent
  · simp only [StreamRef.apply, Act.left_get_bind, Act.left_modify_bind]
    rcases hSpent.react event with hReact | ⟨hReact, -⟩
    · rw [hReact, System.updateStatus_self]
      exact refl w
    · rw [hReact, System.updateStatus_self, Act.left_bind_pure]
      exact of_destroy he w
  · exact of_not_spent
      (Smooth.grows.within_apply (he.mono grows).deliver Firing.grows event w) hSpent

omit he

/-- What the dispatcher and its worker do beside what calls do has no part in it. -/
theorem of_deskwork (h : Deskwork w v) : Ebb r w v := by
  refine of_still h.grows h.moves (System.answers_of_talk h.talk) (fun made => ?_) ?_
  · cases h with
    | enlist id config => simp [System.status, System.stream_append, Nat.ne_of_lt made]
    | _ => rfl
  · cases h with
    | entry e h => cases e <;> first | exact ⟨rfl, rfl⟩ | cases h
    | _ => exact ⟨rfl, rfl⟩

theorem carries (look : System κ → κ.Note) (he : env.Within (Ebb r)) :
    Carries look env (fun _ _ => True) Deskwork (Ebb (κ := κ) r) := by
  have other {q : StreamRef} (hq : q ≠ r) {w v : System κ} (h : Firing (.stream q) w v) :
      Ebb r w v := of_firing h (by simpa using hq)
  refine {
    refl, trans, does := he, quiet := of_quiet, ask := of_ask, own := of_deskwork
    fireHub := ?_, apply := ?_, destroy := ?_ }
  · exact fun hub event => smooth.within_fireHub he.deliver (fun h => of_firing h (by simp)) event
  · intro q w event _
    by_cases hq : q = r
    · subst hq
      exact of_apply he event w
    · exact smooth.within_apply he.deliver (other hq) event w
  · intro q w _
    by_cases hq : q = r
    · subst hq
      exact of_destroy he w
    · exact smooth.within_destroy he.deliver (other hq) w

end

theorem pervades (look : System κ → κ.Note) {manners : Surroundings κ → Prop} (r : StreamRef) :
    Pervades look manners (Ebb (κ := κ) r) where
  refl := refl
  trans := trans
  remember w f := of_quiet (.remember f : Quiet look w _) rfl
  note w := of_quiet (.note : Quiet look w _) rfl
  conveys _ he := (carries look he).conveys

end Ebb
end HostedStreams
