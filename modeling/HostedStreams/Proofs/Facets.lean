import HostedStreams.Proofs.Coverage
import HostedStreams.Proofs.Passes
import HostedStreams.Proofs.Roster

/-! The facets of a stream: what the events of the host have made of it. They go with its
state, and they follow from what the stream has accepted: nothing else sets them, and
nothing takes them back. -/
namespace HostedStreams

variable {κ : Client}

/-- Something is left of every read that is kept, and each part of it holds a byte. -/
def PendingReads.Outstanding (pending : PendingReads) : Prop :=
  ∀ id left, (id, left) ∈ pending → left ≠ [] ∧ ∀ range ∈ left, range.start < range.stop

namespace PendingReads.Outstanding

variable {pending : PendingReads}

theorem nil : Outstanding [] :=
  fun _ _ h => absurd h List.not_mem_nil

/-- A read of valid ranges, of which there are some, is outstanding. -/
theorem insert (h : pending.Outstanding) (id : RequestId) {ranges : List Range}
    (some_ : ranges ≠ []) (valid : ∀ range ∈ ranges, range.valid = true) :
    (pending.insert id ranges).Outstanding := by
  intro other left hLeft
  rcases mem_insert hLeft with ⟨-, rfl⟩ | hOld
  · exact ⟨some_, fun range hRange => of_decide_eq_true (valid range hRange)⟩
  · exact h other left hOld

theorem erase (h : pending.Outstanding) (id : RequestId) : (pending.erase id).Outstanding :=
  fun other left hLeft => h other left (List.mem_filter.1 hLeft).1

/-- What is left after a chunk is outstanding, for nothing empty is kept. -/
theorem retire (h : pending.Outstanding) (p : DataArrived) : (pending.retire p).Outstanding := by
  by_cases hChunk : p.offset < p.stop
  · intro id rest hRest
    obtain ⟨left, hLeft, ⟨-, rfl, hSome⟩ | ⟨-, rfl⟩⟩ := (mem_retire hChunk).1 hRest
    · have hValid (range : Range) (hRange : range ∈ left) : range.valid = true :=
        decide_eq_true ((h id left hLeft).2 range hRange)
      exact ⟨hSome, fun range hRange => of_decide_eq_true (valid_consume hValid range hRange)⟩
    · exact h id rest hLeft
  · rwa [PendingReads.retire, if_neg hChunk]

end PendingReads.Outstanding

namespace Status

/-- What an opening and an end of the transfer say about a stream. -/
structure Facets where
  opened : Bool
  completed : Bool
  length : Option UInt64
  mimeType : Option String
  headers : Option String
  cacheFilename : Option String
  seekable : Bool
  deriving DecidableEq

def facets (s : Status) : Facets where
  opened := s.opened
  completed := s.completed
  length := s.length
  mimeType := s.mimeType
  headers := s.headers
  cacheFilename := s.cacheFilename
  seekable := s.seekable

/-- Nothing is known of the resource yet. -/
def Unknown (s : Status) : Prop :=
  s.length = none ∧ s.mimeType = none ∧ s.headers = none ∧ s.cacheFilename = none

/-- What is known of the resource is what the opening told. -/
structure Tells (s : Status) (p : Opened) (configured : Bool) : Prop where
  length : s.length = p.length
  mimeType : s.mimeType = p.mimeType
  headers : s.headers = p.headers
  cacheFilename : s.cacheFilename = p.cacheFilename
  /-- An opening that says nothing of it leaves it as it was configured. -/
  seekable : s.seekable = p.seekable.getD configured

/-- How the parts of a status go together. -/
structure Consistent (s : Status) : Prop where
  early : s.state = .created ∨ s.state = .opening →
    s.opened = false ∧ s.completed = false ∧ s.Unknown
  opened : s.state = .opened → s.opened = true ∧ s.completed = false
  completed : s.state = .completed → s.opened = true ∧ s.completed = true
  failedOpen : s.state = .failedOpen → s.opened = false ∧ s.completed = true
  reading : s.pending ≠ [] → s.state = .opened
  outstanding : s.pending.Outstanding

namespace Consistent

variable {s t : Status}

/-- A stream that was just made knows nothing. -/
theorem made (seekable : Bool) : Consistent { seekable } where
  early _ := ⟨rfl, rfl, rfl, rfl, rfl, rfl⟩
  opened h := by cases h
  completed h := by cases h
  failedOpen h := by cases h
  reading h := absurd rfl h
  outstanding := .nil

/-- A teardown forgets what is pending and keeps the rest. -/
theorem torn (s : Status) : s.tornDown.Consistent where
  early h := by rcases h with h | h <;> cases h
  opened h := by cases h
  completed h := by cases h
  failedOpen h := by cases h
  reading h := absurd rfl h
  outstanding := .nil

/-- A change that leaves the state and the facets as they are. -/
theorem same (h : s.Consistent) (hState : t.state = s.state) (hFacets : t.facets = s.facets)
    (reading : t.pending ≠ [] → s.state = .opened) (outstanding : t.pending.Outstanding) :
    t.Consistent := by
  obtain ⟨hOpened, hCompleted, hLength, hMime, hHeaders, hCache, -⟩ := Facets.mk.inj hFacets
  constructor
  · rw [hState, hOpened, hCompleted]
    intro early
    obtain ⟨hNot, hNeither, hUnknown⟩ := h.early early
    refine ⟨hNot, hNeither, ?_⟩
    rwa [Unknown, hLength, hMime, hHeaders, hCache]
  · rw [hState, hOpened, hCompleted]
    exact h.opened
  · rw [hState, hOpened, hCompleted]
    exact h.completed
  · rw [hState, hOpened, hCompleted]
    exact h.failedOpen
  · rw [hState]
    exact reading
  · exact outstanding

/-- A change that does not concern reads either. -/
theorem unread (h : s.Consistent) (hState : t.state = s.state) (hFacets : t.facets = s.facets)
    (hPending : t.pending = s.pending) : t.Consistent :=
  h.same hState hFacets (fun some_ => h.reading (hPending ▸ some_)) (hPending ▸ h.outstanding)

/-- To take an event keeps the parts of a status together. -/
theorem take (h : s.Consistent) {event : Event} (takes : s.Takes event t) : t.Consistent := by
  have hNone (hState : s.state ≠ .opened) : s.pending = [] :=
    Decidable.byContradiction fun some_ => hState (h.reading some_)
  cases takes with
  | created state =>
    have hNone := hNone (by simp [state])
    exact ⟨fun _ => h.early (.inl state), by simp, by simp, by simp,
      fun some_ => absurd hNone some_, h.outstanding⟩
  | opened p state =>
    have hCompleted := (h.early (.inr state)).2.1
    exact ⟨by simp [applyOpened], fun _ => ⟨rfl, hCompleted⟩, by simp [applyOpened],
      by simp [applyOpened], fun _ => rfl, h.outstanding⟩
  | failedOpen p state =>
    exact ⟨by simp [applyFailedOpen], by simp [applyFailedOpen], by simp [applyFailedOpen],
      fun _ => ⟨rfl, rfl⟩, fun some_ => absurd rfl some_, .nil⟩
  | dataArrived p state =>
    exact h.same rfl rfl (fun _ => state) (h.outstanding.retire p)
  | completed p state =>
    have hOpened := (h.opened state).1
    exact ⟨by simp [applyCompleted], by simp [applyCompleted], fun _ => ⟨hOpened, rfl⟩,
      by simp [applyCompleted], fun some_ => absurd rfl some_, .nil⟩

end Consistent
end Status

namespace Life

variable {l m : Life} {configured : Bool}

/-- The events that a stream has accepted, in order: those for which it has started a pass. -/
def taken (l : Life) : List Event :=
  l.passes.map (·.1)

/-- How the facets follow from what the stream has accepted, where `configured` tells whether
it was made to be seekable. -/
structure Faceted (configured : Bool) (l : Life) : Prop where
  consistent : l.status.Consistent
  opened_iff : l.status.opened = true ↔ ∃ p, .opened p ∈ l.taken
  completed_iff : l.status.completed = true ↔
    ∃ event ∈ l.taken, event.kind = .completed ∨ event.kind = .failedOpen
  told : ∀ p, .opened p ∈ l.taken → l.status.Tells p configured
  untold : (∀ p, .opened p ∉ l.taken) → l.status.Unknown ∧ l.status.seekable = configured

/-- A pass adds its event to what the stream has accepted. -/
theorem taken_pass (t : Status) (event : Event) (standing : Standing) :
    taken ⟨t, .pass event standing :: l.deeds⟩ = l.taken ++ [event] := by
  simp [taken, passes, Deed.pass?]

namespace Faceted

theorem born (configured : Bool) : Faceted configured ⟨{ seekable := configured }, []⟩ where
  consistent := .made configured
  opened_iff := iff_of_false (by simp) (by simp [taken, passes])
  completed_iff := iff_of_false (by simp) (by simp [taken, passes])
  told p h := by simp [taken, passes] at h
  untold _ := ⟨⟨rfl, rfl, rfl, rfl⟩, rfl⟩

/-- Before it is opened, nothing that opens or ends a transfer was accepted. -/
theorem early (h : l.Faceted configured)
    (state : l.status.state = .created ∨ l.status.state = .opening) :
    (∀ p, .opened p ∉ l.taken) ∧
      ∀ event ∈ l.taken, ¬ (event.kind = .completed ∨ event.kind = .failedOpen) := by
  obtain ⟨hOpened, hCompleted, -⟩ := h.consistent.early state
  refine ⟨fun p hp => ?_, fun event hEvent hKind => ?_⟩
  · rw [h.opened_iff.2 ⟨p, hp⟩] at hOpened
    cases hOpened
  · rw [h.completed_iff.2 ⟨event, hEvent, hKind⟩] at hCompleted
    cases hCompleted

/-- What opens or ends no transfer leaves the facets as they are. -/
theorem same (h : l.Faceted configured) (consistent : m.status.Consistent)
    (hFacets : m.status.facets = l.status.facets)
    (hTaken : ∀ event, event.kind = .opened ∨ event.kind = .completed ∨ event.kind = .failedOpen →
      (event ∈ m.taken ↔ event ∈ l.taken)) : m.Faceted configured := by
  obtain ⟨hOpened, hCompleted, hLength, hMime, hHeaders, hCache, hSeekable⟩ :=
    Status.Facets.mk.inj hFacets
  have hOpening (p : Opened) : .opened p ∈ m.taken ↔ .opened p ∈ l.taken :=
    hTaken _ (.inl rfl)
  constructor
  · exact consistent
  · simp only [hOpened, hOpening]
    exact h.opened_iff
  · rw [hCompleted, h.completed_iff]
    exact exists_congr fun event =>
      and_congr_left fun hKind => (hTaken event (.inr hKind)).symm
  · intro p hp
    have hTold := h.told p ((hOpening p).1 hp)
    exact ⟨hLength.trans hTold.length, hMime.trans hTold.mimeType,
      hHeaders.trans hTold.headers, hCache.trans hTold.cacheFilename,
      hSeekable.trans hTold.seekable⟩
  · intro hNone
    rw [Status.Unknown, hLength, hMime, hHeaders, hCache, hSeekable]
    exact h.untold fun p hp => hNone p ((hOpening p).2 hp)

/-- An event sets the facets that it tells of. -/
theorem take (h : l.Faceted configured) {event : Event} {t : Status}
    (takes : l.status.Takes event t) (standing : Standing) :
    Faceted configured ⟨t, .pass event standing :: l.deeds⟩ := by
  have hTaken := taken_pass (l := l) t event standing
  have hConsistent : t.Consistent := h.consistent.take takes
  cases takes with
  | created state | dataArrived p state =>
    refine h.same hConsistent rfl fun event hKind => ?_
    rw [hTaken, List.mem_append, List.mem_singleton, or_iff_left]
    rintro rfl
    simp [Event.kind] at hKind
  | opened p state =>
    obtain ⟨hFirst, hNone⟩ := h.early (.inr state)
    have hSeekable := (h.untold hFirst).2
    constructor
    · exact hConsistent
    · exact iff_of_true rfl ⟨p, by simp [hTaken]⟩
    · rw [hTaken]
      have hNot : ¬ (∃ event ∈ l.taken, event.kind = .completed ∨ event.kind = .failedOpen) :=
        fun ⟨event, hEvent, hKind⟩ => hNone event hEvent hKind
      refine (h.completed_iff).trans (iff_of_false hNot ?_)
      rintro ⟨event, hEvent, hKind⟩
      rcases List.mem_append.1 hEvent with hOld | hNew
      · exact hNone event hOld hKind
      · rw [List.mem_singleton.1 hNew] at hKind
        simp [Event.kind] at hKind
    · intro q hq
      rw [hTaken] at hq
      rcases List.mem_append.1 hq with hOld | hNew
      · exact absurd hOld (hFirst q)
      · obtain rfl := Event.opened.inj (List.mem_singleton.1 hNew)
        exact ⟨rfl, rfl, rfl, rfl, by rw [← hSeekable]; rfl⟩
    · intro hNever
      exact absurd (by simp [hTaken]) (hNever p)
  | failedOpen p state =>
    obtain ⟨hFirst, -⟩ := h.early (.inr state)
    have hNever (q : Opened) : .opened q ∉ taken ⟨l.status.applyFailedOpen,
        .pass (.failedOpen p) standing :: l.deeds⟩ := by
      rw [hTaken]
      simpa using hFirst q
    constructor
    · exact hConsistent
    · exact iff_of_false (by simp [Status.applyFailedOpen]) fun ⟨q, hq⟩ => hNever q hq
    · exact iff_of_true rfl ⟨.failedOpen p, by simp [hTaken], .inr rfl⟩
    · exact fun q hq => absurd hq (hNever q)
    · exact fun _ => h.untold hFirst
  | completed p state =>
    have hOpening (q : Opened) : .opened q ∈ taken ⟨l.status.applyCompleted,
        .pass (.completed p) standing :: l.deeds⟩ ↔ .opened q ∈ l.taken := by
      rw [hTaken]
      simp
    constructor
    · exact hConsistent
    · simp only [hOpening]
      exact h.opened_iff
    · exact iff_of_true rfl ⟨.completed p, by simp [hTaken], .inl rfl⟩
    · intro q hq
      obtain ⟨hLength, hMime, hHeaders, hCache, hSeekable⟩ := h.told q ((hOpening q).1 hq)
      exact ⟨hLength, hMime, hHeaders, hCache, hSeekable⟩
    · exact fun hNever => h.untold fun q hq => hNever q ((hOpening q).2 hq)

/-- No move but an accepted event sets a facet. -/
theorem move (h : l.Faceted configured) (move : l.Move m) : m.Faceted configured := by
  cases move with
  | take takes => exact h.take takes _
  | tearDown =>
    refine h.same (.torn _) rfl fun event hKind => ?_
    rw [taken_pass, List.mem_append, List.mem_singleton, or_iff_left]
    rintro rfl
    simp [Event.kind] at hKind
  | read ranges usable _ some_ valid =>
    refine h.same ?_ rfl fun _ _ => Iff.rfl
    exact h.consistent.same rfl rfl (fun _ => (Status.state_of_usable usable).1)
      (h.consistent.outstanding.insert _ some_ valid)
  | unread request ranges =>
    refine h.same ?_ rfl fun _ _ => Iff.rfl
    refine h.consistent.same rfl rfl (fun some_ => h.consistent.reading fun hNone => some_ ?_)
      (h.consistent.outstanding.erase request)
    rw [Status.withdraw, hNone]
    rfl
  | _ => exact h.same (h.consistent.unread rfl rfl rfl) rfl fun _ _ => Iff.rfl

end Faceted
end Life

/-- What goes on may add to what is known of a stream, and takes nothing of it back. Once the
stream is torn down nothing is added. -/
structure Status.Retains (s t : Status) : Prop where
  opened : s.opened = true → t.opened = true
  completed : s.completed = true → t.completed = true
  known : s.opened = true → t.facets = { s.facets with completed := t.completed }
  torn : s.state = .destroyed → t.state = .destroyed ∧ t.facets = s.facets

namespace Status.Retains

variable {s t u : Status}

/-- Where no facet is set nothing is taken back. -/
theorem of_facets (h : t.facets = s.facets)
    (torn : s.state = .destroyed → t.state = .destroyed) : s.Retains t := by
  have hOpened : t.opened = s.opened := congrArg Facets.opened h
  have hCompleted : t.completed = s.completed := congrArg Facets.completed h
  refine ⟨fun opened => hOpened.trans opened, fun completed => hCompleted.trans completed,
    fun _ => ?_, fun hTorn => ⟨torn hTorn, h⟩⟩
  rw [h, hCompleted]
  rfl

theorem trans (first : s.Retains t) (second : t.Retains u) : s.Retains u where
  opened h := second.opened (first.opened h)
  completed h := second.completed (first.completed h)
  known h := by rw [second.known (first.opened h), first.known h]
  torn h := by
    obtain ⟨hTorn, hSame⟩ := first.torn h
    obtain ⟨hEnd, hSame'⟩ := second.torn hTorn
    exact ⟨hEnd, hSame'.trans hSame⟩

end Status.Retains

/-- A move that takes no event leaves the facets as they are. -/
theorem Life.Move.facets {l m : Life} (h : l.Move m) :
    m.status.facets = l.status.facets ∧
        (l.status.state = .destroyed → m.status.state = .destroyed) ∨
      ∃ event, l.status.Takes event m.status := by
  cases h with
  | take takes => exact .inr ⟨_, takes⟩
  | tearDown live => exact .inl ⟨rfl, fun _ => rfl⟩
  | _ => exact .inl ⟨rfl, id⟩

/-- A move takes no facet back. -/
theorem Life.Move.retains {l m : Life} {configured : Bool} (h : l.Move m)
    (faceted : l.Faceted configured) : l.status.Retains m.status := by
  rcases h.facets with ⟨hSame, hTorn⟩ | ⟨event, takes⟩
  · exact .of_facets hSame hTorn
  · have live (torn : l.status.state = .destroyed) : m.status.state = .destroyed :=
      absurd torn takes.state_ne
    generalize m.status = t at takes live
    cases takes with
    | created | dataArrived => exact .of_facets rfl live
    | completed p state =>
      exact ⟨id, fun _ => rfl, fun _ => rfl, fun torn => absurd torn (by simp [state])⟩
    | opened p state | failedOpen p state =>
      obtain ⟨hOpened, hCompleted, -⟩ := faceted.consistent.early (.inr state)
      refine ⟨fun h => ?_, fun h => ?_, fun h => ?_, fun torn => absurd torn (by simp [state])⟩
      · rw [hOpened] at h
        cases h
      · rw [hCompleted] at h
        cases h
      · rw [hOpened] at h
        cases h

/-- A stream stays configured as it was made. -/
theorem Step.config {look : System κ → κ.Note} {w v : System κ} (h : Step look w v) {r : StreamRef}
    (made : w.Has r) : (v.stream r).config = (w.stream r).config := by
  have hOld (s : Stream) : ({ w with streams := w.streams ++ [s] } : System κ).stream r =
      w.stream r :=
    (System.Grown.append w s).old made
  cases h with
  | quiet h =>
    rcases h.persists with hPersists | ⟨s, -, rfl⟩
    · exact hPersists.config r
    · exact congrArg Stream.config (hOld s)
  | firing h => exact h.persists.config r
  | enlist id config => exact congrArg Stream.config (hOld _)
  | dispatcher | dispatching => rfl

namespace System

/-- The facets of every stream follow from what it has accepted. -/
structure AllFaceted (w : System κ) : Prop where
  lived : w.AllLived
  faceted : ∀ r, w.Has r → (w.life r).Faceted (w.stream r).config.seekable

namespace AllFaceted

variable {w v : System κ}

theorem outset (client : κ.State) : ({ client } : System κ).AllFaceted :=
  ⟨.outset client, fun _ made => absurd made (Nat.not_lt_zero _)⟩

/-- The facets of all streams follow through each step. -/
theorem step {look : System κ → κ.Note} (hStep : Step look w v) (h : w.AllFaceted) :
    v.AllFaceted := by
  refine ⟨h.lived.step hStep, fun r made => ?_⟩
  by_cases old : w.Has r
  · rw [hStep.config old]
    rcases hStep.life old with hSame | hMove
    · rw [hSame]
      exact h.faceted r old
    · exact (h.faceted r old).move hMove
  · rcases hStep.moves with hMoves | ⟨s, hMade, rfl⟩
    · exact absurd ((hMoves r).1.1 made) old
    · have hGrown := Grown.append w s
      have hNew := ((hGrown.has r).1 made).resolve_left old
      have hLife : ({ w with streams := w.streams ++ [s] } : System κ).life r =
          ⟨{ seekable := s.config.seekable }, []⟩ := by
        rw [life, status, hGrown.new hNew, hMade, ← (h.lived r).2 old]
        rfl
      rw [hLife, hGrown.new hNew]
      exact .born _

end AllFaceted
end System

/-- No stream opens twice. -/
theorem Course.count_opened_le {l : List EventKind} {s : StreamState} (h : Course l s) :
    l.count .opened ≤ 1 := by
  induction h with
  | made => simp
  | opened h => simp [h.eq_created]
  | destroyed _ _ ih => simpa using ih
  | _ _ ih => simpa using ih

/-- Nothing is known of a stream that was never made. -/
theorem Life.Faceted.absent : Life.Faceted false ⟨Stream.absent.status, []⟩ where
  consistent := .torn { seekable := false }
  opened_iff := iff_of_false (by decide) (by simp [taken, passes])
  completed_iff := iff_of_false (by decide) (by simp [taken, passes])
  told p h := by simp [taken, passes] at h
  untold _ := ⟨⟨rfl, rfl, rfl, rfl⟩, rfl⟩

namespace System

variable {w v : System κ}

/-- The facets of a stream that was never made are those of the outset. -/
theorem AllFaceted.life (h : w.AllFaceted) (r : StreamRef) :
    (w.life r).Faceted (w.stream r).config.seekable := by
  by_cases made : w.Has r
  · exact h.faceted r made
  · have hLife : w.life r = ⟨Stream.absent.status, []⟩ := by
      rw [← (h.lived r).2 made, System.life, status, stream_of_not_has made]
    rw [hLife, stream_of_not_has made]
    exact .absent

/-- A stream accepts at most one opening. -/
theorem AllFaceted.opened_once (h : w.AllFaceted) (r : StreamRef) :
    ((w.life r).taken.map Event.kind).count .opened ≤ 1 := by
  by_cases made : w.Has r
  · have hCourse := ((h.lived r).1 made).coursed.course
    rw [Life.taken, List.map_map]
    exact hCourse.count_opened_le
  · simp [Life.taken, Life.passes, (h.lived r).2 made]

/-- What is known of a stream is not taken back, and it stays configured as it was. -/
def Retains (w v : System κ) : Prop :=
  ∀ r, w.Has r → v.Has r ∧ (v.stream r).config = (w.stream r).config ∧
    (w.status r).Retains (v.status r)

theorem Retains.refl (w : System κ) : w.Retains w :=
  fun _ made => ⟨made, rfl, .of_facets rfl id⟩

theorem Retains.trans {u v w : System κ} (first : u.Retains v) (second : v.Retains w) :
    u.Retains w := by
  intro r made
  obtain ⟨hHas, hConfig, hRetains⟩ := first r made
  obtain ⟨hHas', hConfig', hRetains'⟩ := second r hHas
  exact ⟨hHas', hConfig'.trans hConfig, hRetains.trans hRetains'⟩

/-- A step takes back nothing that is known of a stream. -/
theorem AllFaceted.retains {look : System κ → κ.Note} (hStep : Step look w v)
    (h : w.AllFaceted) : w.Retains v := by
  intro r made
  refine ⟨Nat.lt_of_lt_of_le made hStep.grows, hStep.config made, ?_⟩
  rcases hStep.life made with hSame | hMove
  · have hStatus : v.status r = w.status r := congrArg Life.status hSame
    exact .of_facets (congrArg _ hStatus) fun torn => hStatus ▸ torn
  · exact hMove.retains (h.faceted r made)

/-- The stream is torn down, and its facets are these. -/
structure Rests (w : System κ) (r : StreamRef) (facets : Status.Facets) : Prop where
  has : w.Has r
  torn : (w.status r).state = .destroyed
  facets : (w.status r).facets = facets

/-- A stream that is torn down stays so, with its facets. -/
theorem Rests.step {look : System κ → κ.Note} {r : StreamRef} {facets : Status.Facets}
    (hStep : Step look w v) (h : w.Rests r facets) : v.Rests r facets := by
  have made : v.Has r := Nat.lt_of_lt_of_le h.has hStep.grows
  rcases hStep.life h.has with hSame | hMove
  · have hStatus : v.status r = w.status r := congrArg Life.status hSame
    exact ⟨made, hStatus ▸ h.torn, hStatus ▸ h.facets⟩
  · rcases hMove.facets with ⟨hFacets, hTorn⟩ | ⟨event, takes⟩
    · exact ⟨made, hTorn h.torn, hFacets.trans h.facets⟩
    · exact absurd h.torn takes.state_ne

/-- The facets at the start of the teardown are those before it. -/
theorem rests_tearing {r : StreamRef} (made : w.Has r) :
    (w.tearing r).Rests r (w.status r).facets := by
  have hStatus : (w.tearing r).status r = (w.status r).tornDown := by
    rw [tearing, status_record, status_updateStatus, if_pos ⟨rfl, made⟩]
  exact ⟨(w.has_updateStatus r r _).2 made, hStatus ▸ rfl, hStatus ▸ rfl⟩

end System

/-- A teardown changes nothing of what is known of the stream. -/
theorem StreamRef.facets_destroy {look : System κ → κ.Note} {manners : Surroundings κ → Prop}
    {env : Surroundings κ} (serves : env.Serves look manners) (r : StreamRef) (w : System κ) :
    (((r.destroy env).left w).status r).facets = (w.status r).facets := by
  by_cases torn : (w.status r).state = .destroyed
  · rw [System.left_destroy_of_torn torn]
  · have hWithin : env.Within (Steps look) :=
      ((Steps.unconcerned look manners).sustained.serves serves).2
    have hSteps : Steps look (w.tearing r) ((r.destroy env).left w) :=
      (Steps.steady look).related_destroy hWithin (fun h => .single (.firing h)) torn
    exact (hSteps.preserve (P := (System.Rests · r (w.status r).facets)) System.Rests.step
      (System.rests_tearing (System.has_of_state_ne torn))).facets

/-- At every moment of every run, at any depth of calls inside calls, the facets of every
stream go with its state and tell what it has accepted, of which there is one opening at most.
They are not taken back between any two moments, and no teardown changes them. -/
theorem facets_told :
    (Always (κ := κ) Surroundings.any fun w => ∀ r,
      (w.life r).Faceted (w.stream r).config.seekable ∧
        ((w.life r).taken.map Event.kind).count .opened ≤ 1) ∧
    Lasting (κ := κ) Surroundings.any System.Retains ∧
    ∀ (look : System κ → κ.Note) (env : Surroundings κ), env.Serves look Surroundings.any →
      ∀ (r : StreamRef) (w : System κ),
        (((r.destroy env).left w).status r).facets = (w.status r).facets := by
  have hAlways : Always (κ := κ) Surroundings.any System.AllFaceted :=
    .of_step System.AllFaceted.outset System.AllFaceted.step
  refine ⟨hAlways.mono fun w h r => ⟨h.life r, h.opened_once r⟩, ?_, ?_⟩
  · exact .of_step System.AllFaceted.outset System.AllFaceted.step System.Retains.refl
      System.Retains.trans System.AllFaceted.retains
  · exact fun look env serves r w => r.facets_destroy serves w

/-- A stream with a sink that tears it down once it is opened. -/
def hurried : List ((α : Type) × Call Client.plain α) :=
  [⟨_, .makeSink⟩, ⟨_, .makeStream (.drawn 0) { url := "" } false⟩, ⟨_, .attach ⟨0⟩ ⟨0⟩⟩,
    ⟨_, .start ⟨0⟩⟩, ⟨_, .receive ⟨0⟩ (.opened { length := some 5, seekable := some true })⟩,
    ⟨_, .receive ⟨0⟩ (.completed ⟨true⟩)⟩]

theorem facets_told_hurried :
    ((Surroundings.hasty.played hurried).status ⟨0⟩).state = .destroyed ∧
    ((Surroundings.hasty.played hurried).status ⟨0⟩).facets =
      ⟨true, false, some 5, none, none, none, true⟩ ∧
    ((Surroundings.hasty.played hurried).life ⟨0⟩).Faceted
      ((Surroundings.hasty.played hurried).stream ⟨0⟩).config.seekable ∧
    ((((⟨0⟩ : StreamRef).destroy Surroundings.hasty).left
      (Surroundings.obliging.played hurried)).status ⟨0⟩).facets =
        ((Surroundings.obliging.played hurried).status ⟨0⟩).facets :=
  have hServes : Surroundings.hasty.Serves (fun _ => ()) Surroundings.any :=
    Surroundings.serves_hasty trivial trivial
  ⟨by decide +kernel, by decide +kernel,
    (facets_told.1 _ _ (Surroundings.reached_played hServes hurried)).1 ⟨0⟩ |>.1,
    facets_told.2.2 _ _ hServes ⟨0⟩ _⟩

end HostedStreams
