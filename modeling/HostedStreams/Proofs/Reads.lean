import HostedStreams.Proofs.Lives
import HostedStreams.Proofs.Remainders

/-! Reads over the life of a stream. What a stream still owes to a read follows from its
deeds alone: the bytes that were asked for, less those that came since. As long as
numbers are not given twice, the pending reads are those to which something is owed, and
what is kept of each are the largest intervals that hold nothing else. Which chunks come is
up to the host; which of them count is up to the stream, and it takes every one that it is
handed while it is opened and not closing. -/
namespace HostedStreams

variable {κ : Client}

open PendingReads (answers brought consumeAll)

/-- Numbers go up by one until there are no more. -/
theorem RequestId.toNat_next (id : RequestId) :
    id.next.number.toNat = min (id.number.toNat + 1) (UInt64.size - 1) := by
  have hSize : UInt64.size = 18446744073709551616 := rfl
  have hBound := id.number.toNat_lt
  have hMax : (0xffffffffffffffff : UInt64).toNat = UInt64.size - 1 := rfl
  unfold next
  split
  · rename_i hLast
    rw [hLast, hMax]
    omega
  · rename_i hMore
    have hLess : id.number.toNat ≠ UInt64.size - 1 := fun he =>
      hMore (UInt64.toNat_inj.1 (he.trans hMax.symm))
    rw [UInt64.toNat_add, UInt64.toNat_one]
    omega

/-- The read that is asked for. -/
def Deed.request? : Deed → Option RequestId
  | .asked (.requestRanges request _) => some request
  | _ => none

/-- The chunk that was accepted. -/
def Deed.chunk? : Deed → Option DataArrived
  | .pass (.dataArrived p) _ => some p
  | _ => none

/-- A chunk is accepted as the stream fires it. -/
theorem Deed.chunk?_eq_some {deed : Deed} {p : DataArrived} :
    deed.chunk? = some p ↔ ∃ standing, deed = .pass (.dataArrived p) standing := by
  cases deed with
  | pass event standing => cases event <;> simp [chunk?]
  | _ => simp [chunk?]

/-- The bytes that are owed to each read after the deeds, of which the latest comes first. -/
def owed : List Deed → RequestId → Set Nat
  | [] => fun _ => ∅
  | .asked (.requestRanges request ranges) :: before =>
    Function.update (owed before) request (Range.allBytes ranges)
  | .answered (.requestRanges request _) false :: before =>
    Function.update (owed before) request ∅
  | .pass (.dataArrived p) _ :: before => fun id =>
    if answers p id then owed before id \ p.bytes else owed before id
  | _ :: before => owed before

namespace Life

/-- The numbers of the reads that the stream has asked for, the latest first. -/
def requests (l : Life) : List RequestId :=
  l.deeds.filterMap Deed.request?

/-- How pending reads and the next number follow from what the stream did. -/
structure Settled (l : Life) : Prop where
  /-- Only an opened stream has pending reads. -/
  closed : l.status.state ≠ .opened → l.status.pending = []
  /-- Before it is opened, a stream owes nothing. -/
  early : l.status.state = .created ∨ l.status.state = .opening → ∀ id, owed l.deeds id = ∅
  next : l.status.nextRequest.number.toNat = min (l.requests.length + 1) (UInt64.size - 1)
  bounded : ∀ id ∈ l.requests, id.number.toNat ≤ l.requests.length
  /-- No number is given twice as long as there are enough of them. -/
  distinct : l.requests.length < UInt64.size → l.requests.Nodup
  listed : ∀ id ∈ l.status.pending.ids, id ∈ l.requests
  accounts : l.requests.length < UInt64.size → l.status.state = .opened →
    l.status.pending.Accounts (owed l.deeds)

namespace Settled

variable {l m : Life}

/-- Nothing is owed at the outset. -/
theorem born (seekable : Bool) : Settled ⟨{ seekable }, []⟩ where
  closed _ := rfl
  early _ _ := rfl
  next := rfl
  bounded _ h := absurd h List.not_mem_nil
  distinct _ := List.nodup_nil
  listed _ h := absurd h List.not_mem_nil
  accounts _ h := by cases h

/-- A move that has nothing to do with reads and leaves the state alone. -/
theorem same (h : l.Settled) (hState : m.status.state = l.status.state)
    (hPending : m.status.pending = l.status.pending)
    (hNext : m.status.nextRequest = l.status.nextRequest) (hOwed : owed m.deeds = owed l.deeds)
    (hRequests : m.requests = l.requests) : m.Settled := by
  constructor
  · rw [hState, hPending]
    exact h.closed
  · rw [hState, hOwed]
    exact h.early
  · rw [hNext, hRequests]
    exact h.next
  · rw [hRequests]
    exact h.bounded
  · rw [hRequests]
    exact h.distinct
  · rw [hPending, hRequests]
    exact h.listed
  · rw [hRequests, hState, hPending, hOwed]
    exact h.accounts

/-- A move into a state in which nothing is read any more. -/
theorem ended (h : l.Settled) (hState : m.status.state ∉ [.created, .opening, .opened])
    (hPending : m.status.pending = [])
    (hNext : m.status.nextRequest = l.status.nextRequest)
    (hRequests : m.requests = l.requests) : m.Settled := by
  simp only [List.mem_cons, List.not_mem_nil, or_false, not_or] at hState
  constructor
  · exact fun _ => hPending
  · intro hEarly
    exact absurd hEarly (not_or.2 ⟨hState.1, hState.2.1⟩)
  · rw [hNext, hRequests]
    exact h.next
  · rw [hRequests]
    exact h.bounded
  · rw [hRequests]
    exact h.distinct
  · rw [hPending]
    exact fun id hId => absurd hId List.not_mem_nil
  · exact fun _ hOpened => absurd hOpened hState.2.2

/-- A chunk pays what it brings, and an end of the transfer settles everything. -/
theorem take (h : l.Settled) {event : Event} {t : Status} (takes : l.status.Takes event t) :
    Settled ⟨t, .pass event (.state t.state) :: l.deeds⟩ := by
  cases takes with
  | created state =>
    have hNone : l.status.pending = [] := h.closed (by simp [state])
    constructor
    · exact fun _ => hNone
    · exact fun _ => h.early (.inl state)
    · exact h.next
    · exact h.bounded
    · exact h.distinct
    · exact h.listed
    · intro _ hOpened
      cases hOpened
  | opened p state =>
    have hNone : l.status.pending = [] := h.closed (by simp [state])
    constructor
    · exact fun hNot => absurd rfl hNot
    · intro hEarly
      simp [Status.applyOpened] at hEarly
    · exact h.next
    · exact h.bounded
    · exact h.distinct
    · exact h.listed
    · intro _ _
      have hOwed : owed l.deeds = fun _ => ∅ := funext (h.early (.inr state))
      change (l.status.pending).Accounts (owed l.deeds)
      rw [hNone, hOwed]
      exact .nil
  | failedOpen p state => exact h.ended (by simp [Status.applyFailedOpen]) rfl rfl rfl
  | dataArrived p state =>
    constructor
    · exact fun hNot => absurd state hNot
    · intro hEarly
      rcases hEarly with hEarly | hEarly <;> · rw [state] at hEarly; cases hEarly
    · exact h.next
    · exact h.bounded
    · exact h.distinct
    · intro id hId
      exact h.listed id (PendingReads.ids_retire hId)
    · exact fun hFew hOpened => (h.accounts hFew hOpened).retire p
  | completed p state => exact h.ended (by simp [Status.applyCompleted]) rfl rfl rfl

/-- A read owes what it asks for, under a number of its own. -/
theorem read (h : l.Settled) {ranges : List Range} (usable : l.status.usable = true)
    (some_ : ranges ≠ []) (valid : ∀ range ∈ ranges, range.valid = true) :
    Settled ⟨l.status.register ranges,
      .asked (.requestRanges l.status.nextRequest ranges) :: l.deeds⟩ := by
  obtain ⟨state, -⟩ := Status.state_of_usable usable
  have hLength : (requests ⟨l.status.register ranges,
      .asked (.requestRanges l.status.nextRequest ranges) :: l.deeds⟩).length =
      l.requests.length + 1 := rfl
  have hNext := h.next
  have hSize : UInt64.size = 18446744073709551616 := rfl
  -- The new number is larger than all before, if there is one left.
  have hLarger {id : RequestId} (hFew : l.requests.length + 1 < UInt64.size)
      (hId : id ∈ l.requests) :
      id.number.toNat < l.status.nextRequest.number.toNat := by
    have hBound := h.bounded id hId
    omega
  constructor
  · exact fun hNot => absurd state hNot
  · intro hEarly
    rcases hEarly with hEarly | hEarly <;> · rw [Status.register, state] at hEarly; cases hEarly
  · rw [hLength, Status.register, RequestId.toNat_next, hNext]
    omega
  · intro id hId
    rw [hLength]
    rcases List.mem_cons.1 hId with rfl | hOld
    · omega
    · exact Nat.le_succ_of_le (h.bounded id hOld)
  · rw [hLength]
    refine fun hFew => List.nodup_cons.2 ⟨fun hOld => ?_, h.distinct (by omega)⟩
    exact absurd (hLarger hFew hOld) (Nat.lt_irrefl _)
  · intro id hId
    rcases PendingReads.ids_insert hId with rfl | hOld
    · exact List.mem_cons_self
    · exact List.mem_cons_of_mem _ (h.listed id hOld)
  · rw [hLength]
    refine fun hFew hOpened => (h.accounts (by omega) state).insert some_ valid fun id hId => ?_
    exact UInt64.lt_iff_toNat_lt.2 (hLarger hFew (h.listed id hId))

/-- A read that the host refuses owes nothing. -/
theorem unread (h : l.Settled) (request : RequestId) (ranges : List Range) :
    Settled ⟨l.status.withdraw request,
      .answered (.requestRanges request ranges) false :: l.deeds⟩ := by
  constructor
  · intro hNot
    change l.status.pending.erase request = []
    rw [h.closed hNot]
    rfl
  · intro hEarly id
    change Function.update (owed l.deeds) request ∅ id = ∅
    by_cases hId : id = request
    · rw [hId, Function.update_self]
    · rw [Function.update_of_ne hId, h.early hEarly]
  · exact h.next
  · exact h.bounded
  · exact h.distinct
  · intro id hId
    obtain ⟨left, hLeft⟩ := PendingReads.mem_ids.1 hId
    exact h.listed id (PendingReads.mem_ids.2 ⟨left, (List.mem_filter.1 hLeft).1⟩)
  · exact fun hFew hOpened => (h.accounts hFew hOpened).erase request

/-- A move leaves accounts settled. -/
theorem move (h : l.Settled) (move : l.Move m) : m.Settled := by
  cases move with
  | take takes => exact h.take takes
  | tearDown => exact h.ended (by simp [Status.tornDown]) rfl rfl rfl
  | read ranges usable _ some_ valid => exact h.read usable some_ valid
  | unread request ranges => exact h.unread request ranges
  | answer call served kept =>
    refine h.same rfl rfl rfl ?_ rfl
    cases call with
    | requestRanges request ranges => rw [kept request ranges rfl]; rfl
    | _ => rfl
  | _ => exact h.same rfl rfl rfl rfl rfl

end Settled

/-- The accounts of every life are settled. -/
theorem Lived.settled {l : Life} (h : l.Lived) : l.Settled := by
  induction h with
  | born seekable => exact .born seekable
  | move _ move ih => exact ih.move move

/-- Of each read that is pending, what the chunks since have left of the ranges that were asked for
is kept. -/
def Mindful (l : Life) : Prop :=
  ∀ id left, (id, left) ∈ l.status.pending → ∃ after before ranges,
    l.deeds = after ++ .asked (.requestRanges id ranges) :: before ∧
    (∀ range ∈ ranges, range.valid = true) ∧
    left = consumeAll (brought id (after.filterMap Deed.chunk?).reverse) ranges

namespace Mindful

variable {l m : Life}

/-- Nothing has to be kept in mind where nothing is pending. -/
theorem of_nil (h : m.status.pending = []) : m.Mindful := by
  intro id left hLeft
  rw [h] at hLeft
  cases hLeft

/-- A move by which no chunk comes and no read is made. -/
theorem same (h : l.Mindful) (fewer : m.status.pending ⊆ l.status.pending) (deeds : List Deed)
    (hDeeds : m.deeds = deeds ++ l.deeds) (noChunk : deeds.filterMap Deed.chunk? = []) :
    m.Mindful := by
  intro id left hLeft
  obtain ⟨after, before, ranges, hLine, hValid, hKept⟩ := h id left (fewer hLeft)
  refine ⟨deeds ++ after, before, ranges, ?_, hValid, ?_⟩
  · rw [hDeeds, hLine, List.append_assoc]
  · rw [List.filterMap_append, noChunk, List.nil_append]
    exact hKept

/-- A chunk takes its bytes out of what is left. -/
theorem arrival (h : l.Mindful) (p : DataArrived) (standing : Standing) :
    Mindful ⟨{ l.status with pending := l.status.pending.retire p },
      .pass (.dataArrived p) standing :: l.deeds⟩ := by
  intro id rest hRest
  obtain ⟨left, hLeft, rfl⟩ := PendingReads.of_mem_retire hRest
  obtain ⟨after, before, ranges, hLine, hValid, rfl⟩ := h id left hLeft
  refine ⟨.pass (.dataArrived p) standing :: after, before, ranges, ?_, hValid, ?_⟩
  · rw [List.cons_append, ← hLine]
  · rw [← PendingReads.consumeAll_append, ← PendingReads.brought_append, ← List.reverse_cons]
    rfl

/-- Of a read that was just made everything is left. -/
theorem read (h : l.Mindful) {ranges : List Range} (valid : ∀ range ∈ ranges, range.valid = true) :
    Mindful ⟨l.status.register ranges,
      .asked (.requestRanges l.status.nextRequest ranges) :: l.deeds⟩ := by
  intro id left hLeft
  rcases PendingReads.mem_insert hLeft with ⟨rfl, rfl⟩ | hOld
  · exact ⟨[], l.deeds, left, rfl, valid, rfl⟩
  · obtain ⟨after, before, others, hLine, hValid, hKept⟩ := h id left hOld
    exact ⟨.asked (.requestRanges l.status.nextRequest ranges) :: after, before, others,
      by rw [List.cons_append, ← hLine], hValid, hKept⟩

/-- An event that is taken is a chunk, leaves what is pending alone, or puts an end to it. -/
theorem take (h : l.Mindful) {event : Event} {t : Status} (takes : l.status.Takes event t)
    (standing : Standing) : Mindful ⟨t, .pass event standing :: l.deeds⟩ := by
  cases takes with
  | created => exact h.same (List.Subset.refl _) [_] rfl rfl
  | opened => exact h.same (List.Subset.refl _) [_] rfl rfl
  | dataArrived p => exact h.arrival p standing
  | failedOpen | completed => exact .of_nil rfl

/-- A move minds what is pending. -/
theorem move (h : l.Mindful) (move : l.Move m) : m.Mindful := by
  cases move with
  | take takes => exact h.take takes _
  | tearDown => exact .of_nil rfl
  | read ranges _ _ _ valid => exact h.read valid
  | unread request => exact h.same (List.filter_subset_self _) [_] rfl rfl
  | closing => exact h.same (List.Subset.refl _) [] rfl rfl
  | _ => exact h.same (List.Subset.refl _) [_] rfl rfl

end Mindful

/-- Every life minds what is pending. -/
theorem Lived.mindful {l : Life} (h : l.Lived) : l.Mindful := by
  induction h with
  | born => exact .of_nil rfl
  | move _ move ih => exact ih.move move

end Life

/-- What is still owed to a read that was not refused: the bytes that were asked for and
that no chunk since has brought which answers the read. -/
theorem mem_owed {after before : List Deed} {request : RequestId} {ranges : List Range} {b : Nat}
    (hOnce : request ∉ after.filterMap Deed.request?)
    (hServed : ∀ others, .answered (.requestRanges request others) false ∉ after) :
    b ∈ owed (after ++ .asked (.requestRanges request ranges) :: before) request ↔
      b ∈ Range.allBytes ranges ∧
        ∀ p standing, .pass (.dataArrived p) standing ∈ after →
          answers p request = true → b ∉ p.bytes := by
  induction after with
  | nil => simp [owed]
  | cons deed rest ih =>
    have ih := ih (fun hMem => hOnce (List.mem_filterMap.2
      ((List.mem_filterMap.1 hMem).imp fun _ h => ⟨List.mem_cons_of_mem _ h.1, h.2⟩)))
      fun others hMem => hServed others (List.mem_cons_of_mem _ hMem)
    simp only [List.cons_append, List.mem_cons, or_imp, forall_and]
    cases deed with
    | pass event standing =>
      cases event with
      | dataArrived p =>
        by_cases hAnswers : answers p request = true
        · simp [owed, hAnswers, ih]
          tauto
        · simp [owed, hAnswers, ih]
      | _ => simpa [owed] using ih
    | asked call =>
      cases call with
      | requestRanges other others =>
        have hOther : request ≠ other := by
          rintro rfl
          exact hOnce List.mem_cons_self
        simpa [owed, Function.update_of_ne hOther] using ih
      | _ => simpa [owed] using ih
    | answered call served =>
      cases call with
      | requestRanges other others =>
        cases served with
        | false =>
          have hOther : request ≠ other := by
            rintro rfl
            exact hServed others List.mem_cons_self
          simpa [owed, Function.update_of_ne hOther] using ih
        | true => simpa [owed] using ih
      | _ => simpa [owed] using ih

/-- The chunks that the stream has accepted: those for which it has started a pass. -/
def chunks {Note : Type} (r : StreamRef) (entries : List (Entry Note)) : List DataArrived :=
  entries.filterMap fun
    | .pass o (.dataArrived p) _ => if o = .stream r then some p else none
    | _ => none

namespace System

/-- The numbers of the reads that the stream has asked the host for, in order. -/
def requests (w : System κ) (r : StreamRef) : List RequestId :=
  w.journal.filterMap fun
    | @Entry.hostCall _ _ (.requestRanges request _) q => if q = r then some request else none
    | _ => none

/-- What is promised of a stream's pending reads. -/
structure Reckons (w : System κ) (r : StreamRef) : Prop where
  /-- Only an opened stream has any. -/
  closed : (w.status r).state ≠ .opened → (w.status r).pending = []
  /-- A read that was asked for and not refused is pending exactly as long as one of the
  bytes that it named is missing in all chunks that the stream has accepted since and that
  name this read or none. -/
  opened : (w.status r).state = .opened → (w.requests r).length < UInt64.size →
    ∀ before after id request ranges,
      w.journal = before ++ @Entry.hostCall _ id (.requestRanges request ranges) r :: after →
      (∀ id others, @Entry.hostAnswer _ id (.requestRanges request others) false r ∉ after) →
      (request ∈ (w.status r).pending.ids ↔ ∃ b ∈ Range.allBytes ranges,
        ∀ p ∈ chunks r after, p.request = none ∨ p.request = some request → b ∉ p.bytes)
  /-- What is kept of a pending read are the maximal intervals, in ascending order, of each
  range that was asked for, in the order of the request, that those chunks have not covered. -/
  kept : ∀ request left, (request, left) ∈ (w.status r).pending →
    ∃ before after id ranges,
      w.journal = before ++ @Entry.hostCall _ id (.requestRanges request ranges) r :: after ∧
      ∃ parts : List (List Range), left = parts.flatten ∧
        List.Forall₂ (fun range => Range.Stretches
          (range.bytes \ Range.allBytes (brought request (chunks r after)))) ranges parts
  /-- A chunk that is handed to the stream while it is opened and not closing is accepted,
  before anything else happens, whichever read it names. -/
  accepted : (w.status r).state = .opened → (w.status r).closing = false →
    ∀ look manners env, env.Serves look manners → ∀ p, ∃ later,
      chunks r ((r.receive env (.dataArrived p)).left w).journal =
        chunks r w.journal ++ p :: later
  /-- Any other chunk is not, and has no effect. -/
  ignored : (w.status r).state ≠ .opened ∨ (w.status r).closing = true → ∀ env p,
    (r.receive env (.dataArrived p)).on w = (.ok false, w)

/-- The requests can be read off the deeds. -/
theorem requests_eq (w : System κ) (r : StreamRef) :
    w.requests r = (w.life r).requests.reverse := by
  simp only [requests, Life.requests, life, journal, List.filterMap_reverse,
    List.filterMap_filterMap]
  congr 2
  funext e
  cases e with
  | hostCall id call => cases call <;> simp only [Entry.deed?] <;> split <;> rfl
  | _ => simp only [Entry.deed?, Option.bind_none] <;> split <;> rfl

end System

/-- The chunks can be read off the deeds. -/
theorem chunks_eq {Note : Type} (r : StreamRef) (entries : List (Entry Note)) :
    chunks r entries = (entries.filterMap (·.deed? r)).filterMap Deed.chunk? := by
  rw [chunks, List.filterMap_filterMap]
  congr 1
  funext e
  cases e with
  | pass o event standing => cases event <;> simp only [Entry.deed?] <;> split <;> rfl
  | _ => simp only [Entry.deed?, Option.bind_none] <;> split <;> rfl

/-- A chunk that was accepted is among the deeds. -/
theorem mem_chunks {Note : Type} {r : StreamRef} {entries : List (Entry Note)} {p : DataArrived} :
    p ∈ chunks r entries ↔
      ∃ standing, .pass (.dataArrived p) standing ∈ entries.filterMap (·.deed? r) := by
  rw [chunks_eq, List.mem_filterMap]
  constructor
  · rintro ⟨deed, hDeed, hChunk⟩
    obtain ⟨standing, rfl⟩ := Deed.chunk?_eq_some.1 hChunk
    exact ⟨standing, hDeed⟩
  · rintro ⟨standing, hDeed⟩
    exact ⟨_, hDeed, rfl⟩

/-- Chunks of entries in a row come in a row. -/
theorem chunks_append {Note : Type} (r : StreamRef) (entries later : List (Entry Note)) :
    chunks r (entries ++ later) = chunks r entries ++ chunks r later :=
  List.filterMap_append

/-- A chunk is taken exactly where the stream is opened and not closing. -/
theorem Status.react_dataArrived (s : Status) (p : DataArrived) :
    s.react (.dataArrived p) =
      if s.state = .opened ∧ s.closing = false then
        ({ s with pending := s.pending.retire p }, .fire (.dataArrived p))
      else (s, .ignore) := by
  have hEvent : Event.dataArrived p ≠ .destroyed := by simp
  cases hState : s.state <;> cases hClosing : s.closing <;>
    simp [react, isClosing, hState, hClosing, hEvent]

/-- The system in which the pass of a chunk has begun, whose bytes were taken out of the pending
reads. -/
def System.takingChunk (w : System κ) (r : StreamRef) (p : DataArrived) : System κ :=
  (w.updateStatus r fun s => { s with pending := s.pending.retire p }).record
    (.pass (.stream r) (.dataArrived p) (.state .opened))

/-- The chunk is the last one that was accepted. -/
theorem System.chunks_takingChunk (w : System κ) (r : StreamRef) (p : DataArrived) :
    chunks r (w.takingChunk r p).journal = chunks r w.journal ++ [p] := by
  have hJournal : (w.takingChunk r p).journal =
      w.journal ++ [.pass (.stream r) (.dataArrived p) (.state .opened)] :=
    List.reverse_cons
  rw [hJournal, chunks_append]
  simp [chunks]

namespace StreamRef

variable {look : System κ → κ.Note} {manners : Surroundings κ → Prop} {env : Surroundings κ}
  {r : StreamRef} {w : System κ}

/-- A chunk that is accepted is taken out of the pending reads and then fired. -/
theorem on_receive_of_accepted (env : Surroundings κ) (opened : (w.status r).state = .opened)
    (free : (w.status r).closing = false) (p : DataArrived) :
    (r.receive env (.dataArrived p)).on w = (fire env (.stream r) (.dataArrived p)).on
      (w.updateStatus r fun s => { s with pending := s.pending.retire p }) := by
  rw [System.on_receive_of_due rfl, apply, Act.on_get_bind, Status.react_dataArrived,
    if_pos ⟨opened, free⟩, Act.on_modify_bind]
  exact congrArg _ (System.updateStream_congr rfl)

/-- All that comes of a chunk that is accepted comes after its pass has begun. -/
theorem chunks_receive_of_accepted (serves : env.Serves look manners)
    (opened : (w.status r).state = .opened) (free : (w.status r).closing = false)
    (p : DataArrived) : ∃ later,
      chunks r ((r.receive env (.dataArrived p)).left w).journal =
        chunks r w.journal ++ p :: later := by
  have hWithin : env.Within (Steps look) :=
    ((Steps.unconcerned look manners).sustained.serves serves).2
  have made : w.Has r := System.has_of_state_ne (by rw [opened]; simp)
  have hSteps : Steps look (w.takingChunk r p) ((r.receive env (.dataArrived p)).left w) := by
    rw [Act.left, on_receive_of_accepted env opened free]
    refine (Steps.steady look).smooth.related_fire hWithin.deliver
      (fun a alive attached kept =>
        .single (.firing (.hand (.stream r) (.dataArrived p) a alive attached kept)))
      (fun _ => .single (.firing (.prune (.stream r)))) ?_
    rw [System.standing_updateStatus made, opened]
    exact .refl
  obtain ⟨entries, hPast⟩ := hSteps.past
  refine ⟨chunks r entries.reverse, ?_⟩
  rw [System.journal, ← hPast, List.reverse_append, chunks_append, ← System.journal,
    System.chunks_takingChunk, List.append_assoc, List.singleton_append]

/-- A chunk that is not accepted has no effect. -/
theorem on_receive_of_unaccepted (env : Surroundings κ)
    (barred : (w.status r).state ≠ .opened ∨ (w.status r).closing = true) (p : DataArrived) :
    (r.receive env (.dataArrived p)).on w = (.ok false, w) := by
  rw [System.on_receive_of_due rfl]
  refine System.on_apply_of_ignored ?_
  rw [Status.react_dataArrived,
    if_neg fun h => barred.elim (· h.1) fun closing => by simp [h.2] at closing]

end StreamRef

namespace System

variable {w : System κ} {r : StreamRef}

/-- What is kept of a pending read follows from what happened since the host was asked. -/
theorem kept_of_lived (h : (w.life r).Lived) {request : RequestId} {left : List Range}
    (hLeft : (request, left) ∈ (w.status r).pending) : ∃ before after id ranges,
      w.journal = before ++ @Entry.hostCall _ id (.requestRanges request ranges) r :: after ∧
      ∃ parts : List (List Range), left = parts.flatten ∧
        List.Forall₂ (fun range => Range.Stretches
          (range.bytes \ Range.allBytes (brought request (chunks r after)))) ranges parts := by
  obtain ⟨after, before, ranges, hDeeds, hValid, rfl⟩ := h.mindful request left hLeft
  obtain ⟨later, rest, hPast, rfl, hRest⟩ := List.filterMap_eq_append_iff.1 hDeeds
  obtain ⟨idle, e, earlier, rfl, hIdle, hAsked, -⟩ := List.filterMap_eq_cons_iff.1 hRest
  obtain ⟨id, rfl⟩ := Entry.deed?_eq_asked.1 hAsked
  refine ⟨earlier.reverse, (later ++ idle).reverse, id, ranges, ?_, ?_⟩
  · rw [journal, hPast]
    simp
  · have hChunks : chunks r (later ++ idle).reverse =
        ((later.filterMap (·.deed? r)).filterMap Deed.chunk?).reverse := by
      rw [chunks_eq, List.filterMap_reverse, List.filterMap_reverse, List.filterMap_append,
        List.filterMap_eq_nil_iff.2 hIdle, List.append_nil]
    rw [hChunks]
    exact PendingReads.parts_consumeAll PendingReads.valid_brought hValid

/-- A read is pending exactly as long as something is owed to it. -/
theorem pending_iff_of_lived (h : (w.life r).Lived) (hOpened : (w.status r).state = .opened)
    (hFew : (w.requests r).length < UInt64.size) {before after : List (Entry κ.Note)}
    {id : StreamId} {request : RequestId} {ranges : List Range}
    (hJournal : w.journal =
      before ++ @Entry.hostCall _ id (.requestRanges request ranges) r :: after)
    (hServed : ∀ id others,
      @Entry.hostAnswer _ id (.requestRanges request others) false r ∉ after) :
    request ∈ (w.status r).pending.ids ↔ ∃ b ∈ Range.allBytes ranges,
      ∀ p ∈ chunks r after, p.request = none ∨ p.request = some request → b ∉ p.bytes := by
  have hPast : w.past = after.reverse ++ @Entry.hostCall _ id (.requestRanges request ranges) r ::
      before.reverse := by
    rw [← w.past.reverse_reverse, ← journal, hJournal]
    simp
  have hDeeds : (w.life r).deeds = after.reverse.filterMap (·.deed? r) ++
      .asked (.requestRanges request ranges) :: before.reverse.filterMap (·.deed? r) := by
    simp [life, hPast, Entry.deed?]
  have hCount : (w.life r).requests.length < UInt64.size := by
    rwa [requests_eq, List.length_reverse] at hFew
  have hOnce : request ∉ (after.reverse.filterMap (·.deed? r)).filterMap Deed.request? := by
    have hDistinct := h.settled.distinct hCount
    rw [Life.requests, hDeeds, List.filterMap_append, List.nodup_append] at hDistinct
    exact fun hMem => hDistinct.2.2 _ hMem _ List.mem_cons_self rfl
  have hNotRefused (others : List Range) : .answered (.requestRanges request others) false ∉
      after.reverse.filterMap (·.deed? r) := by
    rw [List.filterMap_reverse, List.mem_reverse, List.mem_filterMap]
    rintro ⟨e, he, hDeed⟩
    obtain ⟨other, rfl⟩ := Entry.deed?_eq_answered.1 hDeed
    exact hServed other others he
  have hAccounts : (w.status r).pending.Accounts (owed (w.life r).deeds) :=
    h.settled.accounts hCount hOpened
  rw [hAccounts.mem_ids_iff, hDeeds]
  refine exists_congr fun b => (mem_owed hOnce hNotRefused).trans (and_congr_right fun _ => ?_)
  simp only [mem_chunks, List.filterMap_reverse, List.mem_reverse, PendingReads.answers_iff,
    forall_exists_index]

/-- What is promised of pending reads follows from the life of the stream. -/
theorem reckons_of_lived (h : (w.life r).Lived) : w.Reckons r where
  closed := h.settled.closed
  opened opened few _ _ _ _ _ journal served := pending_iff_of_lived h opened few journal served
  kept _ _ left := kept_of_lived h left
  accepted opened free _ _ _ serves := StreamRef.chunks_receive_of_accepted serves opened free
  ignored barred env := StreamRef.on_receive_of_unaccepted env barred

/-- Of a stream that was never made nothing is read. -/
theorem reckons_of_not_has (absent : ¬ w.Has r) : w.Reckons r := by
  have hStatus : w.status r = Stream.absent.status := by
    rw [status, stream_of_not_has absent]
  have hClosed : (w.status r).state ≠ .opened := by
    rw [hStatus]
    exact fun h => by cases h
  have hNone : (w.status r).pending = [] := by
    rw [hStatus]
    rfl
  refine ⟨fun _ => hNone, fun opened => absurd opened hClosed, fun request left hLeft => ?_,
    fun opened => absurd opened hClosed,
    fun barred env => StreamRef.on_receive_of_unaccepted env barred⟩
  rw [hNone] at hLeft
  cases hLeft

end System

/-- Whatever clients do, at any depth of calls inside calls, the pending reads of every
stream are those for which bytes are missing in the chunks that it has accepted, and it accepts
all chunks that come while it is opened and not closing. -/
theorem reads_reckoned : Always (κ := κ) Surroundings.any fun w => ∀ r, w.Reckons r := by
  refine (Always.lived _).mono fun w hLived r => ?_
  by_cases made : w.Has r
  · exact System.reckons_of_lived ((hLived r).1 made)
  · exact System.reckons_of_not_has made

/-- A read of ten bytes of which four arrive. -/
def partialRead : List ((α : Type) × Call Client.plain α) :=
  [⟨_, .makeStream (.drawn 0) { url := "", seekable := true } false⟩, ⟨_, .start ⟨0⟩⟩,
    ⟨_, .receive ⟨0⟩ (.opened {})⟩, ⟨_, .readRange ⟨0⟩ 10 20⟩,
    ⟨_, .receive ⟨0⟩ (.dataArrived ⟨12, [1, 2, 3, 4], none⟩)⟩]

/-- Beside that read another one, of two ranges. Chunks come that name one of the two reads, and
one that names none. -/
def taggedReads : List ((α : Type) × Call Client.plain α) :=
  partialRead ++ [⟨_, .readRanges ⟨0⟩ [⟨0, 5⟩, ⟨12, 14⟩]⟩,
    ⟨_, .receive ⟨0⟩ (.dataArrived ⟨10, [1, 2, 3, 4], some ⟨2⟩⟩)⟩,
    ⟨_, .receive ⟨0⟩ (.dataArrived ⟨16, [1, 2, 3], some ⟨1⟩⟩)⟩,
    ⟨_, .receive ⟨0⟩ (.dataArrived ⟨0, [1, 2, 3, 4, 5], none⟩)⟩]

/-- The second read is complete. The first one still lacks two bytes that only the second one was
sent, and one that was not sent at all. -/
theorem reads_reckoned_taggedReads :
    ((Surroundings.obliging.played taggedReads).status ⟨0⟩).pending =
      [(⟨1⟩, [⟨10, 12⟩, ⟨19, 20⟩])] ∧
    (chunks ⟨0⟩ (Surroundings.obliging.played taggedReads).journal).map (·.request) =
      [none, some ⟨2⟩, some ⟨1⟩, none] ∧
    (Surroundings.obliging.played taggedReads).Reckons ⟨0⟩ :=
  ⟨by decide +kernel, by decide +kernel, (reads_reckoned _ _ (Surroundings.reached_played
    (Surroundings.serves_obliging trivial) taggedReads)).1 ⟨0⟩⟩

end HostedStreams
