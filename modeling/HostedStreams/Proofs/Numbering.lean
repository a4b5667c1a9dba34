import HostedStreams.Proofs.Transfers

/-! The numbers of reads. A stream counts the requests that it makes, from one on, and never goes
back: a read that the host refuses has had its number, and one that is made while the host is asked
for another comes behind it. The largest number follows itself, so that beyond it numbers tell
nothing apart; before it, the order of the numbers is that of the requests. -/
namespace HostedStreams

variable {κ : Client} {look : System κ → κ.Note} {env : Surroundings κ} {r : StreamRef}
  {w : System κ}

namespace PendingReads

/-- A chunk at most takes reads off the list. -/
theorem ids_retire_sublist (p : DataArrived) (pending : PendingReads) :
    (pending.retire p).ids.Sublist pending.ids := by
  rw [retire]
  split
  · induction pending with
    | nil => exact .refl _
    | cons entry rest ih =>
      simp only [List.filterMap_cons]
      split
      · exact ih.cons _
      · rename_i kept hKept
        have hSame : kept.1 = entry.1 := by
          revert hKept
          split
          · split
            · exact fun h => by cases h
            · exact fun h => by rw [← Option.some.inj h]
          · exact fun h => by rw [← Option.some.inj h]
        simp only [ids, List.map_cons, hSame]
        exact ih.cons_cons _
  · exact .refl _

theorem ids_erase_sublist (id : RequestId) (pending : PendingReads) :
    (pending.erase id).ids.Sublist pending.ids :=
  List.filter_sublist.map _

end PendingReads

namespace Life

/-- How the numbers that a stream gives go with its requests, and the pending reads with both. -/
structure Numbered (l : Life) : Prop where
  nth : ∀ k request, l.requests.reverse[k]? = some request →
    request.number.toNat = min (k + 1) (UInt64.size - 1)
  listed : l.requests.length ≤ UInt64.size - 1 →
    l.status.pending.ids.Sublist l.requests.reverse

namespace Numbered

variable {l m : Life}

/-- The first number is one. -/
theorem born (seekable : Bool) : Numbered ⟨{ seekable }, []⟩ where
  nth _ _ h := by cases h
  listed _ := .refl _

/-- A move that makes no request at most takes reads off the list. -/
theorem same (h : l.Numbered) (hRequests : m.requests = l.requests)
    (fewer : m.status.pending.ids.Sublist l.status.pending.ids) : m.Numbered where
  nth := by
    rw [hRequests]
    exact h.nth
  listed := by
    rw [hRequests]
    exact fun few => fewer.trans (h.listed few)

/-- Events give no numbers. -/
theorem take (h : l.Numbered) {event : Event} {t : Status} (takes : l.status.Takes event t)
    (standing : Standing) : Numbered ⟨t, .pass event standing :: l.deeds⟩ := by
  refine h.same rfl ?_
  cases takes with
  | created | opened => exact .refl _
  | failedOpen | completed => exact List.nil_sublist _
  | dataArrived p => exact PendingReads.ids_retire_sublist p _

/-- The next number is that of the request that is made. -/
theorem read (h : l.Numbered) (settled : l.Settled) (ranges : List Range) :
    Numbered ⟨l.status.register ranges,
      .asked (.requestRanges l.status.nextRequest ranges) :: l.deeds⟩ := by
  have hRequests : requests ⟨l.status.register ranges,
      .asked (.requestRanges l.status.nextRequest ranges) :: l.deeds⟩ =
      l.status.nextRequest :: l.requests := rfl
  have hNext := settled.next
  constructor
  · intro k request hNth
    rw [hRequests, List.reverse_cons, List.getElem?_append, List.length_reverse] at hNth
    split at hNth
    · exact h.nth k request hNth
    · rename_i hLast
      have hk : k - l.requests.length = 0 := by
        by_contra hBeyond
        rw [List.getElem?_eq_none (by simp; omega)] at hNth
        cases hNth
      rw [hk] at hNth
      cases hNth
      rw [hNext]
      congr 2
      omega
  · intro hFew
    rw [hRequests, List.length_cons] at hFew
    -- Within the bound the new number is larger than those on the list, so the read comes last.
    have hLast : ∀ other ∈ l.status.pending.ids, other.number < l.status.nextRequest.number := by
      intro other hOther
      have hBound := settled.bounded other (settled.listed other hOther)
      rw [UInt64.lt_iff_toNat_lt, hNext]
      omega
    rw [hRequests, List.reverse_cons, Status.register, PendingReads.insert_eq_append hLast,
      PendingReads.ids, List.map_append]
    exact (h.listed (by omega)).append (.refl _)

/-- Only a read gives a number, and it gives the next one. -/
theorem move (h : l.Numbered) (settled : l.Settled) (move : l.Move m) : m.Numbered := by
  cases move with
  | take takes => exact h.take takes _
  | tearDown => exact h.same rfl (List.nil_sublist _)
  | read ranges => exact h.read settled ranges
  | unread request => exact h.same rfl (PendingReads.ids_erase_sublist request _)
  | _ => exact h.same rfl (.refl _)

end Numbered

/-- The numbers of every life go up from one. -/
theorem Lived.numbered {l : Life} (h : l.Lived) : l.Numbered := by
  induction h with
  | born seekable => exact .born seekable
  | move before move ih => exact ih.move before.settled move

end Life

/-- What is promised of the numbers of a stream's reads. -/
structure System.Numbers (w : System κ) (r : StreamRef) : Prop where
  /-- The requests are counted, from one up to the largest number, which stays. -/
  nth : ∀ k request, (w.requests r)[k]? = some request →
    request.number.toNat = min (k + 1) (UInt64.size - 1)
  increasing : ((w.requests r).take (UInt64.size - 1)).Pairwise (·.number < ·.number)
  distinct : ((w.requests r).take (UInt64.size - 1)).Nodup
  /-- Up to there, the reads that are pending are listed in the order of the requests, -/
  listed : (w.requests r).length ≤ UInt64.size - 1 →
    (w.status r).pending.ids.Sublist (w.requests r)
  /-- and the number of the next one is that of none of them. -/
  fresh : (w.requests r).length < UInt64.size - 1 →
    (w.status r).nextRequest ∉ (w.status r).pending.ids

/-- What comes of a request for ranges: `x` is what it leaves behind where it was made in `w`.
Beside what the host does while it is asked, the reads under other numbers stay as they are. -/
structure System.Issued (env : Surroundings κ) (r : StreamRef) (ranges : List Range)
    (w x : System κ) : Prop where
  /-- The host is asked under the next number, -/
  numbered : (w.asks r (.requestRanges (w.status r).nextRequest ranges)
    (·.register ranges)).requests r = w.requests r ++ [(w.status r).nextRequest]
  /-- up to which nothing becomes of other reads, -/
  others : ((w.asks r (.requestRanges (w.status r).nextRequest ranges)
    (·.register ranges)).status r).pending.erase (w.status r).nextRequest =
      (w.status r).pending.erase (w.status r).nextRequest
  /-- and from its answer on, whatever that is, nothing does either. -/
  answered : (x.status r).pending.erase (w.status r).nextRequest =
    (((env.host.requestRanges (w.stream r).id (w.status r).nextRequest ranges).left (w.asks r
      (.requestRanges (w.status r).nextRequest ranges) (·.register ranges))).status
        r).pending.erase (w.status r).nextRequest

namespace System

/-- What is promised of the numbers follows from the life of the stream. -/
theorem Numbers.of_lived (h : (w.life r).Lived) : w.Numbers r := by
  have hNth : ∀ k request, (w.requests r)[k]? = some request →
      request.number.toNat = min (k + 1) (UInt64.size - 1) := by
    rw [requests_eq]
    exact h.numbered.nth
  have hLength : (w.life r).requests.length = (w.requests r).length := by
    rw [requests_eq, List.length_reverse]
  have hIncreasing :
      ((w.requests r).take (UInt64.size - 1)).Pairwise (·.number < ·.number) := by
    rw [List.pairwise_iff_getElem]
    intro i j hi hj hij
    rw [List.length_take] at hi hj
    have hEarlier := hNth i _ (List.getElem?_eq_getElem (by omega))
    have hLater := hNth j _ (List.getElem?_eq_getElem (by omega))
    rw [List.getElem_take, List.getElem_take, UInt64.lt_iff_toNat_lt, hEarlier, hLater]
    omega
  refine ⟨hNth, hIncreasing, hIncreasing.imp fun hLess hSame => ?_, fun few => ?_, fun few => ?_⟩
  · rw [hSame] at hLess
    exact UInt64.lt_irrefl _ hLess
  · rw [requests_eq]
    exact h.numbered.listed (hLength ▸ few)
  · exact fun hPending => h.settled.fresh (hLength ▸ few) (h.settled.listed _ hPending)

/-- A read that is asked for is the latest request. -/
theorem requests_asks (w : System κ) (r : StreamRef) (request : RequestId) (ranges : List Range)
    (mark : Status → Status) :
    (w.asks r (.requestRanges request ranges) mark).requests r = w.requests r ++ [request] := by
  simp [requests, journal, asks, record]

/-- Of what is pending the request changes what its mark does. -/
theorem pending_asks (made : w.Has r) (call : HostCall) (mark : Status → Status) :
    ((w.asks r call mark).status r).pending = (mark (w.status r)).pending := by
  rw [asks, status_record, status_updateStatus, if_pos ⟨rfl, made⟩]

/-- A request to the host alters no read under another number. -/
theorem Issued.of_consults {ranges : List Range} {operation : String}
    {act : Act κ (Except StreamError RequestId)} (made : w.Has r)
    (h : Consults r operation (.requestRanges (w.status r).nextRequest ranges)
      (env.host.requestRanges (w.stream r).id (w.status r).nextRequest ranges)
      (fun _ => (w.status r).nextRequest) (·.register ranges)
      (·.withdraw (w.status r).nextRequest) act w) : w.Issued env r ranges (act.left w) := by
  refine ⟨requests_asks .., ?_, ?_⟩
  · rw [pending_asks made]
    exact PendingReads.erase_insert_self ..
  · rw [Act.left, Act.left]
    rcases hEnd : (env.host.requestRanges (w.stream r).id (w.status r).nextRequest ranges).on
      (w.asks r (.requestRanges (w.status r).nextRequest ranges) (·.register ranges))
      with ⟨halt | e | _, v⟩
    · rw [h.halted halt v hEnd]
    · -- A refused read is taken back, which takes away what stands under its own number alone.
      rw [h.refused e v hEnd, status_updateStatus, status_record]
      split
      · exact List.filter_filter.trans (by simp [PendingReads.erase])
      · rfl
    · rw [h.served _ v hEnd]
      rfl

end System

/-- A read is ruled out, and has no effect at all, or it is one request. -/
theorem StreamRef.Reads.issued {act : Act κ (Except StreamError RequestId)} (h : r.Reads env act)
    (w : System κ) : act.left w = w ∨ ∃ ranges, w.Issued env r ranges (act.left w) := by
  have hSeveral (ranges : List Range) : (r.readRanges env ranges).left w = w ∨
      w.Issued env r ranges ((r.readRanges env ranges).left w) := by
    cases hRefusal : (w.status r).refusal? "read_ranges" ranges with
    | some e =>
      refine .inl ?_
      rw [Act.left, StreamRef.on_readRanges_of_refused hRefusal]
    | none =>
      have hOpened : (w.status r).state = .opened := by
        by_contra hState
        rw [Status.refusal?, if_pos (.inl hState)] at hRefusal
        cases hRefusal
      have made : w.Has r := System.has_of_state_ne (by rw [hOpened]; simp)
      exact .inr (.of_consults made (StreamRef.consults_readRanges env hRefusal))
  cases h with
  | several ranges => exact (hSeveral ranges).imp_right fun h => ⟨ranges, h⟩
  | one start stop =>
    have hLeft : (r.readRange env start stop).left w =
        (r.readRanges env [⟨start, stop⟩]).left w := by
      rw [Act.left, StreamRef.on_readRange env r start stop w]
      exact Act.left_bind_pure _ _ w
    rw [hLeft]
    exact (hSeveral _).imp_right fun h => ⟨_, h⟩

/-- Whatever clients do, at any depth of calls inside calls and refused reads included, the k-th
request that a stream makes has the number k, or the largest one beyond that. Up to there the
numbers tell the reads apart and keep them in their order, and a read, be it served or refused, has
no part in what becomes of those under other numbers. -/
theorem reads_numbered : Always (κ := κ) Surroundings.any (fun w => ∀ r, w.Numbers r) ∧
    ∀ (env : Surroundings κ) (r : StreamRef) (w : System κ) act, r.Reads env act →
      act.left w = w ∨ ∃ ranges, w.Issued env r ranges (act.left w) := by
  refine ⟨(Always.lived _).mono fun w hLived r => ?_, fun _ _ w _ read => read.issued w⟩
  by_cases made : w.Has r
  · exact .of_lived ((hLived r).1 made)
  · have hNone : w.requests r = [] := by
      rw [System.requests_eq, Life.requests, (hLived r).2 made]
      rfl
    have hPending : (w.status r).pending = [] := by
      rw [System.status, System.stream_of_not_has made]
      rfl
    refine ⟨fun k request hNth => ?_, ?_, ?_, fun _ => ?_, fun _ => ?_⟩
    · rw [hNone] at hNth
      cases hNth
    · rw [hNone]
      exact .nil
    · rw [hNone]
      exact .nil
    · rw [hNone, hPending]
      exact .refl _
    · rw [hPending]
      exact List.not_mem_nil

/-- Surroundings whose host, when it is asked for the first read, makes another one itself and then
refuses the first. -/
def Surroundings.overreaching : Surroundings Client.plain :=
  { obliging with
    host := { obliging.host with
      requestRanges := fun _ request _ =>
        if request.number = 1 then do
          let _ ← (⟨0⟩ : StreamRef).readRange obliging 0 5
          return .error (.rejected "request_ranges" "busy")
        else return .ok () } }

/-- Its second read is a call in obliging surroundings. -/
theorem Surroundings.serves_overreaching : overreaching.Serves (fun _ => ()) Surroundings.any := by
  refine .intro (· = obliging) (fun _ h => h ▸ serves_obliging trivial)
    ⟨fun _ _ _ => .pure _, fun _ _ => .pure _, fun _ request _ => ?_, fun _ _ => .pure _,
      fun _ => .pure _, .pure _, fun _ => .pure _, fun _ => .pure _⟩ trivial
  have hRead : Conduct (fun _ => ()) (· = obliging) ((⟨0⟩ : StreamRef).readRange obliging 0 5) :=
    .call (by rfl) (.readRange ⟨0⟩ 0 5)
  simp only [overreaching]
  split
  · exact .bind hRead fun _ => .pure _
  · exact .pure _

/-- A stream that can be read, and reads of it. -/
def readable (reads : List ((α : Type) × Call Client.plain α)) :
    List ((α : Type) × Call Client.plain α) :=
  [⟨_, .makeStream (.drawn 0) { url := "", seekable := true } false⟩, ⟨_, .start ⟨0⟩⟩,
    ⟨_, .receive ⟨0⟩ (.opened {})⟩] ++ reads

/-- What they leave of a stream that is read twice. -/
def Surroundings.overread : System Client.plain :=
  overreaching.played (readable [⟨_, .readRange ⟨0⟩ 10 20⟩, ⟨_, .readRange ⟨0⟩ 30 40⟩])

/-- The read that the host refuses has had the first number, and what the host read meanwhile
stays. -/
theorem reads_numbered_overreaching :
    Surroundings.overread.requests ⟨0⟩ = [⟨1⟩, ⟨2⟩, ⟨3⟩] ∧
    (Surroundings.overread.status ⟨0⟩).pending = [(⟨2⟩, [⟨0, 5⟩]), (⟨3⟩, [⟨30, 40⟩])] ∧
    Surroundings.overread.Numbers ⟨0⟩ ∧
    ∃ ranges, (Surroundings.overreaching.played (readable [])).Issued .overreaching ⟨0⟩ ranges
      (((⟨0⟩ : StreamRef).readRange .overreaching 10 20).left
        (Surroundings.overreaching.played (readable []))) := by
  obtain ⟨hNumbers, hIssued⟩ := reads_numbered (κ := Client.plain)
  refine ⟨by decide +kernel, by decide +kernel, (hNumbers _ _ (Surroundings.reached_played
    Surroundings.serves_overreaching _)).1 ⟨0⟩, (hIssued _ _ _ _ (.one 10 20)).resolve_left ?_⟩
  intro hSame
  have hNext := congrArg (fun w => (w.status ⟨0⟩).nextRequest) hSame
  revert hNext
  decide +kernel

end HostedStreams
