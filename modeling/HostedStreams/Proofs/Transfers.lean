import HostedStreams.Proofs.Ebb
import HostedStreams.Proofs.Reads

/-! Reads and writes. One that its stream or its own arguments rule out has no effect at all, and
its error tells so. Any other is one request to the host, and what the host does not grant is taken
back. It does not matter who reads or writes: a client from outside, a sink that is handed an event,
a job, or the host while it is asked for something else. -/
namespace HostedStreams

variable {κ : Client} {α β : Type} {look : System κ → κ.Note} {manners : Surroundings κ → Prop}
  {env : Surroundings κ} {r : StreamRef} {w : System κ}

namespace Status

/-- Why a read of the ranges is refused before the host is asked, if it is. Of several reasons the
first one in this order is told. -/
def refusal? (s : Status) (operation : String) (ranges : List Range) : Option StreamError :=
  if s.state ≠ .opened ∨ s.closing = true then some (.notOpen operation)
  else if s.seekable = false then some (.notSeekable operation)
  else if ranges = [] then some .emptyRequest
  else (ranges.find? fun range => range.stop ≤ range.start).map fun range =>
    .invalidRange range.start range.stop

variable {s : Status}

/-- What can be read and written is opened and not closing. -/
theorem usable_iff : s.usable = true ↔ s.state = .opened ∧ s.closing = false := by
  simp [usable]

/-- What bars all reads of a stream bars this one. -/
theorem refusal?_of_barrier {operation : String} {e : StreamError}
    (h : s.readBarrier? operation = some e) (ranges : List Range) :
    s.refusal? operation ranges = some e := by
  unfold readBarrier? at h
  unfold refusal?
  cases hState : decide (s.state = .opened) <;> cases hClosing : s.closing <;>
    cases hSeekable : s.seekable <;> simp_all [usable]

/-- Where nothing bars reads, it is up to the ranges. -/
theorem refusal?_of_ready {operation : String} (h : s.readBarrier? operation = none)
    (ranges : List Range) : s.refusal? operation ranges =
      if ranges = [] then some .emptyRequest
      else (ranges.find? (!·.valid)).map fun range => .invalidRange range.start range.stop := by
  have hInvalid : (fun range : Range => decide (range.stop ≤ range.start)) = (!·.valid) := by
    funext range
    rw [Range.valid, ← decide_not]
    exact decide_eq_decide.2 UInt64.not_lt.symm
  unfold readBarrier? at h
  unfold refusal?
  rw [hInvalid]
  cases hState : decide (s.state = .opened) <;> cases hClosing : s.closing <;>
    cases hSeekable : s.seekable <;> simp_all [usable]

/-- Whatever rules a read out is told by an error of the operations' own. -/
theorem precondition_of_refusal {operation : String} {ranges : List Range} {e : StreamError}
    (h : s.refusal? operation ranges = some e) : e.precondition = true := by
  unfold refusal? at h
  split at h
  · cases h; rfl
  split at h
  · cases h; rfl
  split at h
  · cases h; rfl
  obtain ⟨_, -, rfl⟩ := Option.map_eq_some_iff.1 h
  rfl

end Status

/-- The error, of an operation of another name. -/
def StreamError.of (operation : String) : StreamError → StreamError
  | .notOpen _ => .notOpen operation
  | .notSeekable _ => .notSeekable operation
  | .host _ source => .host operation source
  | e => e

/-- The system in which the host is asked, once the stream's status is marked. -/
def System.asks (w : System κ) (r : StreamRef) (call : HostCall) (mark : Status → Status) :
    System κ :=
  (w.updateStatus r mark).record (@Entry.hostCall _ (w.stream r).id call r)

/-- The operation is one request to the host, before which the stream's status is marked and after
whose refusal it is amended. -/
structure Consults (r : StreamRef) (operation : String) (call : HostCall)
    (ask : Act κ (Except HostError α)) (grant : α → β) (mark amend : Status → Status)
    (act : Act κ (Except StreamError β)) (w : System κ) : Prop where
  served : ∀ a v, ask.on (w.asks r call mark) = (.ok (.ok a), v) →
    act.on w = (.ok (.ok (grant a)), v.record (@Entry.hostAnswer _ (w.stream r).id call true r))
  refused : ∀ e v, ask.on (w.asks r call mark) = (.ok (.error e), v) →
    act.on w = (.ok (.error (.host operation e)),
      (v.record (@Entry.hostAnswer _ (w.stream r).id call false r)).updateStatus r amend)
  halted : ∀ halt v, ask.on (w.asks r call mark) = (.error halt, v) → act.on w = (.error halt, v)

namespace System

/-- The host is asked once for what the operation is about. -/
theorem asked_asks (w : System κ) (r : StreamRef) (call : HostCall) (mark : Status → Status) :
    (w.asks r call mark).asked r = call :: w.asked r := by
  rw [asks, asked_record, asked_of_past (w.past_updateStatus r mark)]
  simp [Entry.deed?, Deed.asked?]

/-- What was asked for stays asked for. -/
theorem asked_grows {v w : System κ} (h : w.past <:+ v.past) (r : StreamRef) :
    w.asked r <:+ v.asked r :=
  (h.filterMap _).filterMap _

end System

namespace Consults

variable {operation : String} {call : HostCall} {ask : Act κ (Except HostError α)} {grant : α → β}
  {mark amend : Status → Status} {act : Act κ (Except StreamError β)}

/-- Beside what the host does, the stream makes this one request. -/
theorem asked_eq (h : Consults r operation call ask grant mark amend act w) :
    (act.left w).asked r = (ask.left (w.asks r call mark)).asked r := by
  have hAnswer (v : System κ) (served : Bool) :
      (v.record (@Entry.hostAnswer _ (w.stream r).id call served r)).asked r = v.asked r := by
    simp [System.asked_record, Entry.deed?, Deed.asked?]
  rw [Act.left, Act.left]
  rcases hEnd : ask.on (w.asks r call mark) with ⟨halt | e | a, v⟩
  · rw [h.halted halt v hEnd]
  · rw [h.refused e v hEnd]
    exact (System.asked_of_past (System.past_updateStatus ..) r).trans (hAnswer v false)
  · rw [h.served a v hEnd]
    exact hAnswer v true

/-- A host that leaves the stream alone is asked once. -/
theorem asked_once (h : Consults r operation call ask grant mark amend act w)
    (aloof : (ask.left (w.asks r call mark)).life r = (w.asks r call mark).life r) :
    (act.left w).asked r = call :: w.asked r := by
  rw [h.asked_eq, System.asked, aloof]
  exact w.asked_asks r call mark

/-- Whoever consults the host has asked for something, and the host's answer does not undo that.
-/
theorem asked_ne (h : Consults r operation call ask grant mark amend act w)
    (grows : ask.Within (Steps look)) : (act.left w).asked r ≠ w.asked r := by
  rw [h.asked_eq]
  have hGrows := System.asked_grows (grows (w.asks r call mark)).past r
  rw [System.asked_asks] at hGrows
  intro hSame
  have hLength := hGrows.length_le
  rw [hSame] at hLength
  simp at hLength

/-- What is answered comes of the host's answer. -/
theorem of_ok (h : Consults r operation call ask grant mark amend act w)
    {answer : Except StreamError β} (ended : (act.on w).1 = .ok answer) :
    (∃ a v, ask.on (w.asks r call mark) = (.ok (.ok a), v) ∧ answer = .ok (grant a)) ∨
    ∃ e v, ask.on (w.asks r call mark) = (.ok (.error e), v) ∧
      answer = .error (.host operation e) := by
  rcases hEnd : ask.on (w.asks r call mark) with ⟨halt | e | a, v⟩
  · rw [h.halted halt v hEnd] at ended
    cases ended
  · rw [h.refused e v hEnd] at ended
    cases ended
    exact .inr ⟨e, v, rfl, rfl⟩
  · rw [h.served a v hEnd] at ended
    cases ended
    exact .inl ⟨a, v, rfl, rfl⟩

end Consults

namespace StreamRef

variable {ranges : List Range} {data : List UInt8} {operation : String}

/-- A read registers its ranges under the next number before the host is asked. -/
theorem consults_request (env : Surroundings κ) (r : StreamRef) (operation : String)
    (ranges : List Range) (w : System κ) :
    Consults r operation (.requestRanges (w.status r).nextRequest ranges)
      (env.host.requestRanges (w.stream r).id (w.status r).nextRequest ranges)
      (fun _ => (w.status r).nextRequest) (·.register ranges)
      (·.withdraw (w.status r).nextRequest) (r.request env operation ranges) w := by
  refine ⟨fun _ v hEnd => ?_, fun e v hEnd => ?_, fun halt v hEnd => ?_⟩ <;>
    simp only [request, Act.on_get_bind, Act.on_modify_bind, askHost, bind_assoc, pure_bind]
  · exact (Act.on_bind_ok hEnd _).trans rfl
  · exact (Act.on_bind_ok hEnd _).trans rfl
  · exact Act.on_bind_error hEnd _

/-- A read that is refused beforehand has no effect. -/
theorem on_readRanges_of_refused {e : StreamError}
    (refused : (w.status r).refusal? "read_ranges" ranges = some e) :
    (r.readRanges env ranges).on w = (.ok (.error e), w) := by
  rw [readRanges, Act.on_get_bind]
  cases hBarrier : (w.status r).readBarrier? "read_ranges" with
  | some barrier =>
    rw [Status.refusal?_of_barrier hBarrier] at refused
    cases refused
    rfl
  | none =>
    rw [Status.refusal?_of_ready hBarrier] at refused
    simp only [List.isEmpty_iff]
    split at refused
    · rename_i hEmpty
      cases refused
      rw [if_pos hEmpty]
      rfl
    · rename_i hSome
      obtain ⟨range, hRange, rfl⟩ := Option.map_eq_some_iff.1 refused
      rw [if_neg hSome, hRange]
      rfl

/-- A read that is not refused beforehand is a request. -/
theorem on_readRanges_of_admitted (admitted : (w.status r).refusal? "read_ranges" ranges = none) :
    (r.readRanges env ranges).on w = (r.request env "read_ranges" ranges).on w := by
  rw [readRanges, Act.on_get_bind]
  cases hBarrier : (w.status r).readBarrier? "read_ranges" with
  | some barrier =>
    rw [Status.refusal?_of_barrier hBarrier] at admitted
    cases admitted
  | none =>
    rw [Status.refusal?_of_ready hBarrier] at admitted
    simp only [List.isEmpty_iff]
    split at admitted
    · cases admitted
    · rename_i hSome
      rw [if_neg hSome, Option.map_eq_none_iff.1 admitted]

/-- What a request is called is told by its errors alone. -/
theorem on_request_of (env : Surroundings κ) (r : StreamRef) (operation other : String)
    (ranges : List Range) (w : System κ) :
    (r.request env operation ranges).on w =
      (do return (← r.request env other ranges).mapError (StreamError.of operation)).on w := by
  have hThis := consults_request env r operation ranges w
  have hOther := consults_request env r other ranges w
  rcases hEnd : (env.host.requestRanges (w.stream r).id (w.status r).nextRequest ranges).on
    (w.asks r (.requestRanges (w.status r).nextRequest ranges) (·.register ranges))
    with ⟨halt | e | _, v⟩
  · rw [hThis.halted halt v hEnd, Act.on_bind_error (hOther.halted halt v hEnd)]
  · rw [hThis.refused e v hEnd, Act.on_bind_ok (hOther.refused e v hEnd)]
    rfl
  · rw [hThis.served _ v hEnd, Act.on_bind_ok (hOther.served _ v hEnd)]
    rfl

/-- A read of one range is a read of a list of one range, under its own name. -/
theorem on_readRange (env : Surroundings κ) (r : StreamRef) (start stop : UInt64) (w : System κ) :
    (r.readRange env start stop).on w =
      (do return (← r.readRanges env [⟨start, stop⟩]).mapError (StreamError.of "read_range")).on
        w := by
  have hBarrier : (w.status r).readBarrier? "read_range" =
      ((w.status r).readBarrier? "read_ranges").map (·.of "read_range") := by
    unfold Status.readBarrier?
    split
    · rfl
    split <;> rfl
  rw [readRange, Act.on_get_bind, hBarrier]
  cases hReady : (w.status r).readBarrier? "read_ranges" with
  | some e =>
    have hRefused := Status.refusal?_of_barrier hReady [⟨start, stop⟩]
    rw [Act.on_bind_ok (on_readRanges_of_refused hRefused)]
    rfl
  | none =>
    have hRefusal := Status.refusal?_of_ready hReady [⟨start, stop⟩]
    rw [if_neg (List.cons_ne_nil _ _)] at hRefusal
    simp only [Option.map_none, Range.ofBounds?]
    by_cases hValid : start < stop
    · rw [if_pos hValid, on_request_of env r "read_range" "read_ranges", Act.on_bind, Act.on_bind,
        Act.left, Act.left,
        on_readRanges_of_admitted (by rw [hRefusal]; simp [Range.valid, hValid])]
    · have hRefused : (w.status r).refusal? "read_ranges" [⟨start, stop⟩] =
          some (.invalidRange start stop) := by
        rw [hRefusal]
        simp [Range.valid, hValid]
      rw [if_neg hValid, Act.on_bind_ok (on_readRanges_of_refused hRefused)]
      rfl

/-- Nothing is written to a stream that is not open, or is closing. -/
theorem on_write_of_unusable (unusable : (w.status r).usable = false) (data : List UInt8) :
    (r.write env data).on w = (.ok (.error (.notOpen "write")), w) := by
  have hUnusable : (w.stream r).status.usable = false := unusable
  simp only [write, Act.on_get_bind, hUnusable]
  rfl

/-- To write nothing succeeds without a word to the host. -/
theorem on_write_nil (usable : (w.status r).usable = true) :
    (r.write env []).on w = (.ok (.ok 0), w) := by
  have hUsable : (w.stream r).status.usable = true := usable
  simp only [write, Act.on_get_bind, hUsable]
  rfl

/-- A write of some bytes hands all of them over, and never tells of more than these. -/
theorem consults_write (usable : (w.status r).usable = true) (some_ : data ≠ []) :
    Consults r "write" (.write data) (env.host.write (w.stream r).id data) (min · data.length) id id
      (r.write env data) w := by
  have hAsks : w.asks r (.write data) id =
      w.record (@Entry.hostCall _ (w.stream r).id (.write data) r) :=
    congrArg (System.record _) (System.updateStatus_of_eq rfl)
  have hUsable : (w.stream r).status.usable = true := usable
  refine ⟨fun _ v hEnd => ?_, fun e v hEnd => ?_, fun halt v hEnd => ?_⟩ <;>
    rw [hAsks] at hEnd <;>
    simp only [write, Act.on_get_bind, hUsable, List.isEmpty_iff, if_neg some_, askHost, bind_assoc,
      pure_bind]
  · exact (Act.on_bind_ok hEnd _).trans rfl
  · rw [System.updateStatus_of_eq (f := id) rfl]
    exact (Act.on_bind_ok hEnd _).trans rfl
  · exact Act.on_bind_error hEnd _

end StreamRef

namespace PendingReads

variable {id : RequestId} {ranges : List Range} {pending : PendingReads}

/-- To forget a read that is not listed changes nothing. -/
theorem erase_of_unlisted (fresh : id ∉ pending.ids) : pending.erase id = pending :=
  List.filter_eq_self.2 fun (other, left) hMem => by
    simpa using fun hSame : other = id => fresh (mem_ids.2 ⟨left, hSame ▸ hMem⟩)

/-- A read that is registered alters no other one. -/
theorem erase_insert_self (id : RequestId) (ranges : List Range) (pending : PendingReads) :
    (pending.insert id ranges).erase id = pending.erase id := by
  induction pending with
  | nil => simp [insert, erase]
  | cons entry rest ih =>
    obtain ⟨other, left⟩ := entry
    unfold insert
    split
    · unfold erase at ih ⊢
      rw [List.filter_cons, List.filter_cons, ih]
    · split
      · rename_i hSame
        rw [erase, erase, List.filter_cons_of_neg (by simp),
          List.filter_cons_of_neg (by simp [hSame])]
      · rw [erase, erase, List.filter_cons_of_neg (by simp)]

/-- A request that no list holds yet can be taken back. -/
theorem erase_insert (fresh : id ∉ pending.ids) : (pending.insert id ranges).erase id = pending :=
  (erase_insert_self id ranges pending).trans (erase_of_unlisted fresh)

end PendingReads

/-- As long as there are enough numbers, the next one is new. -/
theorem Life.Settled.fresh {l : Life} (h : l.Settled)
    (few : l.requests.length < UInt64.size - 1) : l.status.nextRequest ∉ l.requests := by
  intro hMem
  have hNext := h.next
  have hBound := h.bounded _ hMem
  omega

/-- The stream's reads. -/
inductive StreamRef.Reads (env : Surroundings κ) (r : StreamRef) :
    Act κ (Except StreamError RequestId) → Prop
  | one (start stop : UInt64) : Reads env r (r.readRange env start stop)
  | several (ranges : List Range) : Reads env r (r.readRanges env ranges)

/-- The host does nothing to the stream while it is asked to read or to write. -/
structure Surroundings.Aloof (env : Surroundings κ) (r : StreamRef) : Prop where
  requestRanges : ∀ id request ranges,
    (env.host.requestRanges id request ranges).Within fun w v => v.life r = w.life r
  write : ∀ id data, (env.host.write id data).Within fun w v => v.life r = w.life r

/-- It can be told from an error of the operation whether the host was asked. If it was not, there
was no effect at all. -/
structure Act.Tells (act : Act κ (Except StreamError β)) (r : StreamRef) (w : System κ) : Prop where
  asked : ∀ e, (act.on w).1 = .ok (.error e) →
    (e.precondition = true ↔ (act.left w).asked r = w.asked r)
  idle : ∀ e, (act.on w).1 = .ok (.error e) → e.precondition = true → act.left w = w

/-- What is promised of the stream's reads and writes where things are as in the system. -/
structure System.Transacts (w : System κ) (env : Surroundings κ) (r : StreamRef) : Prop where
  /-- A read that is ruled out is refused for the first reason, and nothing happens. -/
  ruledOut : ∀ ranges e, (w.status r).refusal? "read_ranges" ranges = some e →
    (r.readRanges env ranges).on w = (.ok (.error e), w)
  /-- Any other read is one request to the host, by the next number and with the ranges as they
  are. -/
  read : ∀ ranges, (w.status r).refusal? "read_ranges" ranges = none →
    Consults r "read_ranges" (.requestRanges (w.status r).nextRequest ranges)
      (env.host.requestRanges (w.stream r).id (w.status r).nextRequest ranges)
      (fun _ => (w.status r).nextRequest) (·.register ranges)
      (·.withdraw (w.status r).nextRequest) (r.readRanges env ranges) w
  readOnce : env.Aloof r → ∀ ranges, (w.status r).refusal? "read_ranges" ranges = none →
    ((r.readRanges env ranges).left w).asked r =
      .requestRanges (w.status r).nextRequest ranges :: w.asked r
  fresh : (w.requests r).length < UInt64.size - 1 → (w.status r).nextRequest ∉ w.requests r
  /-- The read of one range is called by a name of its own, and that is all. -/
  single : ∀ start stop, (r.readRange env start stop).on w =
    (do return (← r.readRanges env [⟨start, stop⟩]).mapError (StreamError.of "read_range")).on w
  unopened : (w.status r).state ≠ .opened ∨ (w.status r).closing = true → ∀ data,
    (r.write env data).on w = (.ok (.error (.notOpen "write")), w)
  nothing : (w.status r).state = .opened → (w.status r).closing = false →
    (r.write env []).on w = (.ok (.ok 0), w)
  /-- The host may claim to have taken more than it was given, and is not believed. -/
  write : (w.status r).state = .opened → (w.status r).closing = false → ∀ data, data ≠ [] →
    Consults r "write" (.write data) (env.host.write (w.stream r).id data) (min · data.length) id id
      (r.write env data) w
  writeOnce : env.Aloof r → (w.status r).state = .opened → (w.status r).closing = false →
    ∀ data, data ≠ [] → ((r.write env data).left w).asked r = .write data :: w.asked r
  bounded : ∀ data n, ((r.write env data).on w).1 = .ok (.ok n) → n ≤ data.length
  tells : (∀ act, r.Reads env act → act.Tells r w) ∧ ∀ data, (r.write env data).Tells r w
  /-- A read that the host refuses has used up its number. -/
  forgotten : env.Aloof r → (w.requests r).length < UInt64.size - 1 → ∀ act, r.Reads env act →
    ∀ operation source, (act.on w).1 = .ok (.error (.host operation source)) →
      (act.left w).status r =
        { w.status r with nextRequest := (w.status r).nextRequest.next }

namespace StreamRef

/-- A read that is not refused beforehand is one request for exactly its ranges. -/
theorem consults_readRanges (env : Surroundings κ) {ranges : List Range}
    (admitted : (w.status r).refusal? "read_ranges" ranges = none) :
    Consults r "read_ranges" (.requestRanges (w.status r).nextRequest ranges)
      (env.host.requestRanges (w.stream r).id (w.status r).nextRequest ranges)
      (fun _ => (w.status r).nextRequest) (·.register ranges)
      (·.withdraw (w.status r).nextRequest) (r.readRanges env ranges) w := by
  have hRequest := consults_request env r "read_ranges" ranges w
  constructor <;> rw [on_readRanges_of_admitted admitted]
  · exact hRequest.served
  · exact hRequest.refused
  · exact hRequest.halted

end StreamRef

/-- Of an operation that is one request to the host, the host's error is told. -/
theorem Consults.tells {operation : String} {call : HostCall} {ask : Act κ (Except HostError α)}
    {grant : α → β} {mark amend : Status → Status} {act : Act κ (Except StreamError β)}
    (h : Consults r operation call ask grant mark amend act w) (grows : ask.Within (Steps look)) :
    act.Tells r w := by
  have hHost {e : StreamError} (ended : (act.on w).1 = .ok (.error e)) :
      e.precondition = false := by
    rcases h.of_ok ended with ⟨_, _, -, hServed⟩ | ⟨_, _, -, hRefused⟩
    · cases hServed
    · cases hRefused
      rfl
  constructor
  · intro e ended
    simp [hHost ended, h.asked_ne grows]
  · intro e ended hIdle
    rw [hHost ended] at hIdle
    cases hIdle

/-- An error that comes without any effect tells of a precondition. -/
theorem Act.Tells.of_on {act : Act κ (Except StreamError β)} {answer : Except StreamError β}
    (h : act.on w = (.ok answer, w)) (told : ∀ e, answer = .error e → e.precondition = true) :
    act.Tells r w := by
  have hLeft : act.left w = w := by rw [Act.left, h]
  constructor <;> intro e ended <;> rw [hLeft]
  · rw [h] at ended
    simp [told e (Except.ok.inj ended)]
  · exact fun _ => rfl

/-- What an operation is called has no part in it. -/
theorem Act.Tells.renamed {act : Act κ (Except StreamError β)} (h : act.Tells r w)
    (operation : String) {other : Act κ (Except StreamError β)}
    (same : other.on w = (do return (← act).mapError (StreamError.of operation)).on w) :
    other.Tells r w := by
  have hLeft : other.left w = act.left w := by
    rw [Act.left, same]
    exact Act.left_bind_pure act _ w
  have hError {e : StreamError} (ended : (other.on w).1 = .ok (.error e)) :
      ∃ e', (act.on w).1 = .ok (.error e') ∧ e'.precondition = e.precondition := by
    rw [same] at ended
    obtain ⟨answer, hAnswer, hLast, -⟩ := Act.of_on_bind_ok ended
    cases answer with
    | ok _ => cases hLast
    | error e' =>
      cases hLast
      refine ⟨e', hAnswer, ?_⟩
      cases e' <;> rfl
  constructor <;> intro e ended <;> obtain ⟨e', hEnded, hSame⟩ := hError ended <;>
    rw [hLeft, ← hSame]
  · exact h.asked e' hEnded
  · exact h.idle e' hEnded

namespace System.Transacts

variable (serves : env.Serves look manners)

include serves

/-- Errors of reads tell whether the host was asked. -/
theorem tells_readRanges (ranges : List Range) (w : System κ) :
    (r.readRanges env ranges).Tells r w := by
  have hGrows : env.Within (Steps look) :=
    ((Steps.unconcerned look manners).sustained.serves serves).2
  cases hRefusal : (w.status r).refusal? "read_ranges" ranges with
  | some e =>
    refine .of_on (StreamRef.on_readRanges_of_refused hRefusal) fun _ he => ?_
    cases he
    exact Status.precondition_of_refusal hRefusal
  | none => exact (StreamRef.consults_readRanges env hRefusal).tells (hGrows.requestRanges _ _ _)

/-- Errors of writes tell whether the host was asked. -/
theorem tells_write (data : List UInt8) (w : System κ) : (r.write env data).Tells r w := by
  have hGrows : env.Within (Steps look) :=
    ((Steps.unconcerned look manners).sustained.serves serves).2
  cases hUsable : (w.status r).usable with
  | false =>
    refine .of_on (StreamRef.on_write_of_unusable hUsable data) fun _ he => ?_
    cases he
    rfl
  | true =>
    by_cases hNil : data = []
    · subst hNil
      exact .of_on (StreamRef.on_write_nil hUsable) fun _ he => by cases he
    · exact (StreamRef.consults_write hUsable hNil).tells (hGrows.write _ _)

end System.Transacts

/-- What was registered is withdrawn. -/
theorem StreamRef.status_readRanges_of_refused {ranges : List Range} (aloof : env.Aloof r)
    (fresh : (w.status r).nextRequest ∉ (w.status r).pending.ids) {operation : String}
    {source : HostError}
    (ended : ((r.readRanges env ranges).on w).1 = .ok (.error (.host operation source))) :
    ((r.readRanges env ranges).left w).status r =
      { w.status r with nextRequest := (w.status r).nextRequest.next } := by
  have hAdmitted : (w.status r).refusal? "read_ranges" ranges = none := by
    cases hRefusal : (w.status r).refusal? "read_ranges" ranges with
    | none => rfl
    | some e =>
      rw [on_readRanges_of_refused hRefusal] at ended
      cases ended
      cases Status.precondition_of_refusal hRefusal
  have hReads := consults_readRanges env hAdmitted
  obtain ⟨e, v, hEnd, -⟩ := (hReads.of_ok ended).resolve_left fun ⟨_, _, _, hServed⟩ => by
    cases hServed
  have hOpened : (w.status r).state = .opened := by
    by_contra hState
    rw [Status.refusal?, if_pos (.inl hState)] at hAdmitted
    cases hAdmitted
  have made : w.Has r := System.has_of_state_ne (by rw [hOpened]; simp)
  have hStatus : v.status r = (w.status r).register ranges := by
    have hSame := aloof.requestRanges (w.stream r).id (w.status r).nextRequest ranges
      (w.asks r (.requestRanges (w.status r).nextRequest ranges) (·.register ranges))
    rw [Act.left, hEnd] at hSame
    refine (congrArg Life.status hSame).trans ?_
    change (w.asks r _ _).status r = _
    rw [System.asks, System.status_record, System.status_updateStatus, if_pos ⟨rfl, made⟩]
  have hMade : v.Has r := System.has_of_state_ne (by rw [hStatus, Status.register, hOpened]; simp)
  rw [Act.left, hReads.refused e v hEnd, System.status_updateStatus, System.status_record,
    if_pos ⟨rfl, hMade⟩, hStatus, Status.withdraw, Status.register,
    PendingReads.erase_insert fresh]

/-- However it is called, a read that the host refuses has used up its number, and that is all. -/
theorem StreamRef.Reads.status_of_refused {act : Act κ (Except StreamError RequestId)}
    (h : r.Reads env act) (aloof : env.Aloof r)
    (fresh : (w.status r).nextRequest ∉ (w.status r).pending.ids) {operation : String}
    {source : HostError} (ended : (act.on w).1 = .ok (.error (.host operation source))) :
    (act.left w).status r =
      { w.status r with nextRequest := (w.status r).nextRequest.next } := by
  cases h with
  | several ranges => exact status_readRanges_of_refused aloof fresh ended
  | one start stop =>
    have hSame := on_readRange env r start stop w
    rw [hSame] at ended
    obtain ⟨answer, hAnswer, hLast, hLeft⟩ := Act.of_on_bind_ok ended
    rw [Act.left, hSame]
    refine (congrArg (System.status · r) hLeft).trans ?_
    cases answer with
    | ok _ => cases hLast
    | error e =>
      cases e with
      | host name cause => exact status_readRanges_of_refused aloof fresh hAnswer
      | _ => cases hLast

/-- No more is taken than there is. -/
theorem StreamRef.le_of_write {data : List UInt8} {n : Nat}
    (ended : ((r.write env data).on w).1 = .ok (.ok n)) : n ≤ data.length := by
  cases hUsable : (w.status r).usable with
  | false =>
    rw [on_write_of_unusable hUsable] at ended
    cases ended
  | true =>
    by_cases hNil : data = []
    · subst hNil
      rw [on_write_nil hUsable] at ended
      cases ended
      exact Nat.le_refl _
    · rcases (consults_write hUsable hNil).of_ok ended with ⟨a, _, -, hTaken⟩ | ⟨_, _, -, hRefused⟩
      · cases hTaken
        exact Nat.min_le_right _ _
      · cases hRefused

/-- The next number is that of no read so far, and no pending one. -/
theorem System.AllLived.fresh (h : w.AllLived) (few : (w.requests r).length < UInt64.size - 1) :
    (w.status r).nextRequest ∉ w.requests r ∧
      (w.status r).nextRequest ∉ (w.status r).pending.ids := by
  rw [System.requests_eq, List.length_reverse] at few
  rw [System.requests_eq, List.mem_reverse]
  by_cases made : w.Has r
  · have hSettled := ((h r).1 made).settled
    have hFresh := hSettled.fresh few
    exact ⟨hFresh, fun hPending => hFresh (hSettled.listed _ hPending)⟩
  · rw [Life.requests, (h r).2 made, System.status, System.stream_of_not_has made]
    exact ⟨List.not_mem_nil, List.not_mem_nil⟩

/-- What is promised of reads and writes is kept of every stream wherever moves have made the lives
of all streams. -/
theorem System.AllLived.transacts (hLived : w.AllLived) (serves : env.Serves look manners)
    (r : StreamRef) : w.Transacts env r := by
  have hUsable (opened : (w.status r).state = .opened) (free : (w.status r).closing = false) :
      (w.status r).usable = true := Status.usable_iff.2 ⟨opened, free⟩
  refine {
    ruledOut := fun _ _ => StreamRef.on_readRanges_of_refused
    read := fun _ => StreamRef.consults_readRanges env
    readOnce := fun aloof ranges admitted =>
      (StreamRef.consults_readRanges env admitted).asked_once (aloof.requestRanges _ _ _ _)
    fresh := fun few => (hLived.fresh few).1
    single := fun start stop => StreamRef.on_readRange env r start stop w
    unopened := fun barred data => StreamRef.on_write_of_unusable ?_ data
    nothing := fun opened free => StreamRef.on_write_nil (hUsable opened free)
    write := fun opened free _ some_ => StreamRef.consults_write (hUsable opened free) some_
    writeOnce := fun aloof opened free data some_ =>
      (StreamRef.consults_write (hUsable opened free) some_).asked_once (aloof.write _ _ _)
    bounded := fun _ _ => StreamRef.le_of_write
    tells := ⟨fun act read => ?_, fun data => System.Transacts.tells_write serves data w⟩
    forgotten := fun aloof few _ read _ _ => read.status_of_refused aloof (hLived.fresh few).2 }
  · rcases barred with hState | hClosing
    · simp [Status.usable, hState]
    · simp [Status.usable, hClosing]
  · cases read with
    | several ranges => exact System.Transacts.tells_readRanges serves ranges w
    | one start stop =>
      exact (System.Transacts.tells_readRanges serves _ w).renamed "read_range"
        (StreamRef.on_readRange env r start stop w)

/-- Moves have made the lives of all streams at every moment of every run, also in the middle of
calls, and wherever they have, what is promised of reads and writes is kept. -/
theorem transfers_transacted (manners : Surroundings κ → Prop) :
    Always manners System.AllLived ∧
    ∀ w : System κ, w.AllLived → ∀ (look : System κ → κ.Note) (env : Surroundings κ),
      env.Serves look manners → ∀ r, w.Transacts env r :=
  ⟨Always.lived manners, fun _ hLived _ _ serves r => hLived.transacts serves r⟩

/-- Surroundings whose host sends nothing. -/
def Surroundings.withholding : Surroundings Client.plain :=
  { obliging with
    host := { obliging.host with
      requestRanges := fun _ _ _ => pure (.error (.rejected "request_ranges" "busy")) } }

/-- They make no calls. -/
theorem Surroundings.serves_withholding : withholding.Serves (fun _ => ()) Surroundings.any :=
  .intro (fun _ => False) (fun _ h => h.elim)
    ⟨fun _ _ _ => .pure _, fun _ _ => .pure _, fun _ _ _ => .pure _, fun _ _ => .pure _,
      fun _ => .pure _, .pure _, fun _ => .pure _, fun _ => .pure _⟩ trivial

theorem reached_partialRead : Reached (fun _ => ()) Surroundings.any
    (Surroundings.obliging.played partialRead) :=
  Surroundings.reached_played (Surroundings.serves_obliging trivial) _

/-- The host is asked for a read, which is where it may read itself. -/
theorem System.AllLived.asks {ranges : List Range} (h : w.AllLived)
    (usable : (w.status r).usable = true) (seekable : (w.status r).seekable = true)
    (some_ : ranges ≠ []) (valid : ∀ range ∈ ranges, range.valid = true) :
    (w.asks r (.requestRanges (w.status r).nextRequest ranges) (·.register ranges)).AllLived :=
  h.moves (.of_deed (System.has_of_state_ne (Status.state_ne_of_usable usable)) (fun _ => rfl) _
    (.read ranges usable seekable some_ valid))

/-- What the host sees when it is asked for a second read beside one of which a part has arrived. -/
def askedTwice : System Client.plain :=
  (Surroundings.obliging.played partialRead).asks ⟨0⟩
    (.requestRanges ((Surroundings.obliging.played partialRead).status ⟨0⟩).nextRequest [⟨0, 5⟩])
    (·.register [⟨0, 5⟩])

/-- While it is asked for the second read, the host itself makes a third one, and refuses it. The
other two stay pending. -/
theorem transfers_transacted_askedTwice :
    ((⟨0⟩ : StreamRef).readRanges .withholding [⟨0, 5⟩, ⟨7, 8⟩] |>.on askedTwice).1 =
      .ok (.error (.host "read_ranges" (.rejected "request_ranges" "busy"))) ∧
    (((⟨0⟩ : StreamRef).readRanges .withholding [⟨0, 5⟩, ⟨7, 8⟩] |>.left askedTwice).status
      ⟨0⟩).pending = [(⟨1⟩, [⟨10, 12⟩, ⟨16, 20⟩]), (⟨2⟩, [⟨0, 5⟩])] ∧
    askedTwice.Transacts .withholding ⟨0⟩ :=
  ⟨by decide +kernel, by decide +kernel,
    (transfers_transacted Surroundings.any).2 _
      (System.AllLived.asks (Always.lived _ _ _ reached_partialRead).1 (by decide +kernel)
        (by decide +kernel) (by simp) (by decide))
      _ _ Surroundings.serves_withholding ⟨0⟩⟩

end HostedStreams
