import HostedStreams.Host.Recording
import Mathlib.Data.List.Induction

/-! A recording host against the history of what was done with it. Whether a request is granted
goes by what was last said about requests of its name, and by whether the stream has been opened
since it was last closed or forgotten. What was granted is on record, in order, and nothing else
is. Nobody learns from the answers about one stream what was done with the others. -/
namespace HostedStreams

section

variable {α : Type} {begins ends : α → Prop} {past before between : List α} {x : α}

/-- Something that began it is in the past, and nothing that ends it came later. -/
def Since (begins ends : α → Prop) (past : List α) : Prop :=
  ∃ earlier x later, past = earlier ++ x :: later ∧ begins x ∧ ∀ y ∈ later, ¬ ends y

theorem not_since_nil : ¬ Since begins ends [] := by
  rintro ⟨earlier, x, later, hPast, -, -⟩
  simp at hPast

/-- The last thing begins it, or does not end what was so before. -/
theorem since_append_singleton :
    Since begins ends (past ++ [x]) ↔ begins x ∨ ¬ ends x ∧ Since begins ends past := by
  constructor
  · rintro ⟨earlier, y, later, hPast, hBegins, hLater⟩
    rcases List.eq_nil_or_concat later with rfl | ⟨front, z, rfl⟩
    · obtain ⟨-, hLast⟩ := List.append_inj' hPast rfl
      obtain rfl := List.singleton_inj.1 hLast
      exact .inl hBegins
    · rw [List.concat_eq_append, ← List.cons_append, ← List.append_assoc] at hPast
      obtain ⟨rfl, hLast⟩ := List.append_inj' hPast rfl
      obtain rfl := List.singleton_inj.1 hLast
      rw [List.concat_eq_append] at hLater
      exact .inr ⟨hLater x (by simp), earlier, y, front, rfl, hBegins,
        fun w hw => hLater w (List.mem_append_left _ hw)⟩
  · rintro (hBegins | ⟨hEnds, earlier, y, later, rfl, hBegins, hLater⟩)
    · exact ⟨past, x, [], rfl, hBegins, by simp⟩
    · refine ⟨earlier, y, later ++ [x], by simp, hBegins, ?_⟩
      simp only [List.mem_append, List.mem_singleton]
      rintro w (hw | rfl)
      · exact hLater w hw
      · exact hEnds

/-- What was ended and is so again began again. -/
theorem Since.again (h : Since begins ends (before ++ x :: between)) (ended : ends x)
    (apart : ¬ begins x) : ∃ y ∈ between, begins y := by
  induction between using List.reverseRecOn with
  | nil =>
    rcases since_append_singleton.1 h with hBegins | ⟨hEnds, -⟩
    · exact absurd hBegins apart
    · exact absurd ended hEnds
  | append_singleton between y ih =>
    rw [← List.cons_append, ← List.append_assoc, since_append_singleton] at h
    rcases h with hBegins | ⟨-, hBefore⟩
    · exact ⟨y, by simp, hBegins⟩
    · obtain ⟨z, hMem, hBegins⟩ := ih hBefore
      exact ⟨z, List.mem_append_left _ hMem, hBegins⟩

end

/-- The error that the fault makes of requests of the name. -/
def Fault.error (call : String) : Fault → HostError
  | .reject => .rejected call RecordingHost.injected
  | .breakDown => .failed call RecordingHost.injected

/-- What goes on record of the request when so many bytes were taken by it. -/
def HostCall.recorded (taken : Option Nat) : HostCall → Recorded
  | .start config => .start config
  | .requestRanges request ranges => .requestRanges request ranges
  | .write data => .write (data.take (taken.getD 0)) data.length
  | .cancel => .cancel

namespace RecordingHost

/-- How a request ends; writes tell how many bytes were taken. -/
abbrev Answer := Except HostError (Option Nat)

/-- What can be done with a recording host: it is asked for something about a stream, or it is told
how to behave. -/
inductive Operation where
  | ask (id : StreamId) (call : HostCall)
  | forget (id : StreamId)
  | setFault (call : String) (fault : Fault)
  | recover (call : String)
  | setWriteCap (cap : Option Nat)

variable {host v : RecordingHost} {id : StreamId} {call : HostCall} {fault : Fault}

/-- Makes the request. -/
def ask (id : StreamId) (call : HostCall) (host : RecordingHost) : Answer × RecordingHost :=
  match call with
  | .start config => (host.start id config).map (·.map fun _ => none) (·)
  | .requestRanges request ranges =>
    (host.requestRanges id request ranges).map (·.map fun _ => none) (·)
  | .write data => (host.write id data).map (·.map some) (·)
  | .cancel => (host.cancel id).map (·.map fun _ => none) (·)

/-- Carries the operation out. What the host is told is never refused. -/
def perform (host : RecordingHost) : Operation → Answer × RecordingHost
  | .ask id call => host.ask id call
  | .forget id => (.ok none, host.forget id)
  | .setFault call fault => (.ok none, host.setFault call fault)
  | .recover call => (.ok none, host.recover call)
  | .setWriteCap cap => (.ok none, host.setWriteCap cap)

/-- How requests of the name are made to fail, if they are. -/
def fault? (host : RecordingHost) (call : String) : Option Fault :=
  (host.faults.find? (·.1 == call)).map (·.2)

/-- A request fails as requests of its name are made to. -/
theorem faultOf?_eq (host : RecordingHost) (call : String) :
    host.faultOf? call = (host.fault? call).map (·.error call) := by
  rw [faultOf?, fault?, Option.map_map]
  rfl

/-- How many bytes a granted request takes, if it is one that takes any. -/
def taken (host : RecordingHost) : HostCall → Option Nat
  | .write data => some (host.accepted data).length
  | _ => none

/-- The host with the streams that it knows after the request was granted. -/
def follow (id : StreamId) (call : HostCall) (host : RecordingHost) : RecordingHost :=
  match call with
  | .start _ => { host with known := id :: host.known.filter (· != id) }
  | .cancel => host.forget id
  | _ => host

/-- What the host takes of the data is its front. -/
theorem take_accepted (host : RecordingHost) (data : List UInt8) :
    data.take (host.accepted data).length = host.accepted data := by
  rw [accepted]
  cases host.writeCap with
  | none => exact List.take_length
  | some cap => simp

/-- What stands in the way of a request that does not start a transfer refuses it. -/
theorem ask_of_barrier {e : HostError} (later : call.starts = false)
    (barrier : host.barrier? call.name id = some e) : host.ask id call = (.error e, host) := by
  cases call with
  | start config => cases later
  | requestRanges request ranges =>
    have hBarrier : host.barrier? "request_ranges" id = some e := barrier
    simp only [ask, requestRanges, hBarrier]
    rfl
  | write data =>
    have hBarrier : host.barrier? "write" id = some e := barrier
    simp only [ask, write, hBarrier]
    rfl
  | cancel =>
    have hBarrier : host.barrier? "close" id = some e := barrier
    simp only [ask, cancel, hBarrier]
    rfl

/-- A request of a name that fails has no other effect. -/
theorem ask_of_fault (failing : host.fault? call.name = some fault) (id : StreamId) :
    host.ask id call = (.error (fault.error call.name), host) := by
  have hFault : host.faultOf? call.name = some (fault.error call.name) := by
    rw [faultOf?_eq, failing]
    rfl
  cases hStarts : call.starts with
  | false => exact ask_of_barrier hStarts (by rw [barrier?, hFault])
  | true =>
    cases call with
    | start config =>
      have hOpen : host.faultOf? "open" = some (fault.error "open") := hFault
      simp only [ask, start, hOpen]
      rfl
    | _ => cases hStarts

/-- A stream that the host does not know can only be started. -/
theorem ask_of_stranger (sound : host.fault? call.name = none) (later : call.starts = false)
    (stranger : id ∉ host.known) : host.ask id call = (.error (.unknownStream id), host) := by
  refine ask_of_barrier later ?_
  rw [barrier?, faultOf?_eq, sound]
  simp [stranger]

/-- A request that does not fail is granted where it starts a stream or is about a known one. -/
theorem ask_of_granted (sound : host.fault? call.name = none)
    (known : call.starts = true ∨ id ∈ host.known) :
    host.ask id call = (.ok (host.taken call),
      (host.follow id call).note id (call.recorded (host.taken call))) := by
  have hFault : host.faultOf? call.name = none := by
    rw [faultOf?_eq, sound]
    rfl
  have hBarrier (later : call.starts = false) : host.barrier? call.name id = none := by
    have hKnown : id ∈ host.known := known.resolve_left (by simp [later])
    rw [barrier?, hFault]
    simp [hKnown]
  cases call with
  | start config =>
    have hOpen : host.faultOf? "open" = none := hFault
    simp only [ask, start, hOpen]
    rfl
  | requestRanges request ranges =>
    have hRanges : host.barrier? "request_ranges" id = none := hBarrier rfl
    simp only [ask, requestRanges, hRanges]
    rfl
  | write data =>
    have hWrite : host.barrier? "write" id = none := hBarrier rfl
    simp only [ask, write, hWrite, taken, HostCall.recorded, Option.getD_some, take_accepted]
    rfl
  | cancel =>
    have hClose : host.barrier? "close" id = none := hBarrier rfl
    simp only [ask, cancel, hClose]
    rfl

@[simp] theorem calls_follow : (host.follow id call).calls = host.calls := by
  cases call <;> rfl

@[simp] theorem faults_follow : (host.follow id call).faults = host.faults := by
  cases call <;> rfl

@[simp] theorem writeCap_follow : (host.follow id call).writeCap = host.writeCap := by
  cases call <;> rfl

/-- A request fails if it is made to, or else if it is about a stream that the host does not know,
or else it is granted. -/
theorem ask_cases (host : RecordingHost) (id : StreamId) (call : HostCall) :
    (∃ fault, host.fault? call.name = some fault ∧
      host.ask id call = (.error (fault.error call.name), host)) ∨
    (host.fault? call.name = none ∧ call.starts = false ∧ id ∉ host.known ∧
      host.ask id call = (.error (.unknownStream id), host)) ∨
    host.fault? call.name = none ∧ (call.starts = true ∨ id ∈ host.known) ∧
      host.ask id call = (.ok (host.taken call),
        (host.follow id call).note id (call.recorded (host.taken call))) := by
  cases hFault : host.fault? call.name with
  | some fault => exact .inl ⟨fault, rfl, ask_of_fault hFault id⟩
  | none =>
    by_cases hKnown : call.starts = true ∨ id ∈ host.known
    · exact .inr (.inr ⟨rfl, hKnown, ask_of_granted hFault hKnown⟩)
    · rw [not_or, Bool.not_eq_true] at hKnown
      exact .inr (.inl ⟨rfl, hKnown.1, hKnown.2, ask_of_stranger hFault hKnown.1 hKnown.2⟩)

/-! What was done. -/

/-- An operation and how it ended. -/
abbrev Turn := Operation × Answer

/-- The turn grants a request to start the stream's transfer. -/
def Turn.opens (id : StreamId) (turn : Turn) : Prop :=
  ∃ config taken, turn = (.ask id (.start config), .ok taken)

/-- The turn grants a request to cancel the stream's transfer, or has the stream forgotten. -/
def Turn.ends (id : StreamId) (turn : Turn) : Prop :=
  (∃ taken, turn = (.ask id .cancel, .ok taken)) ∨ turn.1 = .forget id

/-- The turn says how requests of the name fail. -/
def Turn.breaks (call : String) (fault : Fault) (turn : Turn) : Prop :=
  turn.1 = .setFault call fault

/-- The turn says something new about whether requests of the name fail. -/
def Turn.settles (call : String) (turn : Turn) : Prop :=
  turn.1 = .recover call ∨ ∃ fault, turn.1 = .setFault call fault

/-- What the turn puts on record. -/
def Turn.recorded : Turn → Option (StreamId × Recorded)
  | (.ask id call, .ok taken) => some (id, call.recorded taken)
  | _ => none

/-- The stream has been opened since it was last closed or forgotten. -/
def Open (past : List Turn) (id : StreamId) : Prop :=
  Since (Turn.opens id) (Turn.ends id) past

/-- The last that was said about requests of the name is that they fail in this way. -/
def Failing (past : List Turn) (call : String) (fault : Fault) : Prop :=
  Since (Turn.breaks call fault) (Turn.settles call) past

/-- A transfer of the stream has gone on record since the end of one did last. -/
def Standing (calls : List (StreamId × Recorded)) (id : StreamId) : Prop :=
  Since (fun entry => ∃ config, entry = (id, .start config)) (· = (id, .cancel)) calls

/-- The host stands as the past has it. -/
structure Agrees (past : List Turn) (host : RecordingHost) : Prop where
  faults : ∀ call fault, host.fault? call = some fault ↔ Failing past call fault
  known : ∀ id, id ∈ host.known ↔ Open past id
  calls : host.calls = past.filterMap Turn.recorded
  standing : ∀ id ∈ host.known, Standing host.calls id
  paired : ∀ {id before after}, host.calls = before ++ (id, .cancel) :: after → Standing before id

section

variable {past : List Turn} {other : StreamId} {name c : String}

/-- Faults of other names are found as before. -/
theorem find?_filter (faults : List (String × Fault)) (name c : String) :
    (faults.filter (·.1 != name)).find? (·.1 == c) =
      if name = c then none else faults.find? (·.1 == c) := by
  rw [List.find?_filter]
  split
  case isTrue hName => simp [hName]
  case isFalse hName =>
    congr 1
    funext entry
    by_cases hEntry : entry.1 = c
    · simp [hEntry, Ne.symm hName]
    · simp [hEntry]

/-- A name recovers alone. -/
theorem fault?_recover (name c : String) (host : RecordingHost) :
    (host.recover name).fault? c = if name = c then none else host.fault? c := by
  rw [fault?, recover, find?_filter]
  split <;> rfl

/-- A name fails alone. -/
theorem fault?_setFault (name c : String) (fault : Fault) (host : RecordingHost) :
    (host.setFault name fault).fault? c = if name = c then some fault else host.fault? c := by
  by_cases hName : name = c
  · simp [fault?, setFault, hName]
  · have hOther : (name == c) = false := beq_eq_false_iff_ne.2 hName
    simp only [fault?, setFault, List.find?_cons, hOther, find?_filter, if_neg hName]

/-- A stream that is forgotten is not known any more. -/
theorem mem_forget : other ∈ (host.forget id).known ↔ id ≠ other ∧ other ∈ host.known := by
  simp [forget, and_comm, ne_comm]

theorem mem_forget_of_ne (another : id ≠ other) :
    other ∈ (host.forget id).known ↔ other ∈ host.known :=
  mem_forget.trans (and_iff_right another)

/-- A stream that is started is known. -/
theorem mem_follow_start {config : StreamConfig} :
    other ∈ (host.follow id (.start config)).known ↔ id = other ∨ other ∈ host.known := by
  by_cases hSame : id = other
  · simp [follow, hSame]
  · simp [follow, hSame, Ne.symm hSame]

namespace Agrees

theorem fresh (cap : Option Nat) : Agrees [] { writeCap := cap } where
  faults call fault := iff_of_false (by simp [fault?]) not_since_nil
  known id := iff_of_false (by simp) not_since_nil
  calls := rfl
  standing id h := absurd h (by simp)
  paired h := by simp at h

/-- A turn that is no request. -/
theorem told {turn : Turn} (h : Agrees past host) (quiet : turn.recorded = none)
    (opens : ∀ id, ¬ turn.opens id) (calls : v.calls = host.calls)
    (known : ∀ id, id ∈ v.known ↔ ¬ turn.ends id ∧ id ∈ host.known)
    (faults : ∀ call fault, v.fault? call = some fault ↔
      turn.breaks call fault ∨ ¬ turn.settles call ∧ host.fault? call = some fault) :
    Agrees (past ++ [turn]) v where
  faults call fault := by
    rw [faults, h.faults]
    exact since_append_singleton.symm
  known id := by
    rw [known, h.known, Open, Open, since_append_singleton]
    exact (or_iff_right (opens id)).symm
  calls := by rw [calls, h.calls, List.filterMap_append]; simp [quiet]
  standing id hKnown := by
    rw [calls]
    exact h.standing id ((known id).1 hKnown).2
  paired hCalls := h.paired (calls ▸ hCalls)

/-- A request that fails leaves the host as the past has it. -/
theorem refused (h : Agrees past host) (id : StreamId) (call : HostCall) (e : HostError) :
    Agrees (past ++ [(.ask id call, .error e)]) host :=
  h.told rfl (fun _ => by simp [Turn.opens]) rfl (fun _ => by simp [Turn.ends])
    fun _ _ => by simp [Turn.breaks, Turn.settles]

/-- A request that is granted goes on record. -/
theorem granted (h : Agrees past host) (known : call.starts = true ∨ id ∈ host.known)
    (taken : Option Nat) : Agrees (past ++ [(.ask id call, .ok taken)])
      ((host.follow id call).note id (call.recorded taken)) where
  faults name fault := by
    rw [Failing, since_append_singleton, ← Failing, ← h.faults]
    simp [Turn.breaks, Turn.settles, fault?, note]
  known other := by
    rw [Open, since_append_singleton, ← Open, ← h.known]
    change other ∈ (host.follow id call).known ↔ _
    cases call with
    | start config => simp [mem_follow_start, Turn.opens, Turn.ends]
    | cancel =>
      refine mem_forget.trans ?_
      simp [Turn.opens, Turn.ends]
    | _ => simp [follow, Turn.opens, Turn.ends]
  calls := by
    rw [note, calls_follow, h.calls, List.filterMap_append]
    rfl
  standing other hKnown := by
    rw [note, calls_follow, Standing, since_append_singleton]
    change other ∈ (host.follow id call).known at hKnown
    cases call with
    | start config =>
      rcases mem_follow_start.1 hKnown with rfl | hBefore
      · exact .inl ⟨config, rfl⟩
      · exact .inr ⟨by simp [HostCall.recorded], h.standing other hBefore⟩
    | cancel =>
      obtain ⟨hOther, hBefore⟩ := mem_forget.1 hKnown
      exact .inr ⟨by simp [hOther], h.standing other hBefore⟩
    | _ => exact .inr ⟨by simp [HostCall.recorded], h.standing other hKnown⟩
  paired := by
    intro other before after hCalls
    rw [note, calls_follow] at hCalls
    -- Either this end was granted just now, to a stream that was known, or it is an older one.
    rcases List.eq_nil_or_concat after with rfl | ⟨front, entry, rfl⟩
    · obtain ⟨rfl, hLast⟩ := List.append_inj' hCalls rfl
      obtain ⟨rfl, hEnds⟩ := Prod.mk.inj (List.singleton_inj.1 hLast)
      have hCancel : call = .cancel := by
        cases call <;> first | rfl | cases hEnds
      rw [hCancel] at known
      exact h.standing id (known.resolve_left Bool.false_ne_true)
    · rw [List.concat_eq_append, ← List.cons_append, ← List.append_assoc] at hCalls
      exact h.paired (List.append_inj' hCalls rfl).1

/-- Whatever is done, what the host answers joins the past. -/
theorem perform (h : Agrees past host) (op : Operation) :
    Agrees (past ++ [(op, (host.perform op).1)]) (host.perform op).2 := by
  cases op with
  | ask id call =>
    change Agrees (past ++ [(.ask id call, (host.ask id call).1)]) (host.ask id call).2
    rcases ask_cases host id call with
      ⟨fault, -, hAsk⟩ | ⟨-, -, -, hAsk⟩ | ⟨-, hKnown, hAsk⟩ <;> rw [hAsk]
    · exact h.refused id call _
    · exact h.refused id call _
    · exact h.granted hKnown _
  | forget id =>
    refine h.told rfl (fun _ => by simp [Turn.opens]) rfl (fun other => ?_) fun name fault => ?_
    · exact mem_forget.trans (by simp [Turn.ends])
    · simp [Turn.breaks, Turn.settles, fault?, RecordingHost.perform, RecordingHost.forget]
  | setFault name fault =>
    refine h.told rfl (fun _ => by simp [Turn.opens]) rfl (fun _ => ?_) fun c other => ?_
    · simp [Turn.ends, RecordingHost.perform, RecordingHost.setFault]
    · change (host.setFault name fault).fault? c = some other ↔ _
      rw [fault?_setFault]
      by_cases hName : name = c
      · simp [Turn.breaks, Turn.settles, hName]
      · simp [Turn.breaks, Turn.settles, hName]
  | recover name =>
    refine h.told rfl (fun _ => by simp [Turn.opens]) rfl (fun _ => ?_) fun c other => ?_
    · simp [Turn.ends, RecordingHost.perform, RecordingHost.recover]
    · change (host.recover name).fault? c = some other ↔ _
      rw [fault?_recover]
      by_cases hName : name = c
      · simp [Turn.breaks, Turn.settles, hName]
      · simp [Turn.breaks, Turn.settles, hName]
  | setWriteCap cap =>
    refine h.told rfl (fun _ => by simp [Turn.opens]) rfl (fun _ => ?_) fun c other => ?_
    · simp [Turn.ends, RecordingHost.perform, RecordingHost.setWriteCap]
    · simp [Turn.breaks, Turn.settles, fault?, RecordingHost.perform, RecordingHost.setWriteCap]

end Agrees

end

/-- Does one thing more with a host that has a past. -/
def serve (course : List Turn × RecordingHost) (op : Operation) : List Turn × RecordingHost :=
  (course.1 ++ [(op, (course.2.perform op).1)], (course.2.perform op).2)

/-- Does one thing after the other with a new host. -/
def served (cap : Option Nat) (ops : List Operation) : List Turn × RecordingHost :=
  ops.foldl serve ([], { writeCap := cap })

/-- What is done last is done to the host that all before has left. -/
theorem served_append_singleton (cap : Option Nat) (ops : List Operation) (op : Operation) :
    served cap (ops ++ [op]) = serve (served cap ops) op := by
  simp [served]

/-- After any operations the host stands as their past has it. -/
theorem agrees_served (cap : Option Nat) (ops : List Operation) :
    Agrees (served cap ops).1 (served cap ops).2 := by
  induction ops using List.reverseRecOn with
  | nil => exact .fresh cap
  | append_singleton ops op ih =>
    rw [served_append_singleton]
    exact ih.perform op

/-- What can be said of a host that has this past, and of whatever is asked of it next. -/
structure Accountable (past : List Turn) (host : RecordingHost) : Prop where
  /-- What does not fail is granted if it opens the stream or finds it open. -/
  granted : ∀ id call, (∃ taken, (host.ask id call).1 = .ok taken) ↔
    (∀ fault, ¬ Failing past call.name fault) ∧ ((∃ config, call = .start config) ∨ Open past id)
  /-- That requests fail is told first, whether the stream is open or not. -/
  injected : ∀ id call fault, Failing past call.name fault →
    (host.ask id call).1 = .error (fault.error call.name)
  unknown : ∀ id call, (∀ fault, ¬ Failing past call.name fault) →
    (∀ config, call ≠ .start config) → ¬ Open past id →
    (host.ask id call).1 = .error (.unknownStream id)
  /-- What is refused changes nothing. -/
  unchanged : ∀ id call e, (host.ask id call).1 = .error e → (host.ask id call).2 = host
  recorded : host.calls = past.filterMap Turn.recorded
  /-- Between two ends of a stream that are on record it was opened. -/
  reopened : ∀ id before between after,
    host.calls = before ++ (id, .cancel) :: between ++ (id, .cancel) :: after →
    ∃ config, (id, .start config) ∈ between

theorem starts_iff : call.starts = true ↔ ∃ config, call = .start config := by
  cases call <;> simp [HostCall.starts]

/-- What can be said of a host follows from how the past has it stand. -/
theorem Agrees.accountable {past : List Turn} (h : Agrees past host) : Accountable past host where
  granted id call := by
    simp only [← h.faults, ← h.known, ← starts_iff, ← Option.eq_none_iff_forall_ne_some]
    rcases ask_cases host id call with
      ⟨fault, hFault, hAsk⟩ | ⟨-, hLater, hStranger, hAsk⟩ | ⟨hSound, hKnown, hAsk⟩ <;> rw [hAsk]
    · simp [hFault]
    · simp [hLater, hStranger]
    · simp [hSound, hKnown]
  injected id call fault hFailing := by
    rw [ask_of_fault ((h.faults _ _).2 hFailing)]
  unknown id call hSound hLater hClosed := by
    simp only [← h.faults, ← Option.eq_none_iff_forall_ne_some] at hSound
    rw [← h.known] at hClosed
    have hStarts : call.starts = false :=
      Bool.eq_false_iff.2 fun hStarts => (starts_iff.1 hStarts).elim hLater
    rw [ask_of_stranger hSound hStarts hClosed]
  unchanged id call e hError := by
    rcases ask_cases host id call with
      ⟨fault, -, hAsk⟩ | ⟨-, -, -, hAsk⟩ | ⟨-, -, hAsk⟩ <;> rw [hAsk] at hError ⊢
    cases hError
  recorded := h.calls
  reopened id before between after hCalls := by
    obtain ⟨entry, hMem, config, rfl⟩ := (h.paired hCalls).again rfl (by simp)
    exact ⟨config, hMem⟩

/-- Whether the operation is none that is about another stream. -/
def Operation.concerns (id : StreamId) : Operation → Bool
  | .ask other _ => other == id
  | .forget other => other == id
  | _ => true

/-- Two hosts are alike as far as requests about the stream can tell. -/
structure AlikeFor (id : StreamId) (host v : RecordingHost) : Prop where
  faults : v.faults = host.faults
  writeCap : v.writeCap = host.writeCap
  known : id ∈ v.known ↔ id ∈ host.known

namespace AlikeFor

theorem fault? (h : AlikeFor id host v) (name : String) : v.fault? name = host.fault? name := by
  rw [RecordingHost.fault?, h.faults, RecordingHost.fault?]

theorem taken (h : AlikeFor id host v) (call : HostCall) : v.taken call = host.taken call := by
  cases call with
  | write data => simp only [RecordingHost.taken, accepted, h.writeCap]
  | _ => rfl

theorem forget (h : AlikeFor id host v) (other : StreamId) :
    AlikeFor id (host.forget other) (v.forget other) where
  faults := h.faults
  writeCap := h.writeCap
  known := by rw [mem_forget, mem_forget, h.known]

theorem follow (h : AlikeFor id host v) (call : HostCall) :
    AlikeFor id (host.follow id call) (v.follow id call) := by
  cases call with
  | start config => exact ⟨h.faults, h.writeCap, by simp [mem_follow_start]⟩
  | cancel => exact h.forget id
  | _ => exact h

/-- The same request about the stream has the same answer. -/
theorem ask (h : AlikeFor id host v) (call : HostCall) :
    (v.ask id call).1 = (host.ask id call).1 ∧
      AlikeFor id (host.ask id call).2 (v.ask id call).2 := by
  -- The other host comes to the same case, since nothing else enters into which one it is.
  rcases ask_cases host id call with
    ⟨fault, hFault, hAsk⟩ | ⟨hSound, hLater, hStranger, hAsk⟩ | ⟨hSound, hKnown, hAsk⟩ <;>
    rw [hAsk]
  · rw [ask_of_fault ((h.fault? _).trans hFault)]
    exact ⟨rfl, h⟩
  · rw [ask_of_stranger ((h.fault? _).trans hSound) hLater (h.known.not.2 hStranger)]
    exact ⟨rfl, h⟩
  · rw [ask_of_granted ((h.fault? _).trans hSound) (hKnown.imp_right h.known.2), h.taken]
    have hFollow := h.follow call
    exact ⟨rfl, hFollow.faults, hFollow.writeCap, hFollow.known⟩

/-- What is done for a stream ends alike with hosts that are alike for it. -/
theorem perform (h : AlikeFor id host v) {op : Operation} (concerns : op.concerns id = true) :
    (v.perform op).1 = (host.perform op).1 ∧
      AlikeFor id (host.perform op).2 (v.perform op).2 := by
  cases op with
  | ask other call =>
    obtain rfl : other = id := beq_iff_eq.1 concerns
    exact h.ask call
  | forget other => exact ⟨rfl, h.forget other⟩
  | setFault name fault =>
    exact ⟨rfl, by simp [RecordingHost.perform, setFault, h.faults], h.writeCap, h.known⟩
  | recover name =>
    exact ⟨rfl, by simp [RecordingHost.perform, recover, h.faults], h.writeCap, h.known⟩
  | setWriteCap cap => exact ⟨rfl, h.faults, rfl, h.known⟩

/-- What is done about other streams goes unnoticed. -/
theorem aside (h : AlikeFor id host v) {op : Operation} (aside : op.concerns id = false) :
    AlikeFor id (host.perform op).2 v := by
  cases op with
  | ask other call =>
    have hOther : other ≠ id := beq_eq_false_iff_ne.1 aside
    change AlikeFor id (host.ask other call).2 v
    rcases ask_cases host other call with
      ⟨fault, -, hAsk⟩ | ⟨-, -, -, hAsk⟩ | ⟨-, -, hAsk⟩ <;> rw [hAsk]
    · exact h
    · exact h
    · refine ⟨h.faults.trans faults_follow.symm, h.writeCap.trans writeCap_follow.symm, ?_⟩
      change id ∈ v.known ↔ id ∈ (host.follow other call).known
      rw [h.known]
      cases call with
      | start config => simp [mem_follow_start, hOther]
      | cancel => exact (mem_forget_of_ne hOther).symm
      | _ => rfl
  | forget other =>
    have hOther : other ≠ id := beq_eq_false_iff_ne.1 aside
    exact ⟨h.faults, h.writeCap, h.known.trans (mem_forget_of_ne hOther).symm⟩
  | _ => cases aside

end AlikeFor

/-- Without what is about other streams, all the rest goes as it went. -/
theorem served_filter (cap : Option Nat) (ops : List Operation) (id : StreamId) :
    (served cap (ops.filter (·.concerns id))).1 =
        (served cap ops).1.filter (·.1.concerns id) ∧
      AlikeFor id (served cap ops).2 (served cap (ops.filter (·.concerns id))).2 := by
  induction ops using List.reverseRecOn with
  | nil => exact ⟨rfl, rfl, rfl, Iff.rfl⟩
  | append_singleton ops op ih =>
    obtain ⟨hTurns, hAlike⟩ := ih
    rw [List.filter_append, served_append_singleton]
    cases hConcerns : op.concerns id with
    | false =>
      have hAside : ¬ op.concerns id = true := Bool.not_eq_true _ ▸ hConcerns
      rw [List.filter_cons_of_neg hAside, List.filter_nil, List.append_nil]
      exact ⟨by simp [serve, hTurns, hConcerns], hAlike.aside hConcerns⟩
    | true =>
      obtain ⟨hAnswer, hAfter⟩ := hAlike.perform hConcerns
      rw [List.filter_cons_of_pos hConcerns, List.filter_nil, served_append_singleton]
      exact ⟨by simp [serve, hTurns, hAnswer, hConcerns], hAfter⟩

/-- After any course of operations the host can be held to what was done, and what was done about
other streams makes no difference to how requests about the stream ended. -/
theorem requests_accounted (cap : Option Nat) (ops : List Operation) :
    Accountable (served cap ops).1 (served cap ops).2 ∧
      ∀ id, (served cap (ops.filter (·.concerns id))).1 =
        (served cap ops).1.filter (·.1.concerns id) :=
  ⟨(agrees_served cap ops).accountable, fun id => (served_filter cap ops id).1⟩

/-- A stream that was closed is unknown. -/
example : (served none [.ask (.drawn 1) (.start { url := "" }), .ask (.drawn 1) .cancel,
    .ask (.drawn 1) .cancel]).1.map (·.2) =
      [.ok none, .ok none, .error (.unknownStream (.drawn 1))] := rfl

end RecordingHost
end HostedStreams
