import HostedStreams.Host.Recording
import HostedStreams.Proofs.Transfers
import HostedStreams.Scenario.Stage

/-! Bytes handed over in portions. A host may take fewer bytes than a write offers, so whoever has
more to hand over offers the rest again. Where the host records what it takes, and takes something
each time, the loop comes to its end, and the record holds the bytes as they were. -/
namespace HostedStreams

variable {κ : Client} {α : Type} {env : Surroundings κ} {r : StreamRef} {w : System κ}

/-- A place in a client's memory where it keeps a recording host. -/
structure Shelf (κ : Client) where
  get : κ.State → RecordingHost
  set : RecordingHost → κ.State → κ.State
  get_set : ∀ host s, get (set host s) = host

namespace Shelf

variable (shelf : Shelf κ)

/-- The host that is kept there. -/
def host (w : System κ) : RecordingHost :=
  shelf.get w.client

/-- Puts another one there. -/
def put (host : RecordingHost) (w : System κ) : System κ :=
  w.updateClient (shelf.set host)

/-- Asks the host that is kept there. -/
def ask (f : RecordingHost → Except HostError α × RecordingHost) : Act κ (Except HostError α) :=
  modifyGet fun w =>
    let (answer, host) := f (shelf.host w)
    (answer, shelf.put host w)

/-- Tells the host that is kept there how many bytes it takes at most. -/
def allow (cap : Option Nat) : Act κ Unit :=
  modify fun w => shelf.put ((shelf.host w).setWriteCap cap) w

/-- To ask the host on the shelf changes nothing but that host. -/
theorem on_ask (f : RecordingHost → Except HostError α × RecordingHost) (w : System κ) :
    (shelf.ask f).on w = (.ok (f (shelf.host w)).1, shelf.put (f (shelf.host w)).2 w) := rfl

@[simp] theorem host_put (host : RecordingHost) (w : System κ) :
    shelf.host (shelf.put host w) = host :=
  shelf.get_set host _

@[simp] theorem host_record (w : System κ) (e : Entry κ.Note) :
    shelf.host (w.record e) = shelf.host w := rfl

end Shelf

/-- Writes until nothing is left, but at most so many times: each write offers what is left after
those before it, and before each one the host is told how much it takes at most. Answers how much
the writes took, and what is left then. -/
def StreamRef.writeAll (env : Surroundings κ) (shelf : Shelf κ) (r : StreamRef) :
    (bound : Nat) → (caps : Nat → Option Nat) → List UInt8 →
      Act κ (Except StreamError (List Nat × List UInt8))
  | _, _, [] => return .ok ([], [])
  | 0, _, left => return .ok ([], left)
  | bound + 1, caps, left => do
    shelf.allow (caps 0)
    match ← r.write env left with
    | .error e => return .error e
    | .ok n =>
      match ← r.writeAll env shelf bound (fun k => caps (k + 1)) (left.drop n) with
      | .error e => return .error e
      | .ok (counts, left) => return .ok (n :: counts, left)

/-- What a host records when a payload is handed over in portions: each write offers all that is
left, some of which is taken, from the front. -/
inductive Portions (id : StreamId) :
    List UInt8 → List Nat → List (StreamId × Recorded) → Prop
  | done : Portions id [] [] []
  | portion {taken left : List UInt8} {counts : List Nat} {news : List (StreamId × Recorded)}
      (some_ : taken ≠ []) (rest : Portions id left counts news) :
      Portions id (taken ++ left) (taken.length :: counts)
        ((id, .write taken (taken ++ left).length) :: news)

namespace Portions

variable {id : StreamId} {payload : List UInt8} {counts : List Nat}
  {news : List (StreamId × Recorded)}

/-- There are no more portions than bytes. -/
theorem length_le (h : Portions id payload counts news) : counts.length ≤ payload.length := by
  induction h with
  | done => exact Nat.le_refl _
  | portion some_ _ ih =>
    have hSome := List.length_pos_iff.2 some_
    rw [List.length_cons, List.length_append]
    omega

/-- All bytes of the payload, in order, are what was taken. -/
theorem written (h : Portions id payload counts news) {before after : RecordingHost}
    (calls : after.calls = before.calls ++ news) : after.written = before.written ++ payload := by
  induction h generalizing before with
  | done => simp [RecordingHost.written, calls]
  | @portion taken left counts news some_ _ ih =>
    have hTaken : (before.note id (.write taken (taken ++ left).length)).written =
        before.written ++ taken := by
      simp [RecordingHost.written, RecordingHost.note]
    have hCalls : after.calls =
        (before.note id (.write taken (taken ++ left).length)).calls ++ news := by
      rw [calls, RecordingHost.note, List.append_assoc, List.singleton_append]
    rw [ih hCalls, hTaken, List.append_assoc]

end Portions

namespace RecordingHost

variable {host : RecordingHost} {id : StreamId}

/-- What is taken of some bytes is taken from the front. -/
theorem accepted_append_drop (host : RecordingHost) (data : List UInt8) :
    host.accepted data ++ data.drop (host.accepted data).length = data := by
  rw [accepted]
  split
  · rename_i cap _
    rw [List.length_take]
    rcases Nat.le_total cap data.length with hLess | hMore
    · rw [Nat.min_eq_left hLess, List.take_append_drop]
    · rw [Nat.min_eq_right hMore, List.take_of_length_le hMore]
      simp
  · simp

/-- A host that takes something each time takes a byte at least. -/
theorem accepted_ne_nil (positive : ∀ cap, host.writeCap = some cap → 1 ≤ cap) {data : List UInt8}
    (some_ : data ≠ []) : host.accepted data ≠ [] := by
  rw [accepted]
  split
  · rename_i cap hCap
    have hPositive := positive cap hCap
    simp [some_]
    omega
  · exact some_

/-- A host that knows the stream and does not fail takes the bytes and writes down what it took. -/
theorem write_of_known (known : id ∈ host.known) (sound : host.faultOf? "write" = none)
    (data : List UInt8) : host.write id data = (.ok (host.accepted data).length,
      host.note id (.write (host.accepted data) data.length)) := by
  have hBarrier : host.barrier? "write" id = none := by
    simp [barrier?, sound, known]
  rw [write, hBarrier]

end RecordingHost

/-- The surroundings' host is the one that is kept on the shelf, as far as writes go and where the
client's memory is fit for that. -/
structure Surroundings.Records (env : Surroundings κ) (shelf : Shelf κ) (fit : κ.State → Prop) :
    Prop where
  write : ∀ id data w, fit w.client →
    (env.host.write id data).on w = (shelf.ask (·.write id data)).on w
  keeps : ∀ host s, fit s → fit (shelf.set host s)

/-- The stream is open, and the host knows it and does not fail when it is written to. -/
structure System.Writable (shelf : Shelf κ) (fit : κ.State → Prop) (r : StreamRef) (w : System κ) :
    Prop where
  usable : (w.status r).usable = true
  known : (w.stream r).id ∈ (shelf.host w).known
  sound : (shelf.host w).faultOf? "write" = none
  fit : fit w.client

section

variable {shelf : Shelf κ} {fit : κ.State → Prop} {v : System κ} {data : List UInt8}

/-- What keeps the stream, and what the host knows, keeps the stream writable. -/
theorem System.Writable.of_same (h : w.Writable shelf fit r) (streams : v.streams = w.streams)
    (known : (shelf.host v).known = (shelf.host w).known)
    (faults : (shelf.host v).faults = (shelf.host w).faults) (still : fit v.client) :
    v.Writable shelf fit r where
  usable := by
    rw [System.status, System.stream, streams]
    exact h.usable
  known := by
    rw [System.stream, streams, known]
    exact h.known
  sound := by
    rw [RecordingHost.faultOf?, faults]
    exact h.sound
  fit := still

/-- One write: the host takes what it takes, and writes it down. -/
theorem StreamRef.on_write_of_records (records : env.Records shelf fit)
    (h : w.Writable shelf fit r) (some_ : data ≠ []) :
    ∃ v, (r.write env data).on w = (.ok (.ok ((shelf.host w).accepted data).length), v) ∧
      v.streams = w.streams ∧ v.client = shelf.set ((shelf.host w).note (w.stream r).id
        (.write ((shelf.host w).accepted data) data.length)) w.client := by
  have hAsks : w.asks r (.write data) id =
      w.record (@Entry.hostCall _ (w.stream r).id (.write data) r) :=
    congrArg (System.record _) (System.updateStatus_of_eq rfl)
  have hAsk : (env.host.write (w.stream r).id data).on (w.asks r (.write data) id) =
      (.ok (.ok ((shelf.host w).accepted data).length),
        shelf.put ((shelf.host w).note (w.stream r).id
          (.write ((shelf.host w).accepted data) data.length)) (w.asks r (.write data) id)) := by
    rw [hAsks, records.write _ _ (w.record _) h.fit, Shelf.on_ask, Shelf.host_record,
      RecordingHost.write_of_known h.known h.sound]
  have hLess : ((shelf.host w).accepted data).length ≤ data.length := by
    have hAll := congrArg List.length ((shelf.host w).accepted_append_drop data)
    rw [List.length_append] at hAll
    omega
  have hWrite := (consults_write h.usable some_).served _ _ hAsk
  rw [Nat.min_eq_left hLess, hAsks] at hWrite
  exact ⟨_, hWrite, rfl, rfl⟩

/-- What is promised of a payload that is handed over: -/
structure HandedOver (shelf : Shelf κ) (r : StreamRef) (payload : List UInt8) (counts : List Nat)
    (w v : System κ) : Prop where
  /-- There are no more writes than bytes. -/
  few : counts.length ≤ payload.length
  /-- The host has recorded one request for each of them and nothing else: what it took comes from
  the front of what was offered, and that was all that was left of the payload. -/
  recorded : ∃ news, (shelf.host v).calls = (shelf.host w).calls ++ news ∧
    Portions (w.stream r).id payload counts news
  /-- What it took is the payload. -/
  written : (shelf.host v).written = (shelf.host w).written ++ payload
  /-- To streams nothing has happened. -/
  streams : v.streams = w.streams

/-- What is promised follows from the portions. -/
theorem HandedOver.of_portions {payload : List UInt8} {counts : List Nat}
    {news : List (StreamId × Recorded)} (streams : v.streams = w.streams)
    (calls : (shelf.host v).calls = (shelf.host w).calls ++ news)
    (portions : Portions (w.stream r).id payload counts news) :
    HandedOver shelf r payload counts w v :=
  ⟨portions.length_le, ⟨news, calls, portions⟩, portions.written calls, streams⟩

/-- One turn of the loop: some bytes are taken from the front of what is left, and it can go on. -/
theorem on_turn_of_records (records : env.Records shelf fit) (writable : w.Writable shelf fit r)
    {cap : Option Nat} (positive : ∀ n, cap = some n → 1 ≤ n) (some_ : data ≠ []) :
    ∃ taken left v, data = taken ++ left ∧ taken ≠ [] ∧
      (do shelf.allow cap; r.write env data : Act κ _).on w = (.ok (.ok taken.length), v) ∧
      v.Writable shelf fit r ∧ v.streams = w.streams ∧ (shelf.host v).calls =
        (shelf.host w).calls ++ [((w.stream r).id, .write taken data.length)] := by
  obtain ⟨host, hHost⟩ : ∃ host, host = (shelf.host w).setWriteCap cap := ⟨_, rfl⟩
  have hAllowed : (shelf.put host w).Writable shelf fit r := by
    refine writable.of_same rfl ?_ ?_ (records.keeps _ _ writable.fit) <;>
      rw [Shelf.host_put, hHost] <;> rfl
  obtain ⟨v, hWrite, hStreams, hClient⟩ := StreamRef.on_write_of_records records hAllowed some_
  rw [Shelf.host_put] at hWrite hClient
  have hNoted : shelf.host v =
      host.note (w.stream r).id (.write (host.accepted data) data.length) := by
    rw [Shelf.host, hClient, shelf.get_set]
    rfl
  refine ⟨host.accepted data, data.drop (host.accepted data).length, v,
    (host.accepted_append_drop data).symm, ?_, ?_, ?_, hStreams, ?_⟩
  · refine RecordingHost.accepted_ne_nil (fun n hCap => positive n ?_) some_
    rw [← hCap, hHost]
    rfl
  · rw [Shelf.allow, Act.on_modify_bind, ← hHost]
    exact hWrite
  · refine hAllowed.of_same hStreams ?_ ?_ ?_
    · rw [hNoted, Shelf.host_put]
      rfl
    · rw [hNoted, Shelf.host_put]
      rfl
    · rw [hClient]
      exact records.keeps _ _ hAllowed.fit
  · rw [hNoted, hHost]
    rfl

/-- However many bytes are to be handed over, and however many the host takes at a time, as long as
it takes any: writing what is left until nothing is left comes to its end, after no more writes than
there are bytes. -/
theorem writeAll_hands_over (records : env.Records shelf fit) (writable : w.Writable shelf fit r)
    (caps : Nat → Option Nat) (positive : ∀ k cap, caps k = some cap → 1 ≤ cap)
    (payload : List UInt8) (bound : Nat) (enough : payload.length ≤ bound) :
    ∃ counts v, (r.writeAll env shelf bound caps payload).on w = (.ok (.ok (counts, [])), v) ∧
      HandedOver shelf r payload counts w v := by
  induction bound generalizing payload caps w with
  | zero =>
    obtain rfl := List.length_eq_zero_iff.1 (Nat.le_zero.1 enough)
    exact ⟨[], w, rfl, .of_portions rfl (by simp) .done⟩
  | succ bound ih =>
    cases hPayload : payload with
    | nil => exact ⟨[], w, rfl, .of_portions rfl (by simp) .done⟩
    | cons first others =>
      obtain ⟨taken, left, v, hSplit, hTaken, hTurn, hWritable, hStreams, hCalls⟩ :=
        on_turn_of_records records writable (positive 0) (List.cons_ne_nil first others)
      have hLess : left.length ≤ bound := by
        have hSome := List.length_pos_iff.2 hTaken
        rw [hPayload, hSplit, List.length_append] at enough
        omega
      obtain ⟨counts, x, hRest, hOver⟩ := ih hWritable (fun k => caps (k + 1))
        (fun k => positive (k + 1)) left hLess
      obtain ⟨news, hLater, hPortions⟩ := hOver.recorded
      refine ⟨taken.length :: counts, x, ?_, ?_⟩
      · have hDrop : (first :: others).drop taken.length = left := by
          rw [hSplit, List.drop_left]
        rw [← hDrop] at hRest
        simp only [StreamRef.writeAll, ← bind_assoc]
        rw [Act.on_bind_ok hTurn]
        exact Act.on_bind_ok hRest _
      · have hId : (v.stream r).id = (w.stream r).id := by
          rw [System.stream, hStreams, System.stream]
        rw [hId] at hPortions
        rw [hSplit] at hCalls ⊢
        exact .of_portions (hOver.streams.trans hStreams)
          (by rw [hLater, hCalls, List.append_assoc, List.singleton_append])
          (.portion hTaken hPortions)

end

/-! A scenario's host is such a host, as long as no rule is set off by writes. -/

namespace Scenario

/-- Where a scene has its host. -/
def shelf : Shelf player where
  get := Scene.host
  set host s := { s with host }
  get_set _ _ := rfl

/-- The scene's host records, and sets nothing off. -/
def Scene.Plain (s : Scene) : Prop :=
  s.hostKind = .recording ∧ s.hooks = []

/-- Nothing is set off where there are no rules. -/
theorem on_hook_of_none {below : Surroundings player} {w : System player}
    (none_ : w.client.hooks = []) (call : String) (id : StreamId) :
    (hook below call id).on w = (.ok (), w) := by
  have hSame : w.updateClient (fun s : Scene => { s with hooks := [] }) = w := by
    rw [← none_]
    rfl
  simp only [hook, Act.on_get_bind, none_]
  rw [Act.on_modify_bind]
  exact congrArg (Prod.mk _) hSame

/-- The hosts of scenes record what is written at whatever depth. -/
theorem records_stage (level : Nat) : (stage (level + 1)).Records shelf Scene.Plain where
  write id data w fit := by
    obtain ⟨hKind, hHooks⟩ := fit
    simp only [stage, hostAt]
    rw [Act.on_bind_ok (on_hook_of_none hHooks "write" id), Act.on_get_bind, hKind]
    rfl
  keeps _ _ fit := fit

/-- A scene in which a stream is open. -/
def opened : System player :=
  (do
    let r ← makeStream (.drawn 0) { url := "" } .free
    let _ ← r.start (stage 1)
    let _ ← r.receive (stage 1) (.opened {})
    return () : Act player Unit).left { client := {} }

/-- Ten bytes are handed over to a host that takes four of them, then three, then all there are. -/
theorem writeAll_hands_over_opened :
    ∃ v, ((⟨0⟩ : StreamRef).writeAll (stage 1) shelf 10 (fun k => [some 4, some 3][k]?.join)
        [0, 1, 2, 3, 4, 5, 6, 7, 8, 9]).on opened = (.ok (.ok ([4, 3, 3], [])), v) ∧
      HandedOver shelf ⟨0⟩ [0, 1, 2, 3, 4, 5, 6, 7, 8, 9] [4, 3, 3] opened v := by
  have hWritable : opened.Writable shelf Scene.Plain ⟨0⟩ :=
    ⟨by decide +kernel, by decide +kernel, by decide +kernel, rfl, rfl⟩
  obtain ⟨counts, v, hEnd, hOver⟩ := writeAll_hands_over (records_stage 0) hWritable
    (fun k => [some 4, some 3][k]?.join) (fun k cap hCap => by
      rcases k with _ | _ | k <;> simp at hCap <;> omega)
    [0, 1, 2, 3, 4, 5, 6, 7, 8, 9] 10 (by decide)
  have hCounts : ((⟨0⟩ : StreamRef).writeAll (stage 1) shelf 10 (fun k => [some 4, some 3][k]?.join)
      [0, 1, 2, 3, 4, 5, 6, 7, 8, 9] |>.on opened).1 = .ok (.ok ([4, 3, 3], [])) := by
    decide +kernel
  rw [hEnd] at hCounts
  cases hCounts
  exact ⟨v, hEnd, hOver⟩

end Scenario

end HostedStreams
