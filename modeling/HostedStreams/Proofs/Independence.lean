import HostedStreams.Proofs.Invocations
import HostedStreams.Proofs.Isolation
import HostedStreams.Proofs.Turns

/-! Streams do not depend on each other. Where clients mind one stream at a time, what becomes of a
stream goes by the notifications that are meant for it and by their order. So a queue comes to the
same in whatever order notifications wait in it that are meant for different streams. -/
namespace HostedStreams

variable {κ : Client} {shares : Shares κ} {r : StreamRef} {id : StreamId} {env : Surroundings κ}
  {look : System κ → κ.Note} {manners : Surroundings κ → Prop} {u v w : System κ}
  {ns ms : List (StreamId × Event)} {tasks first second : List (StreamId × Option Event)}

/-! Counts of events by their kinds. -/

/-- The counts stay in the order of their labels. -/
theorem Handling.sorted {d e : Desk κ} (h : Handling look (d, w) (e, v))
    (sorted : w.dispatcher.metrics.events.Sorted) : v.dispatcher.metrics.events.Sorted := by
  cases h with
  | quiet _ hQuiet =>
    cases hQuiet with
    | serve _ serves =>
      cases serves with
      | readEvents label => exact sorted.add label 0
      | _ => exact sorted
    | hub | attach | detach => rwa [System.dispatcher_updateSource]
    | _ => exact sorted
  | firing _ hFiring => rwa [hFiring.dispatcher]
  | beside _ hBeside => exact hBeside.events ▸ sorted
  | start => exact .nil
  | count event => exact sorted.add _ 1
  | giveUp _ command => cases command <;> exact sorted
  | _ => exact sorted

/-- The counts of events are sorted by their labels. -/
theorem System.sorted_of_reached (reached : Reached look manners w) :
    w.dispatcher.metrics.events.Sorted :=
  (reached.of_handling (I := fun _ w => w.dispatcher.metrics.events.Sorted) (fun _ => .nil)
    fun hStep sorted => hStep.sorted sorted).1

namespace System

/-! What a turn leaves as it was. -/

namespace Advances

/-- Nothing is registered anew, and only what is registered under the identifier is struck off. -/
theorem registered? (h : Advances shares id w v) (i : StreamId) :
    v.dispatcher.registered? i = w.dispatcher.registered? i ∨
      i = id ∧ v.dispatcher.registered? i = none := by
  rw [Dispatcher.registered?, Dispatcher.registered?]
  rcases h.registry with hSame | hStruck
  · exact .inl (by rw [hSame])
  · by_cases hi : i = id
    · subst hi
      exact .inr ⟨rfl, by rw [hStruck]; simp [List.find?_filter]⟩
    · refine .inl ?_
      have hOther (entry : StreamId × StreamRef) :
          decide ((entry.1 != id) = true ∧ (entry.1 == i) = true) = (entry.1 == i) := by
        by_cases hEntry : entry.1 = i <;> simp [hEntry, hi]
      rw [hStruck, List.find?_filter]
      exact congrArg (fun p => Option.map (·.2) (w.dispatcher.registry.find? p)) (funext hOther)

/-- What is registered after a turn was registered before. -/
theorem known (h : Advances shares id w v) {i : StreamId} {q : StreamRef}
    (known : v.dispatcher.registered? i = some q) : w.dispatcher.registered? i = some q := by
  rcases h.registered? i with hSame | ⟨-, hNone⟩
  · exact hSame ▸ known
  · cases hNone.symm.trans known

/-- What fits before a turn fits after it. -/
theorem fit (h : Advances shares id w v) (fit : Fit shares env w) : Fit shares env v where
  named known := (h.keeps _).1.trans (fit.named (h.known known))
  worker known := (h.keeps _).2.trans (fit.worker (h.known known))
  own known := fit.own (h.known known)
  sorted := h.sorted

/-- A turn registers nothing anew, so what is alone stays alone. -/
theorem sole {i : StreamId} (h : Advances shares i w v) (sole : Sole r id w) : Sole r id v :=
  ⟨fun q hq => sole.only q (h.known hq), fun i hi => sole.other i (h.known hi)⟩

/-- A stream is left alone in a turn that is not meant for it. -/
theorem agree {i : StreamId} (h : Advances shares i w v) (sole : Sole r id w) (other : i ≠ id) :
    Agree shares r id w v :=
  have hOther : w.dispatcher.registered? i ≠ some r := fun hi => other (sole.other i hi)
  ⟨h.stream r hOther, h.share r hOther, h.sinks,
    (h.registered? id).resolve_right fun hGone => other hGone.1.symm, h.story r hOther⟩

end Advances

/-- What is registered is what was, but for what is not there any more. -/
def Thinned (w v : System κ) : Prop :=
  v.dispatcher.registry =
    w.dispatcher.registry.filter fun entry => (v.dispatcher.registered? entry.1).isSome

namespace Thinned

theorem refl (w : System κ) : w.Thinned w := by
  refine (List.filter_eq_self.2 fun entry hMem => ?_).symm
  cases hNone : w.dispatcher.registered? entry.1 with
  | none => exact absurd hMem (Dispatcher.not_mem_of_registered? hNone)
  | some _ => rfl

theorem mem (h : Thinned w v) {entry : StreamId × StreamRef}
    (hMem : entry ∈ v.dispatcher.registry) : entry ∈ w.dispatcher.registry := by
  rw [h] at hMem
  exact (List.mem_filter.1 hMem).1

/-- A turn can only thin out what is registered. -/
theorem advances (first : Advances shares id w u) (h : Thinned u v) : Thinned w v := by
  rcases first.registry with hSame | hStruck
  · rw [Thinned, ← hSame]
    exact h
  · rw [Thinned, h, hStruck, List.filter_filter]
    refine List.filter_congr fun entry _ => ?_
    by_cases hEntry : entry.1 = id
    · -- What was struck off under the identifier did not come back.
      have hGone : v.dispatcher.registered? entry.1 = none := by
        cases hKnown : v.dispatcher.registered? entry.1 with
        | none => rfl
        | some q =>
          have hMem := h.mem (Dispatcher.mem_of_registered? hKnown)
          rw [hStruck, List.mem_filter] at hMem
          simp [hEntry] at hMem
      simp [hGone]
    · simp [hEntry]

end Thinned
end System

/-! Turns one after the other. -/

namespace Worker

open HostedStreams.System (Advances Agree Fit Lined Sole Thinned)

/-- What each turn adds to the counter, and for whom. -/
def gains (env : Surroundings κ) (counter : Counter) :
    List (StreamId × Option Event) → System κ → List (StreamId × Nat)
  | [], _ => []
  | task :: rest, w =>
    (task.1, ((step env).left w).dispatcher.metrics.read counter -
        w.dispatcher.metrics.read counter) ::
      gains env counter rest ((step env).left w)

/-- How much is added for all streams together. -/
def total (gained : List (StreamId × Nat)) : Nat :=
  gained.foldr (fun gain rest => gain.2 + rest) 0

/-- It does not matter in which order is counted. -/
theorem total_of_perm {gained other : List (StreamId × Nat)} (h : gained.Perm other) :
    total gained = total other :=
  h.foldr_eq' (fun x _ y _ rest => Nat.add_left_comm y.2 x.2 rest) 0

/-- Everything is seen to. -/
theorem lined_turns (fit : Fit shares env w) (lined : Lined tasks w) :
    Lined [] (((step env).left)^[tasks.length] w) ∧
      Fit shares env (((step env).left)^[tasks.length] w) ∧
      Thinned w (((step env).left)^[tasks.length] w) := by
  induction tasks generalizing w with
  | nil => exact ⟨lined, fit, .refl w⟩
  | cons task rest ih =>
    obtain ⟨hAdvances, hLined⟩ := advances_step fit lined
    obtain ⟨hDone, hFit, hThinned⟩ := ih (hAdvances.fit fit) hLined
    exact ⟨hDone, hFit, hThinned.advances hAdvances⟩

/-- All that the turns add makes up the count. -/
theorem read_turns (fit : Fit shares env w) (lined : Lined tasks w) (counter : Counter) :
    (((step env).left)^[tasks.length] w).dispatcher.metrics.read counter =
      w.dispatcher.metrics.read counter + total (gains env counter tasks w) := by
  induction tasks generalizing w with
  | nil => rfl
  | cons task rest ih =>
    obtain ⟨hAdvances, hLined⟩ := advances_step fit lined
    have hGain := hAdvances.gain counter
    have hLater := ih (hAdvances.fit fit) hLined
    rw [List.length_cons, Function.iterate_succ_apply, hLater]
    simp only [gains, total, List.foldr_cons]
    omega

/-- What becomes of a stream, and what is counted for it, is what would if there was nothing to do
but what is meant for it. -/
theorem agree_turns (agree : Agree shares r id w v) (sole : Sole r id w) (sole' : Sole r id v)
    (fit : Fit shares env w) (fit' : Fit shares env v) (lined : Lined tasks w)
    (lined' : Lined (tasks.filter (·.1 = id)) v) :
    Agree shares r id (((step env).left)^[tasks.length] w)
        (((step env).left)^[(tasks.filter (·.1 = id)).length] v) ∧
      ∀ counter, (gains env counter tasks w).filter (·.1 = id) =
        gains env counter (tasks.filter (·.1 = id)) v := by
  induction tasks generalizing w v with
  | nil => exact ⟨agree, fun _ => rfl⟩
  | cons task rest ih =>
    obtain ⟨i, event⟩ := task
    obtain ⟨hAdvances, hLined⟩ := advances_step fit lined
    by_cases hId : i = id
    · -- The stream is seen to on both sides.
      subst hId
      have hFilter : ((i, event) :: rest).filter (·.1 = i) = (i, event) :: rest.filter (·.1 = i) :=
        List.filter_cons_of_pos (by simp)
      rw [hFilter] at lined' ⊢
      obtain ⟨hAdvances', hLined'⟩ := advances_step fit' lined'
      obtain ⟨hAgree, hGain⟩ := agree_step agree sole fit fit' lined lined'
      obtain ⟨hLater, hGains⟩ := ih hAgree (hAdvances.sole sole) (hAdvances'.sole sole')
        (hAdvances.fit fit) (hAdvances'.fit fit') hLined hLined'
      refine ⟨hLater, fun counter => ?_⟩
      rw [gains, List.filter_cons_of_pos (by simp), gains, hGains, hGain]
    · -- Another stream is meant, and there is no such turn on the other side.
      have hFilter : ((i, event) :: rest).filter (·.1 = id) = rest.filter (·.1 = id) :=
        List.filter_cons_of_neg (by simpa using hId)
      rw [hFilter] at lined' ⊢
      obtain ⟨hLater, hGains⟩ := ih ((hAdvances.agree sole hId).symm.trans agree)
        (hAdvances.sole sole) sole' (hAdvances.fit fit) fit' hLined lined'
      refine ⟨hLater, fun counter => ?_⟩
      rw [gains, List.filter_cons_of_neg (by simpa using hId), hGains]

end Worker

/-! Queues with the same notifications in them. -/

/-- The notifications for the stream of the identifier, by what they tell. -/
theorem StreamId.filter_of_among (id : StreamId) (ns : List (StreamId × Event)) :
    ns.filter (·.1 = id) = (id.among ns).map fun event => (id, event) := by
  rw [among, List.map_map]
  refine ((List.map_congr_left fun n hn => ?_).trans (List.map_id _)).symm
  obtain ⟨-, hId⟩ := List.mem_filter.1 hn
  exact Prod.ext (of_decide_eq_true hId).symm rfl

/-- Lists that have the same entries in each part have the same entries. -/
theorem perm_of_parts {α β : Type} [DecidableEq α] [DecidableEq β] {l m : List (α × β)}
    (same : ∀ a, l.filter (·.1 = a) = m.filter (·.1 = a)) : l.Perm m := by
  refine List.perm_iff_count.2 fun x => ?_
  have hCount := congrArg (List.count x) (same x.1)
  rwa [List.count_filter (by simp), List.count_filter (by simp)] at hCount

namespace System

/-- The same is to be done in both systems, and for each stream in the same order. Nothing else
tells the systems apart but when the notifications were accepted. -/
structure Reorders (w v : System κ) : Prop where
  running : w.dispatcher.phase = .running ∧ v.dispatcher.phase = .running
  queued : ∃ ns ms : List (StreamId × Event),
    w.dispatcher.mailbox.items = ns.map (fun n => .notify n.1 n.2) ∧
    v.dispatcher.mailbox.items = ms.map (fun n => .notify n.1 n.2) ∧
    ∀ id : StreamId, id.among ns = id.among ms
  teardowns : v.dispatcher.teardowns = w.dispatcher.teardowns
  streams : v.streams = w.streams
  sinks : v.sinks = w.sinks
  client : v.client = w.client
  registry : v.dispatcher.registry = w.dispatcher.registry
  metrics : v.dispatcher.metrics = w.dispatcher.metrics
  past : ∀ r, v.past.filter (·.about r) = w.past.filter (·.about r)

/-- Two systems that have come to the same. -/
structure Concurs (w v : System κ) : Prop where
  /-- Nothing is left to do. -/
  done : (w.dispatcher.teardowns = [] ∧ w.dispatcher.mailbox.items = []) ∧
    v.dispatcher.teardowns = [] ∧ v.dispatcher.mailbox.items = []
  /-- Each stream has the same state, properties and pending requests, and the same sinks. -/
  stream : ∀ r, v.stream r = w.stream r
  /-- Each stream has handed the same to the same sinks, and asked the same of the host. -/
  told : ∀ r, v.journal.filter (·.about r) = w.journal.filter (·.about r)
  /-- Sinks that hear of one stream only have taken the same. -/
  taken : ∀ sink r, (∀ e ∈ w.past, e.isTaken sink = true → e.about r = true) →
    (∀ e ∈ v.past, e.isTaken sink = true → e.about r = true) →
    v.journal.filter (·.isTaken sink) = w.journal.filter (·.isTaken sink)
  registry : v.dispatcher.registry = w.dispatcher.registry
  events : ∀ label,
    v.dispatcher.metrics.events.count label = w.dispatcher.metrics.events.count label
  dropped : v.dispatcher.metrics.dropped = w.dispatcher.metrics.dropped
  panics : v.dispatcher.metrics.panics = w.dispatcher.metrics.panics

/-- What is to be done, whose parts are the same. -/
theorem Reorders.lined (h : Reorders w v) : ∃ first second : List (StreamId × Option Event),
    Lined first w ∧ Lined second v ∧ ∀ id, first.filter (·.1 = id) = second.filter (·.1 = id) := by
  obtain ⟨ns, ms, hItems, hItems', hOrder⟩ := h.queued
  refine ⟨w.agenda ns, v.agenda ms, ⟨h.running.1, ns, hItems, rfl⟩, ⟨h.running.2, ms, hItems', rfl⟩,
    fun id => ?_⟩
  have hParts : ns.filter (·.1 = id) = ms.filter (·.1 = id) := by
    rw [id.filter_of_among, id.filter_of_among, hOrder]
  rw [filter_agenda, filter_agenda, h.teardowns, hParts]

/-- The same streams are registered in both systems. -/
theorem Reorders.registered? (h : Reorders w v) (id : StreamId) :
    v.dispatcher.registered? id = w.dispatcher.registered? id := by
  rw [Dispatcher.registered?, h.registry, Dispatcher.registered?]

/-- Both systems agree on every stream. -/
theorem Reorders.agree (h : Reorders w v) (r : StreamRef) (id : StreamId) :
    Agree shares r id w v where
  stream := by rw [stream, h.streams, stream]
  share := by rw [h.client]
  sinks := h.sinks
  registered := h.registered? id
  story := h.past r

/-- No two streams share an identifier under which they are registered. -/
theorem Roster.sole_of_ref (h : w.Roster) (r : StreamRef) : ∃ id, Sole r id w := by
  by_cases hKnown : ∃ id, w.dispatcher.registered? id = some r
  · obtain ⟨id, hKnown⟩ := hKnown
    refine ⟨id, fun q hq => Option.some.inj (hq.symm.trans hKnown), fun i hi => ?_⟩
    rw [← (h.listed (Dispatcher.mem_of_registered? hi)).2]
    exact (h.listed (Dispatcher.mem_of_registered? hKnown)).2
  · refine ⟨.drawn w.drawn, fun q hq => ?_, fun i hi => absurd ⟨i, hi⟩ hKnown⟩
    exact absurd rfl (h.fresh (Dispatcher.mem_of_registered? hq))

/-- No identifier is registered twice. -/
theorem Roster.sole_of_id (h : w.Roster) (id : StreamId) : ∃ r, Sole r id w := by
  cases hKnown : w.dispatcher.registered? id with
  | some r =>
    refine ⟨r, fun q hq => Option.some.inj (hq.symm.trans hKnown), fun i hi => ?_⟩
    rw [← (h.listed (Dispatcher.mem_of_registered? hi)).2]
    exact (h.listed (Dispatcher.mem_of_registered? hKnown)).2
  | none =>
    refine ⟨⟨w.streams.length⟩, fun q hq => ?_, fun i hi => ?_⟩
    · cases hKnown.symm.trans hq
    · exact absurd (h.listed (Dispatcher.mem_of_registered? hi)).1.1 (Nat.lt_irrefl _)

/-- The part of the journal that tells what one sink took, where it hears of one stream only. -/
theorem taken_of_about {sink : SinkRef}
    (only : ∀ e ∈ w.past, e.isTaken sink = true → e.about r = true) :
    w.journal.filter (·.isTaken sink) =
      (w.journal.filter (·.about r)).filter (·.isTaken sink) := by
  rw [List.filter_filter]
  refine List.filter_congr fun e he => ?_
  have hAbout := only e (List.mem_reverse.1 he)
  cases hTaken : e.isTaken sink with
  | false => rfl
  | true => rw [hAbout hTaken]; rfl

section

variable (separate : shares.Separate) (roster : w.Roster)
  (sorted : w.dispatcher.metrics.events.Sorted) (h : Reorders w v)
  (minds : ∀ id r, (id, r) ∈ w.dispatcher.registry → env.Minds shares r id)

include separate roster sorted minds

/-- Where the client minds all streams everything fits. -/
theorem Fit.of_minds : Fit shares env w where
  named known := (roster.listed (Dispatcher.mem_of_registered? known)).2
  worker known := (roster.listed (Dispatcher.mem_of_registered? known)).1.2
  own known := (minds _ _ (Dispatcher.mem_of_registered? known)).private_ separate
  sorted := sorted

include h

theorem Reorders.fit : Fit shares env w ∧ Fit shares env v := by
  have hFit := Fit.of_minds separate roster sorted minds
  have hStream (r : StreamRef) : v.stream r = w.stream r := by rw [stream, h.streams, stream]
  refine ⟨hFit, fun known => ?_, fun known => ?_, fun known => ?_, h.metrics ▸ sorted⟩
  · rw [hStream]
    exact hFit.named (h.registered? _ ▸ known)
  · rw [hStream]
    exact hFit.worker (h.registered? _ ▸ known)
  · exact hFit.own (h.registered? _ ▸ known)

/-- Each stream is the same when all is done, and so is what was counted for it. -/
theorem Reorders.agree_turns (sole : Sole r id w) (lined : Lined first w) (lined' : Lined second v)
    (same : first.filter (·.1 = id) = second.filter (·.1 = id)) :
    Agree shares r id (((Worker.step env).left)^[first.length] w)
        (((Worker.step env).left)^[second.length] v) ∧
      ∀ counter, (Worker.gains env counter first w).filter (·.1 = id) =
        (Worker.gains env counter second v).filter (·.1 = id) := by
  obtain ⟨hFit, hFit'⟩ := h.fit separate roster sorted minds
  have hSole : Sole r id v := ⟨fun q hq => sole.only q (h.registered? _ ▸ hq),
    fun i hi => sole.other i (h.registered? _ ▸ hi)⟩
  -- Both are compared with a system in which there is nothing else to do.
  obtain ⟨ns, hItems, hAgenda⟩ := lined.queued
  let own : System κ := w.updateDispatcher fun d => { d with
    teardowns := d.teardowns.filter (· = id)
    mailbox := { d.mailbox with items := (ns.filter (·.1 = id)).map fun n => .notify n.1 n.2 } }
  have hOwn : Agree shares r id w own := ⟨rfl, rfl, rfl, rfl, rfl⟩
  have hLined : Lined (first.filter (·.1 = id)) own := by
    refine ⟨lined.running, ns.filter (·.1 = id), rfl, ?_⟩
    rw [← hAgenda, filter_agenda]
    rfl
  have hOwnSole : Sole r id own := ⟨sole.only, sole.other⟩
  have hOwnFit : Fit shares env own := ⟨hFit.named, hFit.worker, hFit.own, hFit.sorted⟩
  obtain ⟨hFirst, hGains⟩ := Worker.agree_turns hOwn sole hOwnSole hFit hOwnFit lined hLined
  obtain ⟨hSecond, hGains'⟩ :=
    Worker.agree_turns ((h.agree r id).symm.trans hOwn) hSole hOwnSole hFit' hOwnFit lined'
      (same ▸ hLined)
  rw [← same] at hSecond hGains'
  exact ⟨hFirst.trans hSecond.symm, fun counter => (hGains counter).trans (hGains' counter).symm⟩

/-- What is read of the counters is the same when all is done. -/
theorem Reorders.read_turns (lined : Lined first w) (lined' : Lined second v)
    (same : ∀ id, first.filter (·.1 = id) = second.filter (·.1 = id)) (counter : Counter) :
    (((Worker.step env).left)^[second.length] v).dispatcher.metrics.read counter =
      (((Worker.step env).left)^[first.length] w).dispatcher.metrics.read counter := by
  obtain ⟨hFit, hFit'⟩ := h.fit separate roster sorted minds
  have hPerm : (Worker.gains env counter first w).Perm (Worker.gains env counter second v) := by
    refine perm_of_parts fun id => ?_
    obtain ⟨r, sole⟩ := roster.sole_of_id id
    exact (h.agree_turns separate roster sorted minds sole lined lined' (same id)).2 counter
  rw [Worker.read_turns hFit lined, Worker.read_turns hFit' lined', h.metrics,
    Worker.total_of_perm hPerm]

/-- The same is registered when all is done. -/
theorem Reorders.registry_turns (lined : Lined first w) (lined' : Lined second v)
    (same : ∀ id, first.filter (·.1 = id) = second.filter (·.1 = id)) :
    (((Worker.step env).left)^[second.length] v).dispatcher.registry =
      (((Worker.step env).left)^[first.length] w).dispatcher.registry := by
  obtain ⟨hFit, hFit'⟩ := h.fit separate roster sorted minds
  have hKnown (id : StreamId) :
      (((Worker.step env).left)^[second.length] v).dispatcher.registered? id =
        (((Worker.step env).left)^[first.length] w).dispatcher.registered? id := by
    obtain ⟨r, sole⟩ := roster.sole_of_id id
    exact (h.agree_turns separate roster sorted minds sole lined lined' (same id)).1.registered
  obtain ⟨-, -, hThinned⟩ := Worker.lined_turns hFit lined
  obtain ⟨-, -, hThinned'⟩ := Worker.lined_turns hFit' lined'
  rw [hThinned', hThinned, h.registry]
  simp only [hKnown]

/-- The journal tells the same of each stream when all is done. -/
theorem Reorders.told_turns (lined : Lined first w) (lined' : Lined second v)
    (same : ∀ id, first.filter (·.1 = id) = second.filter (·.1 = id)) (r : StreamRef) :
    (((Worker.step env).left)^[second.length] v).journal.filter (·.about r) =
      (((Worker.step env).left)^[first.length] w).journal.filter (·.about r) := by
  obtain ⟨id, sole⟩ := roster.sole_of_ref r
  have hAgree := (h.agree_turns separate roster sorted minds sole lined lined' (same id)).1
  rw [journal, journal, List.filter_reverse, List.filter_reverse, hAgree.story]

end
end System

/-- The system in which the worker has seen to all that there was to do. -/
def Worker.drained (env : Surroundings κ) (w : System κ) : System κ :=
  ((step env).left)^[w.dispatcher.teardowns.length + w.dispatcher.mailbox.items.length] w

/-- What is in line is done turn by turn. -/
theorem Worker.drained_of_lined (lined : System.Lined tasks w) :
    drained env w = ((step env).left)^[tasks.length] w := by
  obtain ⟨ns, hItems, rfl⟩ := lined.queued
  rw [drained, hItems, System.agenda, List.length_append, List.length_map, List.length_map,
    List.length_map]

/-! How notifications come to wait in one order or in another. -/

/-- The notifications are handed in one after the other. -/
def Call.notifications (ns : List (StreamId × Event)) : List ((α : Type) × Call κ α) :=
  ns.map fun n => ⟨_, .notify n.1 n.2⟩

namespace System

/-- So many notifications can be handed in. -/
structure Takes (n : Nat) (w : System κ) : Prop where
  held : w.dispatcher.notifierHeld = true
  serving : w.dispatcher.stopped = false
  isOpen : w.dispatcher.mailbox.isOpen = true
  room : n ≤ w.dispatcher.mailbox.room

/-- The notifications have come to wait behind what waited before. -/
structure Queued (ns : List (StreamId × Event)) (w v : System κ) : Prop where
  streams : v.streams = w.streams
  sinks : v.sinks = w.sinks
  client : v.client = w.client
  registry : v.dispatcher.registry = w.dispatcher.registry
  phase : v.dispatcher.phase = w.dispatcher.phase
  teardowns : v.dispatcher.teardowns = w.dispatcher.teardowns
  metrics : v.dispatcher.metrics = Metrics.raiseDepth^[ns.length] w.dispatcher.metrics
  items : v.dispatcher.mailbox.items =
    w.dispatcher.mailbox.items ++ ns.map fun n => .notify n.1 n.2
  past : ∀ r, v.past.filter (·.about r) = w.past.filter (·.about r)

/-- The system in which a notification was accepted. -/
def accepting (id : StreamId) (event : Event) (w : System κ) : System κ :=
  (w.record (.accepted id event)).updateDispatcher fun d =>
    { d with mailbox := d.mailbox.push (.notify id event), metrics := d.metrics.raiseDepth }

/-- A notification for which there is room is accepted. -/
theorem Takes.on_notify {n : Nat} (h : Takes (n + 1) w) (id : StreamId) (event : Event) :
    ((Call.notify id event).run env).on w = (.ok (some (.ok ())), w.accepting id event) := by
  have hSent : w.dispatcher.mailbox.trySend (.notify id event) =
      (.accepted, w.dispatcher.mailbox.push (.notify id event)) := by
    rw [Mailbox.trySend, h.isOpen, if_neg (by simp), if_neg fun hFull => ?_]
    exact absurd (hFull ▸ h.room) (Nat.not_succ_le_zero n)
  have hAccepted : (Dispatcher.notify id event).on w = (.ok (.ok ()), w.accepting id event) := by
    rw [Dispatcher.notify, Act.on_get_bind, if_neg (by simp [h.serving])]
    simp only [hSent]
    rfl
  rw [Call.run, Act.given, Act.on_get_bind, if_pos h.held, Act.on_bind_ok hAccepted]
  rfl

theorem Takes.accepting {n : Nat} (h : Takes (n + 1) w) (id : StreamId) (event : Event) :
    Takes n (w.accepting id event) where
  held := h.held
  serving := h.serving
  isOpen := h.isOpen
  room := by
    have hRoom := h.room
    simp only [Mailbox.room] at hRoom
    simp only [System.accepting, System.updateDispatcher, System.record, Mailbox.room, Mailbox.push,
      List.length_append, List.length_singleton]
    omega

/-- Notifications for which there is room wait in the order in which they were handed in. -/
theorem Takes.queued (env : Surroundings κ) (h : Takes ns.length w) :
    Queued ns w ((Call.each env (Call.notifications ns)).left w) := by
  induction ns generalizing w with
  | nil => exact ⟨rfl, rfl, rfl, rfl, rfl, rfl, rfl, (List.append_nil _).symm, fun _ => rfl⟩
  | cons n rest ih =>
    have hLeft : (Call.each env (Call.notifications (n :: rest))).left w =
        (Call.each env (Call.notifications rest)).left (w.accepting n.1 n.2) :=
      Act.left_bind_ok (Act.on_bind_ok (h.on_notify n.1 n.2) fun _ => pure ()) _
    have hRest := ih (h.accepting n.1 n.2)
    rw [hLeft]
    exact { hRest with
      items := by rw [hRest.items, List.map_cons, List.append_cons]; rfl }

/-- Where notifications are handed in in one order or in another, and each stream's in the same
order, the systems differ by it alone. -/
theorem Reorders.of_takes (env : Surroundings κ) (running : w.dispatcher.phase = .running)
    (empty : w.dispatcher.mailbox.items = []) (takes : Takes ns.length w)
    (order : ∀ id : StreamId, id.among ns = id.among ms) :
    Reorders ((Call.each env (Call.notifications ns)).left w)
      ((Call.each env (Call.notifications ms)).left w) := by
  have hPerm : ns.Perm ms := perm_of_parts fun id => by
    rw [id.filter_of_among, id.filter_of_among, order]
  have hFirst := takes.queued env
  have hSecond := (hPerm.length_eq ▸ takes).queued env
  exact {
    running := ⟨hFirst.phase.trans running, hSecond.phase.trans running⟩
    queued := ⟨ns, ms, by rw [hFirst.items, empty, List.nil_append],
      by rw [hSecond.items, empty, List.nil_append], order⟩
    teardowns := hSecond.teardowns.trans hFirst.teardowns.symm
    streams := hSecond.streams.trans hFirst.streams.symm
    sinks := hSecond.sinks.trans hFirst.sinks.symm
    client := hSecond.client.trans hFirst.client.symm
    registry := hSecond.registry.trans hFirst.registry.symm
    metrics := by rw [hSecond.metrics, hFirst.metrics, hPerm.length_eq]
    past := fun r => (hSecond.past r).trans (hFirst.past r).symm }

end System

/-- Where sinks and the host mind one stream at a time, the streams that a dispatcher serves do not
depend on each other: whatever it has come to, and in whatever order notifications wait that are
meant for different streams, the same has become of all of them when the worker has handed them
out. Sinks and the host may panic, and call any operation of the stream that they are called for. -/
theorem streams_independent (separate : shares.Separate) (reached : Reached look manners w)
    (reorders : System.Reorders w v)
    (minds : ∀ id r, (id, r) ∈ w.dispatcher.registry → env.Minds shares r id) :
    System.Concurs (Worker.drained env w) (Worker.drained env v) := by
  have roster := (System.AtRest.of_reached look reached).books.roster
  have sorted := System.sorted_of_reached reached
  obtain ⟨first, second, lined, lined', same⟩ := reorders.lined
  obtain ⟨hFit, hFit'⟩ := reorders.fit separate roster sorted minds
  obtain ⟨hDone, -, -⟩ := Worker.lined_turns hFit lined
  obtain ⟨hDone', -, -⟩ := Worker.lined_turns hFit' lined'
  have hTold := reorders.told_turns separate roster sorted minds lined lined' same
  have hRead := reorders.read_turns separate roster sorted minds lined lined' same
  rw [Worker.drained_of_lined lined, Worker.drained_of_lined lined']
  exact {
    done := ⟨hDone.done, hDone'.done⟩
    stream := fun r => by
      obtain ⟨id, sole⟩ := roster.sole_of_ref r
      exact (reorders.agree_turns separate roster sorted minds sole lined lined' (same id)).1.stream
    told := hTold
    taken := fun sink r only only' => by
      rw [System.taken_of_about only, System.taken_of_about only', hTold]
    registry := reorders.registry_turns separate roster sorted minds lined lined' same
    events := fun label => hRead (.events label)
    dropped := hRead .dropped
    panics := hRead .panics }

/-! Sinks that mind the stream that they are called for. -/

/-- What a client that keeps nothing remembers for each stream. -/
def Shares.plain : Shares Client.plain :=
  ⟨Unit, fun _ _ => (), fun _ _ s => s⟩

theorem Shares.separate_plain : plain.Separate :=
  ⟨fun _ _ _ => rfl, fun _ _ _ => rfl⟩

namespace Surroundings

/-- Obliging surroundings mind whichever stream they are called for. -/
theorem minds_obliging (r : StreamRef) (id : StreamId) : obliging.Minds .plain r id :=
  .intro (fun _ => False) (fun _ h => h.elim) (fun _ _ => .pure _) (fun _ => .pure _)
    (fun _ _ => .pure _) (fun _ => .pure _) (.pure _)

/-- Surroundings in which the first sink panics when a stream is opened, and every other sink tears
the stream down. -/
def selfish : Surroundings Client.plain :=
  { obliging with
    deliver := fun sink o event =>
      match o, event with
      | .stream r, .opened _ =>
        if sink = ⟨0⟩ then throw (.panic .value) else do
          r.destroy obliging
          return true
      | _, _ => return true }

/-- Sinks that panic or tear their own stream down mind that stream. -/
theorem minds_selfish (r : StreamRef) (id : StreamId) : selfish.Minds .plain r id := by
  refine .intro (· = obliging) (fun _ h => h ▸ minds_obliging r id) (fun sink event => ?_)
    (fun _ => .pure _) (fun _ _ => .pure _) (fun _ => .pure _) (.pure _)
  have hDestroy : Minding Shares.plain r (· = obliging) (r.destroy obliging) :=
    @Minding.call _ Shares.plain r (· = obliging) _ obliging rfl (.destroy r) rfl
  simp only [selfish]
  split
  · rename_i hStream
    cases hStream
    split
    · exact .panic _
    · exact .bind hDestroy fun _ => .pure true
  · exact .pure true

end Surroundings

/-- A dispatcher that serves three streams. Two of them have a sink each, and the teardown of the
third one waits. -/
def peopled : System Client.plain :=
  (Call.each Surroundings.obliging [⟨_, .createStream { url := "" }⟩,
    ⟨_, .createStream { url := "" }⟩, ⟨_, .createStream { url := "" }⟩, ⟨_, .makeSink⟩,
    ⟨_, .makeSink⟩, ⟨_, .attach ⟨0⟩ ⟨0⟩⟩, ⟨_, .attach ⟨1⟩ ⟨1⟩⟩, ⟨_, .close ⟨2⟩⟩]).left launched

theorem reached_peopled : Reached (fun _ => ()) Surroundings.any peopled :=
  .act reached_launched (.each (Surroundings.serves_obliging trivial) _)

/-- Transfers that are opened and completed, one after the other. -/
def inTurn : List (StreamId × Event) :=
  [(.drawn 0, .opened {}), (.drawn 0, .completed ⟨true⟩), (.drawn 1, .opened {}),
    (.drawn 1, .completed ⟨true⟩)]

/-- Transfers that are opened and completed side by side. -/
def interleaved : List (StreamId × Event) :=
  [(.drawn 1, .opened {}), (.drawn 0, .opened {}), (.drawn 1, .completed ⟨true⟩),
    (.drawn 0, .completed ⟨true⟩)]

/-- For each stream the same is to be done in the same order. -/
theorem among_interleaved (id : StreamId) : id.among inTurn = id.among interleaved := by
  by_cases hFirst : id = .drawn 0
  · subst hFirst
    rfl
  · by_cases hSecond : id = .drawn 1
    · subst hSecond
      rfl
    · simp [StreamId.among, inTurn, interleaved, Ne.symm hFirst, Ne.symm hSecond]

/-- The first stream goes on although its sink has panicked. The second one is torn down by its
sink, and what it is told later is dropped. -/
theorem streams_independent_peopled :
    peopled.dispatcher.teardowns = [.drawn 2] ∧ Shares.plain.Separate ∧
    System.Reorders ((Call.each Surroundings.obliging (Call.notifications inTurn)).left peopled)
      ((Call.each Surroundings.obliging (Call.notifications interleaved)).left peopled) ∧
    (∀ r id, Surroundings.selfish.Minds .plain r id) ∧
    System.Concurs
      (Worker.drained .selfish
        ((Call.each Surroundings.obliging (Call.notifications inTurn)).left peopled))
      (Worker.drained .selfish
        ((Call.each Surroundings.obliging (Call.notifications interleaved)).left peopled)) ∧
    (Worker.drained .selfish
      ((Call.each Surroundings.obliging (Call.notifications inTurn)).left peopled)).streams.map
        (·.status.state) = [.completed, .destroyed, .destroyed] := by
  have serves : Surroundings.obliging.Serves (fun _ => ()) Surroundings.any :=
    Surroundings.serves_obliging trivial
  have hTakes : System.Takes inTurn.length peopled :=
    ⟨by decide +kernel, by decide +kernel, by decide +kernel, by decide +kernel⟩
  have hReorders := System.Reorders.of_takes .obliging (by decide +kernel)
    (List.isEmpty_iff.1 (by decide +kernel)) hTakes among_interleaved
  refine ⟨by decide +kernel, Shares.separate_plain, hReorders, Surroundings.minds_selfish, ?_,
    by decide +kernel⟩
  exact streams_independent Shares.separate_plain (reached_peopled.act (.each serves _)) hReorders
    fun id r _ => Surroundings.minds_selfish r id

/-- A dispatcher that serves two streams, and one sink hears of both. -/
def overheard : System Client.plain :=
  (Call.each Surroundings.obliging [⟨_, .createStream { url := "" }⟩,
    ⟨_, .createStream { url := "" }⟩, ⟨_, .makeSink⟩, ⟨_, .attach ⟨0⟩ ⟨0⟩⟩,
    ⟨_, .attach ⟨1⟩ ⟨0⟩⟩]).left launched

theorem reached_overheard : Reached (fun _ => ()) Surroundings.any overheard :=
  .act reached_launched (.each (Surroundings.serves_obliging trivial) _)

/-- A client that remembers a number. -/
def Client.counting : Client :=
  ⟨Nat, Unit, Unit, Unit⟩

/-- The number is remembered for all streams together. -/
def Shares.common : Shares Client.counting :=
  ⟨Nat, fun n _ => n, fun _ n _ => n⟩

/-- The number that the client remembers. -/
def Client.calls : Act Client.counting Nat := do
  let w ← get
  return w.client

/-- Surroundings in which whoever is called first panics. -/
def Surroundings.startled : Surroundings Client.counting where
  deliver _ o _ :=
    match o with
    | .stream r => do
      let calls ← Client.calls
      modify (·.updateClient (Shares.common.update r Nat.succ))
      if calls = 0 then throw (.panic .value)
      return true
    | .hub _ => return true
  host := {
    start := fun _ _ => pure (.ok ())
    requestRanges := fun _ _ _ => pure (.ok ())
    write := fun _ data => pure (.ok data.length)
    cancel := fun _ => pure (.ok ()) }
  isCurrent := pure true
  scheduleTeardown _ := pure false
  work _ := pure ()

namespace Surroundings

/-- They mind every stream, with what is remembered for all of them together. -/
theorem minds_startled (r : StreamRef) (id : StreamId) : startled.Minds .common r id := by
  refine .intro (fun _ => False) (fun _ h => h.elim) (fun sink event => ?_) (fun _ => .pure _)
    (fun _ _ => .pure _) (fun _ => .pure _) (.pure _)
  refine .bind (.see fun _ _ n => n) fun calls =>
    .bind (@Minding.remember _ Shares.common r _ Nat.succ) fun _ => ?_
  split
  · exact .bind (.panic _) fun _ => .pure true
  · exact .pure true

/-- They make no calls. -/
theorem serves_startled : startled.Serves (fun _ => ()) any := by
  refine .intro (fun _ => False) (fun _ h => h.elim)
    ⟨fun sink o event => ?_, fun _ _ => .pure _, fun _ _ _ => .pure _, fun _ _ => .pure _,
      fun _ => .pure _, .pure _, fun _ => .pure _, fun _ => .pure _⟩ trivial
  cases o with
  | hub => exact .pure true
  | stream r =>
    refine .bind (.see fun w => w.client) fun calls =>
      .bind (.remember (Shares.common.update r Nat.succ)) fun _ => ?_
    split
    · exact .bind (.panic _) fun _ => .pure true
    · exact .pure true

end Surroundings

/-- A dispatcher that serves two streams, each with a sink of its own. -/
def jumpy : System Client.counting :=
  (Call.each Surroundings.startled [⟨_, .createStream { url := "" }⟩,
    ⟨_, .createStream { url := "" }⟩, ⟨_, .makeSink⟩, ⟨_, .makeSink⟩, ⟨_, .attach ⟨0⟩ ⟨0⟩⟩,
    ⟨_, .attach ⟨1⟩ ⟨1⟩⟩]).left ((Dispatcher.start {} true).left { client := (0 : Nat) })

theorem reached_jumpy : Reached (fun _ => ()) Surroundings.any jumpy :=
  .act ⟨(0 : Nat), .start .refl rfl {} true⟩ (.each Surroundings.serves_startled _)

/-- A sink that hears of two streams takes their events in the order in which the notifications
waited. And where sinks share what they remember, the order tells what becomes of the streams. -/
theorem not_independent_overheard :
    (¬ ∀ (env : Surroundings Client.plain) (w v : System Client.plain) (sink : SinkRef),
      Reached (fun _ => ()) Surroundings.any w → w.Reorders v →
      (∀ r id, env.Minds .plain r id) →
      (Worker.drained env v).journal.filter (·.isTaken sink) =
        (Worker.drained env w).journal.filter (·.isTaken sink)) ∧
    ¬ ∀ (env : Surroundings Client.counting) (w v : System Client.counting) (r : StreamRef),
      Reached (fun _ => ()) Surroundings.any w → w.Reorders v →
      (∀ r id, env.Minds .common r id) →
      (Worker.drained env v).status r = (Worker.drained env w).status r := by
  constructor
  · intro h
    have serves : Surroundings.obliging.Serves (fun _ => ()) Surroundings.any :=
      Surroundings.serves_obliging trivial
    have hTakes : System.Takes inTurn.length overheard :=
      ⟨by decide +kernel, by decide +kernel, by decide +kernel, by decide +kernel⟩
    have hReorders := System.Reorders.of_takes .obliging (by decide +kernel)
      (List.isEmpty_iff.1 (by decide +kernel)) hTakes among_interleaved
    have hSame := congrArg (List.map (·.about ⟨0⟩)) (h .obliging _ _ ⟨0⟩
      (reached_overheard.act (.each serves _)) hReorders Surroundings.minds_obliging)
    exact absurd hSame (by decide +kernel)
  · intro h
    have hTakes : System.Takes inTurn.length jumpy :=
      ⟨by decide +kernel, by decide +kernel, by decide +kernel, by decide +kernel⟩
    have hReorders := System.Reorders.of_takes .startled (by decide +kernel)
      (List.isEmpty_iff.1 (by decide +kernel)) hTakes among_interleaved
    have hSame := congrArg Status.state (h .startled _ _ ⟨0⟩
      (reached_jumpy.act (.each Surroundings.serves_startled _)) hReorders
      Surroundings.minds_startled)
    exact absurd hSame (by decide +kernel)

end HostedStreams
