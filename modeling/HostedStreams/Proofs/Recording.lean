import HostedStreams.Proofs.Calm

/-! Clients whose sinks take note of what they are handed, or panic, and do nothing else. A pass to
such sinks adds to the journal whom it came to, up to the first one that panics, and leaves
everything else as it was. -/
namespace HostedStreams

variable {κ : Client} {α β : Type}

/-- What the client looks up. -/
def Act.seeing (f : System κ → α) : Act κ α := do
  return f (← get)

/-- An answer that the client works out from its own memory. -/
def Act.recalling (f : κ.State → Except Payload α × κ.State) : Act κ α := do
  let answer ← Act.seeing fun w => f w.client
  modify (·.updateClient fun _ => answer.2)
  match answer.1 with
  | .ok x => return x
  | .error payload => throw (.panic payload)

/-- How the host, a context of the client's and its jobs go about what they are asked for. They
keep to the client's memory. -/
structure Bearing (κ : Client) where
  start : StreamId → StreamConfig → κ.State → Except Payload (Except HostError Unit) × κ.State
  requestRanges : StreamId → RequestId → List Range → κ.State →
    Except Payload (Except HostError Unit) × κ.State
  write : StreamId → List UInt8 → κ.State → Except Payload (Except HostError Nat) × κ.State
  cancel : StreamId → κ.State → Except Payload (Except HostError Unit) × κ.State
  isCurrent : κ.State → Except Payload Bool × κ.State
  scheduleTeardown : StreamId → κ.State → Except Payload Bool × κ.State
  work : κ.Job → κ.State → Except Payload κ.Value × κ.State

/-- How sinks take what they are handed, given all that happened up to then: they handle it or
not, or they panic. -/
abbrev Temper (κ : Client) :=
  List (Entry κ.Note) → Except Payload Bool

/-- Surroundings in which sinks do nothing else. -/
def Surroundings.recording (bearing : Bearing κ) (temper : Temper κ) : Surroundings κ where
  deliver _ _ _ := do
    match ← Act.seeing fun w => temper w.past with
    | .ok handled => return handled
    | .error payload => throw (.panic payload)
  host := {
    start := fun id config => .recalling (bearing.start id config)
    requestRanges := fun id request ranges => .recalling (bearing.requestRanges id request ranges)
    write := fun id data => .recalling (bearing.write id data)
    cancel := fun id => .recalling (bearing.cancel id) }
  isCurrent := .recalling bearing.isCurrent
  scheduleTeardown id := .recalling (bearing.scheduleTeardown id)
  work job := .recalling (bearing.work job)

namespace Act

/-- Nothing but the memory of the client changes. -/
theorem on_recalling (f : κ.State → Except Payload α × κ.State) (w : System κ) :
    (recalling f).on w =
      ((f w.client).1.mapError .panic, w.updateClient fun _ => (f w.client).2) := by
  simp only [recalling, seeing]
  change Act.on (match (f w.client).1 with
    | .ok x => pure x
    | .error payload => throw (.panic payload)) (w.updateClient fun _ => (f w.client).2) = _
  cases (f w.client).1 <;> rfl

end Act

/-- What a client works out from its memory is conduct. -/
theorem Conduct.recalling {look : System κ → κ.Note} {below : Surroundings κ → Prop}
    (f : κ.State → Except Payload α × κ.State) :
    Conduct look below (Act.recalling f) := by
  refine .bind (.see _) fun answer => .bind (.remember _) fun _ => ?_
  cases answer.1 with
  | ok x => exact .pure x
  | error payload => exact .panic payload

/-- Sinks that only take note make no calls. -/
theorem Surroundings.serves_recording (look : System κ → κ.Note) (bearing : Bearing κ)
    (temper : Temper κ) :
    (recording bearing temper).Serves look Surroundings.any := by
  refine .intro (fun _ => False) (fun _ h => h.elim) ⟨fun _ _ _ => ?_, fun _ _ => .recalling _,
    fun _ _ _ => .recalling _, fun _ _ => .recalling _, fun _ => .recalling _, .recalling _,
    fun _ => .recalling _, fun _ => .recalling _⟩ trivial
  refine .bind (.see _) fun taken => ?_
  cases taken with
  | ok handled => exact .pure handled
  | error payload => exact .panic payload

/-- The journal after a pass has come to one sink after the other, up to one that panics. -/
def Temper.passing (temper : Temper κ) (entry : SinkRef → Entry κ.Note) :
    List SinkRef → List (Entry κ.Note) → List (Entry κ.Note)
  | [], past => past
  | sink :: rest, past =>
    match temper (entry sink :: past) with
    | .ok _ => temper.passing entry rest (entry sink :: past)
    | .error _ => entry sink :: past

namespace System

/-- What is written down when a sink takes the stream's event. -/
def taking (w : System κ) (r : StreamRef) (event : Event) (sink : SinkRef) : Entry κ.Note :=
  .delivery sink (.stream r) event (.state (w.status r).state) w.dispatcher.inContext

/-- The sinks that are attached and there, in the order of attachment. -/
def audience (w : System κ) (r : StreamRef) : List SinkRef :=
  (w.source (.stream r)).toList w.alive

/-- A sink is as it was when it is done with an event. -/
theorem disengaged (w : System κ) (r : StreamRef) (event : Event) (sink : SinkRef) :
    (w.engaged (.stream r) event sink).updateSink sink
        (fun life => { life with busy := life.busy - 1 }) =
      w.record (w.taking r event sink) := by
  have hModify : (w.sinks.modify sink.number fun life => { life with busy := life.busy + 1 }).modify
      sink.number (fun life => { life with busy := life.busy - 1 }) = w.sinks := by
    apply List.ext_getElem?
    intro i
    rw [List.getElem?_modify, List.getElem?_modify]
    cases w.sinks[i]? with
    | none => split <;> rfl
    | some life => split <;> simp_all
  simp only [engaged, record, updateSink, hModify]
  rfl

end System

section

variable (bearing : Bearing κ) (temper : Temper κ) (r : StreamRef) (event : Event)

/-- A sink takes what it is handed as its temper has it. -/
theorem on_deliver_recording (sink : SinkRef) (o : Origin) (w : System κ) :
    ((Surroundings.recording bearing temper).deliver sink o event).on w =
      ((temper w.past).mapError .panic, w) := by
  change Act.on (match temper w.past with
    | .ok handled => pure handled
    | .error payload => throw (.panic payload)) w = _
  cases temper w.past <;> rfl

/-- A turn of such a sink adds one entry to the journal. -/
theorem left_deliverTo_recording (sink : SinkRef) (w : System κ) :
    (deliverTo (.recording bearing temper) (.stream r) event sink).left w =
      w.record (w.taking r event sink) := by
  rw [left_deliverTo, Act.left, on_deliver_recording]
  exact w.disengaged r event sink

/-- A sink is done with an event, or it panics. -/
theorem on_deliverTo_recording (sink : SinkRef) (w : System κ) :
    ((deliverTo (.recording bearing temper) (.stream r) event sink).on w).1 =
      (temper (w.taking r event sink :: w.past)).mapError .panic := by
  change ((((Surroundings.recording bearing temper).deliver sink (.stream r) event).after
    (modify (·.updateSink sink fun life => { life with busy := life.busy - 1 }))).on
      (w.engaged (.stream r) event sink)).1 = _
  rw [Act.on_after, on_deliver_recording]
  have hPast : (w.engaged (.stream r) event sink).past = w.taking r event sink :: w.past := rfl
  rw [hPast]
  cases temper (w.taking r event sink :: w.past) <;> rfl

/-- A pass writes down whom it came to, and leaves everything else as it was. -/
theorem left_visit_recording (l : List Attachment) (w : System κ)
    (held : ∀ a ∈ l, (w.source (.stream r)).holds a = true) :
    (visit (.recording bearing temper) (.stream r) event l).left w =
      { w with past := temper.passing (w.taking r event)
                ((l.filter fun a => w.alive a.sink).map (·.sink)) w.past } := by
  induction l generalizing w with
  | nil => rfl
  | cons a rest ih =>
    have hHeld := held a List.mem_cons_self
    have held : ∀ b ∈ rest, (w.source (.stream r)).holds b = true :=
      fun b hb => held b (List.mem_cons_of_mem _ hb)
    cases hAlive : w.alive a.sink with
    | false =>
      rw [visit_skip (by simp [System.turn, hAlive]), ih w held,
        List.filter_cons_of_neg (by simp [hAlive])]
    | true =>
      have hFilter : (a :: rest).filter (fun a => w.alive a.sink) =
          a :: rest.filter fun a => w.alive a.sink := List.filter_cons_of_pos hAlive
      rw [hFilter, List.map_cons, Temper.passing]
      have hEnd := on_deliverTo_recording bearing temper r event a.sink w
      have hTurn : w.turn (.stream r) a = true := by simp [System.turn, hAlive, hHeld]
      have hTurned := left_visit_of_turn (.recording bearing temper) event rest hTurn
      rw [left_deliverTo_recording] at hTurned
      cases hTaken : temper (w.taking r event a.sink :: w.past) with
      | ok handled =>
        rw [hTaken] at hEnd
        obtain ⟨-, hLeft⟩ | ⟨halt, hHalt, -⟩ := hTurned
        · exact hLeft.trans (ih (w.record (w.taking r event a.sink)) held)
        · rw [hEnd] at hHalt
          cases hHalt
      | error payload =>
        rw [hTaken] at hEnd
        obtain ⟨⟨_, hReturns⟩, -⟩ | ⟨halt, -, hLeft⟩ := hTurned
        · rw [hEnd] at hReturns
          cases hReturns
        · exact hLeft

/-- What a pass makes of the system, but for sinks that are gone. -/
def System.aired (w : System κ) (temper : Temper κ) (r : StreamRef) (event : Event) : System κ :=
  { w with past := temper.passing (w.taking r event) (w.audience r)
            (.pass (.stream r) event (.state (w.status r).state) :: w.past) }

/-- A pass to such sinks airs the event, and may strike off those that are gone. -/
theorem left_fire_recording (w : System κ) :
    (fire (.recording bearing temper) (.stream r) event).left w = w.aired temper r event ∨
      (fire (.recording bearing temper) (.stream r) event).left w =
        (w.aired temper r event).updateSource (.stream r) (·.prune w.alive) := by
  apply left_fire
  rw [left_visit_recording]
  · rfl
  · exact fun a ha => List.any_eq_true.2 ⟨a, ha, by simp⟩

end

/-- The event of the notification that the worker has handed to a stream last. -/
def Entry.handing? {Note : Type} (past : List (Entry Note)) : Option Event :=
  past.findSome? fun
    | .dispatched _ event => some event
    | _ => none

/-- No sink panics when it hears that a stream was created, where what the host has reported is
something else, which only implies that. -/
def Temper.Steadfast (temper : Temper κ) : Prop :=
  ∀ sink origin standing inContext past event, Entry.handing? past = some event →
    event ≠ .created →
    ∃ handled, temper (.delivery sink origin .created standing inContext :: past) = .ok handled

/-- A pass that stands in for the acknowledgement comes to its end. -/
theorem returns_fire_created {bearing : Bearing κ} {temper : Temper κ}
    (steadfast : temper.Steadfast) {r : StreamRef} {event : Event} (other : event ≠ .created)
    {w : System κ}
    (handing : Entry.handing? w.past = some event) :
    (fire (.recording bearing temper) (.stream r) .created).Returns w := by
  have hVisit (l : List Attachment) : ∀ w : System κ, Entry.handing? w.past = some event →
      (visit (.recording bearing temper) (.stream r) .created l).Returns w := by
    induction l with
    | nil => exact fun w _ => ⟨_, rfl⟩
    | cons a rest ih =>
      intro w handing
      obtain ⟨handled, hTaken⟩ := steadfast a.sink (.stream r) (.state (w.status r).state)
        w.dispatcher.inContext w.past event handing other
      have hDeliver :
          (deliverTo (.recording bearing temper) (.stream r) .created a.sink).Returns w := by
        refine ⟨handled, (on_deliverTo_recording bearing temper r .created a.sink w).trans ?_⟩
        rw [System.taking, hTaken]
        rfl
      have hRest := ih (w.record (w.taking r .created a.sink)) handing
      rw [← left_deliverTo_recording bearing temper] at hRest
      simp only [visit]
      change Act.Returns (if _ then _ else _) w
      split
      · exact (ih w handing).bind fun _ => ⟨_, rfl⟩
      · split
        · exact ih w handing
        · exact hDeliver.bind fun _ => hRest.bind fun _ => ⟨_, rfl⟩
  apply (hVisit _ (w.record (.pass (.stream r) .created (w.standing (.stream r)))) handing).bind
  rintro ⟨handled, stale⟩
  cases stale <;> exact ⟨_, rfl⟩

end HostedStreams
