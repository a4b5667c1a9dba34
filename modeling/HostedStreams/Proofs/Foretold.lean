import HostedStreams.Proofs.Multicast

/-! What a stream makes of the host's reports. From the list of events that a stream is handed it
can be told which ones it fires, in which state it ends up, and which reports were its sinks' to
handle, as long as the sinks leave the stream alone. -/
namespace HostedStreams

variable {κ : Client} {env : Surroundings κ} {r : StreamRef} {u v w : System κ}

/-! In words about the list. -/

/-- What stands for the end of a transfer that never opened. -/
def Event.unopened : Event :=
  .failedOpen ⟨some Status.completedBeforeOpen⟩

/-- What the stream hears of before its end. -/
def heeded (events : List Event) : List Event :=
  events.takeWhile (· ≠ .destroyed)

/-- What an open transfer fires: the data up to its completion, and that. -/
def conveyed (events : List Event) : List Event :=
  (events.takeWhile (·.kind ≠ .completed)).filter (·.kind = .dataArrived) ++
    (events.find? (·.kind = .completed)).toList

/-- What comes of a transfer that is under way: the first event that tells whether it opened
decides. -/
def outcome (events : List Event) : List Event :=
  match events.dropWhile (!·.impliesCreated) with
  | .opened p :: after => .opened p :: conveyed after
  | .failedOpen p :: _ => [.failedOpen p]
  | .completed _ :: _ => [.unopened]
  | _ => []

/-- What a transfer fires: that it was created, if anything tells so, and then what comes of it. -/
def undertaken (events : List Event) : List Event :=
  if events.any fun event => event = .created || event.impliesCreated then
    .created :: outcome events
  else []

/-- The end of the stream, if it is among the events. -/
def ending (events : List Event) : List Event :=
  if .destroyed ∈ events then [.destroyed] else []

/-- What the stream fires when it is handed the events right after it was made. -/
def foretold (events : List Event) : List Event :=
  undertaken (heeded events) ++ ending events

/-! In steps. -/

namespace StreamState

/-- What the stream fires for the event itself. -/
def answer? : StreamState → Event → Option Event
  | .created, .created => some .created
  | .opening, .opened p => some (.opened p)
  | .opening, .failedOpen p => some (.failedOpen p)
  | .opening, .completed _ => some .unopened
  | .opened, .dataArrived p => some (.dataArrived p)
  | .opened, .completed p => some (.completed p)
  | .destroyed, .destroyed => none
  | _, .destroyed => some .destroyed
  | _, _ => none

/-- The state in which the stream takes the event, once the acknowledgement is understood. -/
def acknowledged (s : StreamState) (event : Event) : StreamState :=
  if event.impliesCreated && s = .created then .opening else s

/-- What the stream fires when it is handed the event. -/
def fires (s : StreamState) (event : Event) : List Event :=
  (if event.impliesCreated && s = .created then [.created] else []) ++
    ((s.acknowledged event).answer? event).toList

/-- The state that goes with the last event that was fired. -/
def lastly (s : StreamState) (fired : List Event) : StreamState :=
  fired.getLast?.elim s (·.kind.firedIn)

def next (s : StreamState) (event : Event) : StreamState :=
  s.lastly (s.fires event)

def course (s : StreamState) : List Event → List Event
  | [] => []
  | event :: rest => s.fires event ++ (s.next event).course rest

@[simp] theorem lastly_nil (s : StreamState) : s.lastly [] = s := rfl

/-- The last event of two lists in a row is that of the second, if it has any. -/
theorem lastly_append (s : StreamState) (a b : List Event) :
    s.lastly (a ++ b) = (s.lastly a).lastly b := by
  unfold lastly
  rw [List.getLast?_append]
  cases b.getLast? <;> rfl

/-- What a stream makes of events in a row goes by what it made of the first. -/
theorem course_append (s : StreamState) (a b : List Event) :
    s.course (a ++ b) = s.course a ++ (s.lastly (s.course a)).course b := by
  induction a generalizing s with
  | nil => rfl
  | cons event rest ih =>
    rw [List.cons_append, course, course, ih, lastly_append, List.append_assoc]
    rfl

/-! Both come to the same, from the last state to the first. -/

/-- A stream that is torn down fires nothing. -/
theorem course_destroyed (events : List Event) : destroyed.course events = [] := by
  induction events with
  | nil => rfl
  | cons event rest ih => cases event <;> exact ih

theorem ending_cons {event : Event} (other : event ≠ .destroyed) (rest : List Event) :
    ending (event :: rest) = ending rest := by
  simp [ending, Ne.symm other]

theorem ending_destroyed (rest : List Event) : ending (.destroyed :: rest) = [.destroyed] := by
  simp [ending]

theorem heeded_cons {event : Event} (other : event ≠ .destroyed) (rest : List Event) :
    heeded (event :: rest) = event :: heeded rest := by
  simp [heeded, other]

theorem heeded_destroyed (rest : List Event) : heeded (.destroyed :: rest) = [] := by
  simp [heeded]

/-- After the end of the transfer only the teardown is fired. -/
theorem course_over {s : StreamState} (ended : s = .completed ∨ s = .failedOpen)
    (events : List Event) : s.course events = ending events := by
  induction events with
  | nil => rcases ended with rfl | rfl <;> rfl
  | cons event rest ih =>
    have hNone (other : event ≠ .destroyed) : s.fires event = [] := by
      rcases ended with rfl | rfl <;> cases event <;> first | rfl | exact absurd rfl other
    by_cases hEvent : event = .destroyed
    · subst hEvent
      have hEnd : s.fires .destroyed = [.destroyed] := by rcases ended with rfl | rfl <;> rfl
      rw [course, next, hEnd, ending_destroyed]
      exact congrArg _ (course_destroyed rest)
    · rw [course, next, hNone hEvent, ending_cons hEvent]
      exact ih

/-- An open stream fires data up to the completion, and its end. -/
theorem course_opened (events : List Event) :
    opened.course events = conveyed (heeded events) ++ ending events := by
  induction events with
  | nil => rfl
  | cons event rest ih =>
    cases event with
    | destroyed =>
      rw [heeded_destroyed, ending_destroyed]
      exact congrArg _ (course_destroyed rest)
    | completed p =>
      rw [heeded_cons (by simp), ending_cons (by simp)]
      refine (congrArg (Event.completed p :: ·) (course_over (.inl rfl) rest)).trans ?_
      simp [conveyed, Event.kind]
    | dataArrived p =>
      rw [heeded_cons (by simp), ending_cons (by simp)]
      refine (congrArg (Event.dataArrived p :: ·) ih).trans ?_
      simp [conveyed, Event.kind]
    | created | failedOpen p | opened p =>
      rw [heeded_cons (by simp), ending_cons (by simp)]
      refine Eq.trans ih ?_
      simp [conveyed, Event.kind]

/-- A stream that is opening waits for the first event that tells whether it opened. -/
theorem course_opening (events : List Event) :
    opening.course events = outcome (heeded events) ++ ending events := by
  induction events with
  | nil => rfl
  | cons event rest ih =>
    cases event with
    | destroyed =>
      rw [heeded_destroyed, ending_destroyed]
      exact congrArg _ (course_destroyed rest)
    | opened p =>
      rw [heeded_cons (by simp), ending_cons (by simp)]
      exact congrArg (Event.opened p :: ·) (course_opened rest)
    | failedOpen p =>
      rw [heeded_cons (by simp), ending_cons (by simp)]
      exact congrArg (Event.failedOpen p :: ·) (course_over (.inr rfl) rest)
    | completed p =>
      rw [heeded_cons (by simp), ending_cons (by simp)]
      exact congrArg (Event.unopened :: ·) (course_over (.inr rfl) rest)
    | created | dataArrived p =>
      rw [heeded_cons (by simp), ending_cons (by simp)]
      exact ih

/-- A stream that was just made fires what is foretold. -/
theorem course_created (events : List Event) : created.course events = foretold events := by
  induction events with
  | nil => rfl
  | cons event rest ih =>
    rw [foretold]
    cases event with
    | destroyed =>
      rw [heeded_destroyed, ending_destroyed]
      exact congrArg _ (course_destroyed rest)
    | created =>
      rw [heeded_cons (by simp), ending_cons (by simp)]
      exact congrArg (Event.created :: ·) (course_opening rest)
    | opened p =>
      rw [heeded_cons (by simp), ending_cons (by simp)]
      exact congrArg (Event.created :: Event.opened p :: ·) (course_opened rest)
    | failedOpen p =>
      rw [heeded_cons (by simp), ending_cons (by simp)]
      exact congrArg (Event.created :: Event.failedOpen p :: ·) (course_over (.inr rfl) rest)
    | completed p =>
      rw [heeded_cons (by simp), ending_cons (by simp)]
      exact congrArg (Event.created :: Event.unopened :: ·) (course_over (.inr rfl) rest)
    | dataArrived p =>
      rw [heeded_cons (by simp), ending_cons (by simp)]
      exact ih

end StreamState

/-! What happens. -/

/-- The sinks of the stream return, and leave the stream alone. -/
def Surroundings.Reserved (r : StreamRef) (env : Surroundings κ) : Prop :=
  ∀ sink event w, (env.deliver sink (.stream r) event).Ends w fun _ v => v.life r = w.life r

/-- Sinks that leave the stream alone return. -/
theorem Surroundings.Reserved.calm (h : env.Reserved r) : env.Calm r :=
  fun sink event w => (h sink event w).returns

namespace System

/-- A pass of the event that starts here comes to a sink that handles it. -/
def Handles (w : System κ) (env : Surroundings κ) (r : StreamRef) (event : Event) : Prop :=
  ∃ heard, Visited env (.stream r) event (w.source (.stream r)).attachments
    (w.record (.pass (.stream r) event (w.standing (.stream r)))) heard ∧
      heard.any (·.2) = true

/-- What of the stream the reports of the host come down to: its state, and what it has fired so
far. No close of it was accepted. -/
structure Stage (r : StreamRef) (s : StreamState) (fired : List Event) (w : System κ) : Prop where
  free : (w.status r).closing = false
  state : (w.status r).state = s
  passes : (w.passes r).map (·.1) = fired

/-- Passes are read off the life. -/
theorem passes_of_life {l : Life} (h : v.life r = l) : v.passes r = l.passes := by
  rw [passes_eq, h]

end System

section

variable (reserved : env.Reserved r)

include reserved

/-- A sink's turn leaves the life of the stream as it is. -/
theorem ends_deliverTo (event : Event) (sink : SinkRef) (w : System κ) :
    (deliverTo env (.stream r) event sink).Ends w fun _ v => v.life r = w.life r := by
  have hEngaged : (w.engaged (.stream r) event sink).life r = w.life r :=
    System.life_record_of_none rfl
  have hAnswered := (reserved sink event (w.engaged (.stream r) event sink)).mono
    fun _ v hv => hv.trans hEngaged
  exact Act.Ends.after hAnswered fun _ v hv => ⟨(), _, rfl, hv⟩

/-- A pass changes nothing of the stream, once it is written down. -/
theorem ends_visit (event : Event) (l : List Attachment) (w : System κ) :
    (visit env (.stream r) event l).Ends w fun _ v => v.life r = w.life r := by
  induction l generalizing w with
  | nil => exact ⟨_, w, rfl, rfl⟩
  | cons a rest ih =>
    simp only [visit]
    change Act.Ends (if _ then _ else _) w _
    split
    · exact (ih w).bind fun _ v hv => ⟨_, v, rfl, hv⟩
    · split
      · exact ih w
      · refine (ends_deliverTo reserved event a.sink w).bind fun _ v hv => ?_
        exact (ih v).bind fun _ u hu => ⟨_, u, rfl, hu.trans hv⟩

/-- The pass is written down, and tells whether a sink handled the event. -/
theorem ends_fire (event : Event) (w : System κ) :
    ∃ b v, (fire env (.stream r) event).on w = (.ok b, v) ∧
      v.life r = ⟨w.status r, .pass event (w.standing (.stream r)) :: (w.life r).deeds⟩ ∧
      (b = true ↔ w.Handles env r event) := by
  obtain ⟨heard, hVisited, hEnd⟩ :=
    on_fire w (Surroundings.answers_of_returns (fun sink v => reserved.calm sink event v) _ _)
  have hBegun : (w.record (.pass (.stream r) event (w.standing (.stream r)))).life r =
      ⟨w.status r, .pass event (w.standing (.stream r)) :: (w.life r).deeds⟩ := by
    rw [System.life_record]
    simp [Entry.deed?]
  have hVisit := (ends_visit reserved event (w.source (.stream r)).attachments
    (w.record (.pass (.stream r) event (w.standing (.stream r))))).left
  refine ⟨heard.any (·.2), _, Act.on_of_end hEnd, ?_, fun handled => ⟨heard, hVisited, handled⟩, ?_⟩
  · have hLeft := left_fire env (.stream r) event w rfl
    change ((fire env (.stream r) event).left w).life r = _
    rcases hLeft with hLeft | hLeft
    · rw [hLeft, hVisit, hBegun]
    · rw [hLeft, System.life_updateSource, hVisit, hBegun]
  · -- Whom a pass comes to and what they answer is settled where it starts.
    rintro ⟨other, hOther, handled⟩
    obtain ⟨stale, hHeard⟩ := hVisited.ends
    obtain ⟨stale', hSame⟩ := hOther.ends
    rw [hHeard] at hSame
    have hPair := Prod.mk.inj (Except.ok.inj hSame)
    exact hPair.1.trans handled

/-- A pass answers whether a sink has handled it. -/
theorem handles_iff (event : Event) (w : System κ) :
    w.Handles env r event ↔ ((fire env (.stream r) event).on w).1 = .ok true := by
  obtain ⟨b, v, hFire, -, hHandles⟩ := ends_fire reserved event w
  rw [hFire, ← hHandles]
  simp

/-- A teardown is one pass, and the end of the life. -/
theorem ends_destroy (live : (w.status r).state ≠ .destroyed) :
    (r.destroy env).Ends w fun _ v =>
      v.life r =
        ⟨(w.status r).tornDown, .pass .destroyed (.state .destroyed) :: (w.life r).deeds⟩ := by
  have made := System.has_of_state_ne live
  obtain ⟨b, v, hFire, hLife, -⟩ := ends_fire reserved .destroyed (w.updateStatus r Status.tornDown)
  refine ⟨(), v.updateSource (.stream r) Source.clear, ?_, ?_⟩
  · rw [System.on_destroy_of_live live]
    exact (Act.on_bind_ok hFire _).trans rfl
  · refine (System.life_updateSource ..).trans ?_
    rw [hLife, System.standing_updateStatus made, System.status_updateStatus, if_pos ⟨rfl, made⟩]
    simp [System.life, Status.tornDown]

end

/-- How a stream of which no close was accepted takes an event, by its state. -/
theorem Status.react_of_free {s : Status} (free : s.closing = false) (event : Event) :
    (∃ own t, s.react event = (t, .fire own) ∧ s.state.answer? event = some own ∧
      t.state = own.kind.firedIn ∧ t.closing = false ∧ event ≠ .destroyed) ∨
    (s.react event = (s, .destroy) ∧ s.state.answer? event = some .destroyed ∧
      s.state ≠ .destroyed ∧ event = .destroyed) ∨
    (s.react event = (s, .ignore) ∧ s.state.answer? event = none) := by
  cases event <;> cases hState : s.state <;>
    simp [react, isClosing, free, hState, StreamState.answer?, applyOpened, applyFailedOpen,
      applyCompleted, Event.unopened, Event.kind, EventKind.firedIn]

namespace System

/-- A pass takes the stream to its next stage. -/
theorem Stage.of_life {s : StreamState} {fired : List Event} {t : Status} {event : Event}
    {standing : Standing} (h : w.Stage r s fired)
    (life : v.life r = ⟨t, .pass event standing :: (w.life r).deeds⟩) (free : t.closing = false) :
    v.Stage r t.state (fired ++ [event]) where
  free := (congrArg (·.status.closing) life).trans free
  state := congrArg (·.status.state) life
  passes := by
    rw [passes_of_life life, ← h.passes, passes_eq]
    simp [Life.passes, Deed.pass?]

end System

section

variable (reserved : env.Reserved r) {s : StreamState} {fired : List Event}

include reserved

/-- An event that is applied fires what the stream makes of it, and tells whether it was handled.
-/
theorem ends_apply (h : w.Stage r s fired) (event : Event) :
    ∃ b v, (r.apply env event).on w = (.ok b, v) ∧
      v.Stage r (s.lastly (s.answer? event).toList) (fired ++ (s.answer? event).toList) ∧
      (b = true ↔ event ≠ .destroyed ∧ ∃ own, s.answer? event = some own ∧
        (w.updateStatus r fun _ => ((w.status r).react event).1).Handles env r own) := by
  rcases Status.react_of_free h.free event with
    ⟨own, t, hReact, hAnswer, hState, hFree, hEvent⟩ | ⟨hReact, hAnswer, live, rfl⟩ |
      ⟨hReact, hAnswer⟩
  all_goals
    rw [h.state] at hAnswer
    simp only [StreamRef.apply, Act.on_get_bind, hReact, Act.on_modify_bind, hAnswer]
  · have made : w.Has r := System.has_of_state_ne fun hTorn => by
      rw [h.state] at hTorn
      subst hTorn
      cases event <;> cases hAnswer
    obtain ⟨b, v, hFire, hLife, hHandles⟩ :=
      ends_fire reserved own (w.updateStatus r fun _ => t)
    refine ⟨b, v, hFire, ?_, ?_⟩
    · rw [System.status_updateStatus, if_pos ⟨rfl, made⟩] at hLife
      have hStage := h.of_life hLife hFree
      rwa [hState] at hStage
    · rw [hHandles]
      simp [hEvent]
  · obtain ⟨_, v, hDestroy, hLife⟩ := ends_destroy reserved live
    refine ⟨false, v, ?_, h.of_life hLife h.free, by simp⟩
    rw [System.updateStatus_self]
    exact (Act.on_bind_ok hDestroy _).trans rfl
  · refine ⟨false, w, ?_, ?_, by simp⟩
    · rw [System.updateStatus_self]
      rfl
    · simpa using h

omit reserved in
/-- The acknowledgement goes before whatever can only follow it. -/
theorem StreamRef.receive_of_early {event : Event} (early : event.impliesCreated = true)
    (state : (w.status r).state = .created) :
    (r.receive env event).on w =
      (do let _ ← r.apply env .created; r.apply env event : Act κ Bool).on w := by
  simp only [StreamRef.receive, Act.on_get_bind, early, state]
  rfl

end

/-- The system in which the stream comes to the pass of the event itself. -/
def System.turningTo (w : System κ) (env : Surroundings κ) (r : StreamRef) (event : Event) :
    System κ :=
  let v := if event.impliesCreated && (w.status r).state = .created then
    (r.apply env .created).left w else w
  v.updateStatus r fun _ => ((v.status r).react event).1

/-- What comes of one event that the stream is handed: it answers whether it fired the event itself,
other than its end, to a sink that handled it. -/
structure Replies (env : Surroundings κ) (r : StreamRef) (s : StreamState) (event : Event)
    (w : System κ) (b : Bool) : Prop where
  answer : b = true ↔ event ≠ .destroyed ∧ ∃ own, (s.acknowledged event).answer? event = some own ∧
    (w.turningTo env r event).Handles env r own

section

variable (reserved : env.Reserved r) {s : StreamState} {fired : List Event}

include reserved

/-- An event that is received fires what the stream makes of it after the acknowledgement. -/
theorem ends_receive (h : w.Stage r s fired) (event : Event) :
    ∃ b v, (r.receive env event).on w = (.ok b, v) ∧
      v.Stage r (s.next event) (fired ++ s.fires event) ∧ Replies env r s event w b := by
  by_cases hEarly : (event.impliesCreated && s = .created) = true
  · have hTold : event.impliesCreated = true ∧ s = .created := by simpa using hEarly
    obtain ⟨early, rfl⟩ := hTold
    obtain ⟨_, u, hCreated, hStage, -⟩ := ends_apply reserved h .created
    obtain ⟨b, v, hOwn, hEnd, hAnswer⟩ := ends_apply reserved hStage event
    have hLeft : (r.apply env .created).left w = u := congrArg Prod.snd hCreated
    refine ⟨b, v, ?_, ?_, ⟨?_⟩⟩
    · rw [StreamRef.receive_of_early early h.state, Act.on_bind_ok hCreated, hOwn]
    · rw [StreamState.next, StreamState.fires, StreamState.acknowledged, if_pos hEarly,
        if_pos hEarly, StreamState.lastly_append, ← List.append_assoc]
      exact hEnd
    · rw [hAnswer, System.turningTo, StreamState.acknowledged, if_pos hEarly, h.state,
        if_pos hEarly,
        hLeft]
      rfl
  · obtain ⟨b, v, hOwn, hEnd, hAnswer⟩ := ends_apply reserved h event
    have hDue : (event.impliesCreated && (w.status r).state = .created) = false := by
      rw [h.state]
      simpa using hEarly
    refine ⟨b, v, ?_, ?_, ⟨?_⟩⟩
    · rw [System.on_receive_of_due hDue, hOwn]
    · rw [StreamState.next, StreamState.fires, StreamState.acknowledged, if_neg hEarly,
        if_neg hEarly, List.nil_append]
      exact hEnd
    · rw [hAnswer, System.turningTo, StreamState.acknowledged, if_neg hEarly, hDue]
      rfl

/-- One event after the other. -/
theorem ends_receives (h : w.Stage r s fired) (events : List Event) :
    ∃ answers v, (events.mapM (r.receive env)).on w = (.ok answers, v) ∧
      v.Stage r (s.lastly (s.course events)) (fired ++ s.course events) ∧
      answers.length = events.length ∧
      ∀ before event after, events = before ++ event :: after →
        ∃ b, answers[before.length]? = some b ∧ Replies env r (s.lastly (s.course before)) event
          ((before.mapM (r.receive env)).left w) b := by
  induction events generalizing w s fired with
  | nil =>
    refine ⟨[], w, rfl, by simpa [StreamState.course] using h, rfl, fun before event after h => ?_⟩
    exact absurd h (by simp)
  | cons first rest ih =>
    obtain ⟨b, u, hFirst, hStage, hReplies⟩ := ends_receive reserved h first
    obtain ⟨answers, v, hRest, hEnd, hLength, hEach⟩ := ih hStage
    refine ⟨b :: answers, v, ?_, ?_, congrArg (· + 1) hLength, fun before event after hPlace => ?_⟩
    · rw [List.mapM_cons, Act.on_bind_ok hFirst, Act.on_bind_ok hRest]
      rfl
    · rw [StreamState.course, StreamState.lastly_append, ← List.append_assoc]
      exact hEnd
    · rcases List.cons_eq_append_iff.1 hPlace with ⟨rfl, hHead⟩ | ⟨front, rfl, hTail⟩
      · obtain ⟨rfl, rfl⟩ := List.cons.inj hHead
        exact ⟨b, rfl, hReplies⟩
      · obtain ⟨c, hAnswer, hReplies⟩ := hEach front event after hTail
        refine ⟨c, by simpa using hAnswer, ?_⟩
        have hLeft : ((first :: front).mapM (r.receive env)).left w =
            (front.mapM (r.receive env)).left u := by
          rw [List.mapM_cons, Act.left_bind_ok hFirst, Act.left_bind_pure]
        rw [hLeft, StreamState.course, StreamState.lastly_append]
        exact hReplies

end

/-- The event is what the stream makes of the host's: that event, or the failure that stands for an
end that came too early. -/
def Event.StandsFor (own event : Event) : Prop :=
  own = event ∨ own = .unopened ∧ event.kind = .completed

/-- Of what is fired for an event, the acknowledgement that was understood is not its own. -/
theorem StreamState.mem_fires (s : StreamState) (event own : Event) :
    own ∈ s.fires event ∧ own.StandsFor event ↔
      (s.acknowledged event).answer? event = some own := by
  cases event <;> cases s <;>
    simp [fires, acknowledged, answer?, Event.StandsFor, Event.impliesCreated, Event.unopened,
      Event.kind, eq_comm] <;> grind

/-- What is promised of a stream that is handed the events one after the other. -/
structure Fulfilled (env : Surroundings κ) (r : StreamRef) (events : List Event) (w : System κ)
    (answers : List Bool) (v : System κ) : Prop where
  passes : (v.passes r).map (·.1) = foretold events
  /-- The state goes with the last event that was fired. -/
  state : (v.status r).state = StreamState.created.lastly (foretold events)
  length : answers.length = events.length
  /-- The answer to an event is whether a pass of it, or of what stands for it, came to a sink that
  handled it, and whether it was not the end. -/
  answer : ∀ before event after, events = before ++ event :: after →
    ∃ fired, foretold (before ++ [event]) = foretold before ++ fired ∧
      (answers[before.length]? = some true ↔ event ≠ .destroyed ∧ ∃ own ∈ fired,
        own.StandsFor event ∧
          (((before.mapM (r.receive env)).left w).turningTo env r event).Handles env r own)

/-- A stream to which nothing has happened is handed any events, and its sinks leave it alone. -/
theorem received_as_foretold (reserved : env.Reserved r) (new : w.Stage r .created [])
    (events : List Event) :
    ∃ answers v, (events.mapM (r.receive env)).on w = (.ok answers, v) ∧
      Fulfilled env r events w answers v := by
  obtain ⟨answers, v, hEnd, hStage, hLength, hEach⟩ := ends_receives reserved new events
  rw [StreamState.course_created] at hStage
  refine ⟨answers, v, hEnd, hStage.passes, hStage.state, hLength,
    fun before event after hPlace => ?_⟩
  obtain ⟨b, hAnswer, hReplies⟩ := hEach before event after hPlace
  refine ⟨((StreamState.created.lastly (foretold before)).fires event), ?_, ?_⟩
  · rw [← StreamState.course_created, StreamState.course_append, StreamState.course_created]
    simp [StreamState.course]
  · rw [StreamState.course_created] at hReplies
    rw [hAnswer, Option.some_inj, hReplies.answer]
    simp only [← StreamState.mem_fires, and_assoc]

namespace Surroundings

/-- Surroundings in which sinks handle nothing but the end. -/
def patient : Surroundings Client.plain :=
  { obliging with deliver := fun _ _ event => pure (event = .destroyed) }

theorem reserved_obliging (r : StreamRef) : obliging.Reserved r :=
  fun _ _ w => ⟨true, w, rfl, rfl⟩

theorem reserved_patient (r : StreamRef) : patient.Reserved r :=
  fun _ event w => ⟨event = .destroyed, w, rfl, rfl⟩

end Surroundings

/-- A stream that belongs to no context, with a sink. -/
def newborn : System Client.plain :=
  Surroundings.obliging.played [⟨_, .makeSink⟩, ⟨_, .makeStream (.drawn 0) { url := "" } false⟩,
    ⟨_, .attach ⟨0⟩ ⟨0⟩⟩]

/-- A stream that was just made has fired nothing. -/
theorem stage_newborn : newborn.Stage ⟨0⟩ .created [] :=
  ⟨by decide +kernel, by decide +kernel, by decide +kernel⟩

/-- Reports that come too early, out of order, twice and too late. -/
def jumbled : List Event :=
  [.dataArrived ⟨0, [1], none⟩, .opened {}, .created, .dataArrived ⟨1, [2], none⟩,
    .completed ⟨true⟩, .opened {}, .destroyed, .completed ⟨true⟩]

/-- Out of these eight reports come five passes. -/
theorem received_as_foretold_jumbled :
    foretold jumbled = [.created, .opened {}, .dataArrived ⟨1, [2], none⟩, .completed ⟨true⟩,
      .destroyed] ∧
    ∃ answers v, (jumbled.mapM (StreamRef.receive .obliging ⟨0⟩)).on newborn = (.ok answers, v) ∧
      Fulfilled .obliging ⟨0⟩ jumbled newborn answers v :=
  ⟨by decide +kernel, received_as_foretold (Surroundings.reserved_obliging ⟨0⟩) stage_newborn _⟩

/-- An event that is fired is not answered with yes if no sink handles it, and neither is the end if
one does. -/
theorem not_answered_as_fired_newborn :
    (¬ ∀ (env : Surroundings Client.plain) (w v : System Client.plain) (r : StreamRef)
        (events : List Event) (answers : List Bool), env.Reserved r → w.Stage r .created [] →
      (events.mapM (r.receive env)).on w = (.ok answers, v) →
      ∀ before event after, events = before ++ event :: after →
        ∃ fired, foretold (before ++ [event]) = foretold before ++ fired ∧
          (answers[before.length]? = some true ↔ ∃ own ∈ fired, own.StandsFor event)) ∧
    (([.created, .destroyed].mapM (StreamRef.receive .patient ⟨0⟩)).on newborn).1 =
      .ok [false, false] ∧
    (((StreamRef.receive .patient ⟨0⟩ .created).left newborn).turningTo .patient ⟨0⟩
      .destroyed).Handles .patient ⟨0⟩ .destroyed := by
  have hReserved := Surroundings.reserved_patient ⟨0⟩
  refine ⟨fun h => ?_, by decide +kernel,
    (handles_iff hReserved .destroyed _).2 (by decide +kernel)⟩
  obtain ⟨fired, hFired, hAnswer⟩ := h .patient newborn
    ((StreamRef.receive Surroundings.patient ⟨0⟩ .created).left newborn) ⟨0⟩ [.created] [false]
    hReserved stage_newborn (Prod.ext (by decide +kernel) rfl) [] .created [] rfl
  have hCreated : fired = [.created] := hFired.symm
  simp [hCreated, Event.StandsFor] at hAnswer

end HostedStreams
