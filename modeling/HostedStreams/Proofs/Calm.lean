import HostedStreams.Proofs.Deliveries
import HostedStreams.Proofs.Passes

/-! Streams whose sinks return. A pass comes to each sink that is attached when its turn
comes, and what clients do meanwhile leaves a stream alive, or its teardown over. -/
namespace HostedStreams

variable {κ : Client}

/-- The sinks of the stream return, whatever they are handed and whenever. -/
def Surroundings.Calm (r : StreamRef) (env : Surroundings κ) : Prop :=
  ∀ sink event w, (env.deliver sink (.stream r) event).Returns w

section

variable {env : Surroundings κ} {o : Origin} {event : Event} {a : Attachment}
  {rest : List Attachment} {w : System κ}

/-- Whether a pass of the origin hands the event to the attached sink when its turn comes. -/
def System.turn (w : System κ) (o : Origin) (a : Attachment) : Bool :=
  w.alive a.sink && (w.source o).holds a

/-- The system in which a sink starts to take the event. -/
def System.engaged (w : System κ) (o : Origin) (event : Event) (sink : SinkRef) : System κ :=
  let v := w.updateSink sink fun life => { life with busy := life.busy + 1 }
  v.record (.delivery sink o event (v.standing o) v.dispatcher.inContext)

theorem System.handed_engaged (w : System κ) (r : StreamRef) (event : Event) (sink : SinkRef) :
    (w.engaged (.stream r) event sink).handed r = (sink, event) :: w.handed r := by
  rw [engaged, handed_record]
  simp [Entry.handed?, handed, updateSink]

/-- A sink that is handed an event is busy with it, and then no longer. -/
theorem left_deliverTo (env : Surroundings κ) (o : Origin) (event : Event) (sink : SinkRef)
    (w : System κ) : (deliverTo env o event sink).left w =
      ((env.deliver sink o event).left (w.engaged o event sink)).updateSink sink
        fun life => { life with busy := life.busy - 1 } := by
  simp only [deliverTo, Act.left_modify_bind, Act.left_after, Act.left_modify]
  rfl

/-- A pass goes on where it was if a sink has no turn. -/
theorem visit_skip (h : w.turn o a = false) :
    (visit env o event (a :: rest)).left w = (visit env o event rest).left w := by
  simp only [visit, Act.left_get_bind]
  split
  · exact Act.left_bind_pure _ _ w
  · rename_i hAlive
    split
    · rfl
    · rename_i hHolds
      simp_all [System.turn]

/-- A pass goes on after a sink's turn from where that has led. -/
theorem visit_turn (h : w.turn o a = true) (hReturns : (deliverTo env o event a.sink).Returns w) :
    (visit env o event (a :: rest)).left w =
      (visit env o event rest).left ((deliverTo env o event a.sink).left w) := by
  simp only [System.turn, Bool.and_eq_true] at h
  simp only [visit, Act.left_get_bind, h.1, h.2, Bool.not_true, Bool.false_eq_true, if_false]
  exact hReturns.left_bind fun x v => Act.left_bind_pure _ _ v

/-- A sink whose turn it is is handed the event, and the pass goes on where that ends by itself. -/
theorem left_visit_of_turn (env : Surroundings κ) (event : Event) (rest : List Attachment)
    (h : w.turn o a = true) :
    (deliverTo env o event a.sink).Returns w ∧ (visit env o event (a :: rest)).left w =
        (visit env o event rest).left ((deliverTo env o event a.sink).left w) ∨
      ∃ halt, ((deliverTo env o event a.sink).on w).1 = .error halt ∧
        (visit env o event (a :: rest)).left w = (deliverTo env o event a.sink).left w := by
  cases hEnd : ((deliverTo env o event a.sink).on w).1 with
  | ok x => exact .inl ⟨⟨x, hEnd⟩, visit_turn h ⟨x, hEnd⟩⟩
  | error halt =>
    refine .inr ⟨halt, rfl, ?_⟩
    simp only [System.turn, Bool.and_eq_true] at h
    simp only [visit, Act.left_get_bind, h.1, h.2, Bool.not_true, Bool.false_eq_true, if_false]
    rw [Act.left, Act.on_bind, hEnd]

end

section

variable {env : Surroundings κ} {r : StreamRef} (hm : env.Calm r)

include hm

/-- A sink that returns ends its turn by itself. -/
theorem returns_deliverTo (event : Event) (sink : SinkRef) (w : System κ) :
    (deliverTo env (.stream r) event sink).Returns w :=
  (hm sink event _).after ⟨(), rfl⟩

/-- A pass whose sinks return comes to its end. -/
theorem returns_visit (event : Event) (l : List Attachment) (w : System κ) :
    (visit env (.stream r) event l).Returns w := by
  induction l generalizing w with
  | nil => exact ⟨_, rfl⟩
  | cons a rest ih =>
    simp only [visit]
    change Act.Returns (if _ then _ else _) w
    split
    · exact (ih w).bind fun _ => ⟨_, rfl⟩
    · split
      · exact ih w
      · exact (returns_deliverTo hm event a.sink w).bind fun _ => (ih _).bind fun _ => ⟨_, rfl⟩

/-- To fire ends by itself as well. -/
theorem returns_fire (event : Event) (w : System κ) : (fire env (.stream r) event).Returns w := by
  apply (returns_visit hm event _ (w.record _)).bind
  intro (handled, stale)
  cases stale <;> exact ⟨_, rfl⟩

/-- So does a teardown. -/
theorem returns_destroy (w : System κ) : (r.destroy env).Returns w := by
  simp only [StreamRef.destroy]
  change Act.Returns (if _ then _ else _) w
  split
  · exact (returns_fire hm .destroyed (w.updateStatus r Status.tornDown)).bind fun _ => ⟨_, rfl⟩
  · exact ⟨_, rfl⟩

end

/-- Nothing is handed to a sink after the end. The latest comes first. -/
def Ended (handed : List (SinkRef × Event)) : Prop :=
  handed.Pairwise fun later earlier => earlier.2 = .destroyed → later.1 ≠ earlier.1

/-- Where no end was handed over nothing follows it. -/
theorem Ended.of_none {handed : List (SinkRef × Event)} (h : ∀ x ∈ handed, x.2 ≠ .destroyed) :
    Ended handed := by
  apply List.pairwise_of_forall_mem_list
  intro later _ earlier hMem hEnd
  exact absurd hEnd (h earlier hMem)

section

variable (r : StreamRef) (w : System κ)

/-- The stream is still to be made. -/
def System.Unmade : Prop :=
  ¬ w.Has r ∧ w.handed r = []

/-- The stream is there, and its end was not handed to anybody. -/
def System.Alive : Prop :=
  (w.status r).state ≠ .destroyed ∧ ∀ x ∈ w.handed r, x.2 ≠ .destroyed

/-- The teardown of the stream has begun. -/
def System.Torn : Prop :=
  w.Has r ∧ (w.status r).state = .destroyed

/-- The teardown of the stream is over. -/
def System.Over : Prop :=
  w.Torn r ∧ w.attachments r = [] ∧ Ended (w.handed r)

/-- Nothing is handed to a sink of the stream after its end. -/
def System.Sound : Prop :=
  w.Unmade r ∨ w.Alive r ∨ w.Torn r ∧ Ended (w.handed r)

end

namespace System

variable {r : StreamRef} {w : System κ}

theorem Alive.has (h : w.Alive r) : w.Has r :=
  has_of_state_ne h.1

/-- A sound stream hands nothing over after its end. -/
theorem Sound.ended (h : w.Sound r) : Ended (w.handed r) := by
  rcases h with hUnmade | hAlive | hTorn
  · rw [hUnmade.2]
    exact .nil
  · exact .of_none hAlive.2
  · exact hTorn.2

end System

/-- The note was there already, or a client took it since, from a sound system. -/
def Seen (look : System κ → κ.Note) (r : StreamRef) (w : System κ) (n : κ.Note) : Prop :=
  .note n ∈ w.past ∨ ∃ u, Steps look w u ∧ u.Sound r ∧ look u = n

/-- Steps take no notes but of where they are taken. -/
theorem Seen.of_steps {look : System κ → κ.Note} {r : StreamRef} {w v : System κ} {n : κ.Note}
    (h : Seen look r v n) (steps : Steps look w v) (old : .note n ∈ v.past → Seen look r w n) :
    Seen look r w n :=
  h.elim old fun ⟨u, hSteps, hSound⟩ => .inr ⟨u, steps.trans hSteps, hSound⟩

/-- What clients do to a stream, from one moment to a later one, if the stream's sinks
return. A teardown that begins between the two is over at the later one; one that began
before hands nothing to anybody but in its own pass. -/
structure Keeps (look : System κ → κ.Note) (r : StreamRef) (w v : System κ) : Prop where
  steps : Steps look w v
  unmade : w.Unmade r → v.Unmade r ∨ v.Alive r ∨ v.Over r
  alive : w.Alive r → v.Alive r ∨ v.Over r
  torn : w.Torn r →
    v.Torn r ∧ v.handed r = w.handed r ∧ (v.attachments r).Sublist (w.attachments r)
  /-- Clients saw sound systems only, at every moment between. -/
  seen : w.Sound r → ∀ n, .note n ∈ v.past → Seen look r w n

namespace Keeps

variable {look : System κ → κ.Note} {r : StreamRef} {u v w : System κ}

/-- A teardown that is over stays over. -/
theorem still_over (h : Keeps look r w v) (hOver : w.Over r) : v.Over r := by
  obtain ⟨hTorn, hHanded, hAttached⟩ := h.torn hOver.1
  refine ⟨hTorn, ?_, hHanded ▸ hOver.2.2⟩
  rw [hOver.2.1] at hAttached
  exact List.sublist_nil.1 hAttached

/-- A stream that was alive is alive or over, and one that was over stays so. -/
theorem alive_or_over (h : Keeps look r w v) (hw : w.Alive r ∨ w.Over r) :
    v.Alive r ∨ v.Over r :=
  hw.elim h.alive fun hOver => .inr (h.still_over hOver)

/-- A sound system stays sound. -/
theorem sound (h : Keeps look r w v) (hw : w.Sound r) : v.Sound r := by
  have hOver (hOver : v.Over r) : v.Sound r := .inr (.inr ⟨hOver.1, hOver.2.2⟩)
  rcases hw with hUnmade | hAlive | hTorn
  · rcases h.unmade hUnmade with hv | hv | hv
    · exact .inl hv
    · exact .inr (.inl hv)
    · exact hOver hv
  · rcases h.alive hAlive with hv | hv
    · exact .inr (.inl hv)
    · exact hOver hv
  · obtain ⟨hv, hHanded, -⟩ := h.torn hTorn.1
    exact .inr (.inr ⟨hv, hHanded ▸ hTorn.2⟩)

theorem refl (w : System κ) : Keeps look r w w where
  steps := .refl
  unmade := .inl
  alive := .inl
  torn h := ⟨h, rfl, List.Sublist.refl _⟩
  seen _ _ h := .inl h

theorem trans (first : Keeps look r u v) (second : Keeps look r v w) : Keeps look r u w where
  steps := first.steps.trans second.steps
  unmade h := by
    rcases first.unmade h with hv | hv | hv
    · exact second.unmade hv
    · exact .inr (second.alive hv)
    · exact .inr (.inr (second.still_over hv))
  alive h := second.alive_or_over (first.alive h)
  torn h := by
    obtain ⟨hv, hHanded, hAttached⟩ := first.torn h
    obtain ⟨hw, hHanded', hAttached'⟩ := second.torn hv
    exact ⟨hw, hHanded'.trans hHanded, hAttached'.trans hAttached⟩
  seen h n hn := (second.seen (first.sound h) n hn).of_steps first.steps (first.seen h n)

/-- What a step lets a client see was there before it. -/
theorem seen_of_step (step : Step look w v) (hw : w.Sound r) (n : κ.Note)
    (hn : .note n ∈ v.past) : Seen look r w n := by
  rcases step.past with hPast | ⟨e, hPast, hNote⟩
  · exact .inl (hPast ▸ hn)
  · rw [hPast] at hn
    exact (List.mem_cons.1 hn).symm.imp_right fun hNew => ⟨w, .refl, hw, hNote n hNew.symm⟩

theorem of_spares (step : Step look w v) (spares : w.Spares r v) : Keeps look r w v where
  steps := .single step
  unmade h := .inl ⟨fun hv => h.1 (spares.has.1 hv), spares.handed.trans h.2⟩
  alive h := .inl ⟨spares.state ▸ h.1, spares.handed ▸ h.2⟩
  torn h := ⟨⟨spares.has.2 h.1, spares.state.trans h.2⟩, spares.handed, spares.attached h.2⟩
  seen := seen_of_step step

/-- A stream that is born is alive. -/
theorem of_bears (step : Step look w v) (bears : w.Bears v) : Keeps look r w v := by
  have hBears := bears
  obtain ⟨made, hMade, rfl⟩ := bears
  by_cases hr : r.number = w.streams.length
  · have hNew : ¬ w.Has r := by simp [System.Has, hr]
    have hState : (({ w with streams := w.streams ++ [made] } : System κ).status r).state =
        .created := by
      simp [System.status, System.stream_append, hr, hMade]
    constructor
    · exact .single step
    · intro h
      refine .inr (.inl ⟨by rw [hState]; simp, ?_⟩)
      intro x hx
      have hOld : x ∈ w.handed r := hx
      rw [h.2] at hOld
      exact absurd hOld List.not_mem_nil
    · exact fun h => absurd h.has hNew
    · exact fun h => absurd h.1 hNew
    · exact seen_of_step step
  · exact of_spares step (hBears.spares hr)

theorem steady (look : System κ → κ.Note) (r : StreamRef) : Steady look (Keeps look r) where
  refl := refl
  trans := trans
  grows h := (Steps.steady look).grows h.steps
  quiet h := (h.spares r).elim (of_spares (.quiet h)) (of_bears (.quiet h))

/-- From a stream that is not torn down, only what holds of a living one matters. -/
theorem of_state (hState : (w.status r).state ≠ .destroyed) (steps : Steps look w v)
    (h : w.Alive r → (v.Alive r ∨ v.Over r) ∧
      ∀ n, .note n ∈ v.past → Seen look r w n) : Keeps look r w v where
  steps := steps
  unmade hUnmade := absurd (System.has_of_state_ne hState) hUnmade.1
  alive hAlive := (h hAlive).1
  torn hTorn := absurd hTorn.2 hState
  seen hSound := by
    rcases hSound with hUnmade | hAlive | hTorn
    · exact absurd (System.has_of_state_ne hState) hUnmade.1
    · exact (h hAlive).2
    · exact absurd hTorn.1.2 hState

variable {env : Surroundings κ} (he : env.Within (Keeps look r)) (hm : env.Calm r)

include he hm

omit hm in
/-- A sink is handed an event that is not the end. -/
theorem of_deliverTo {event : Event} (hEvent : event ≠ .destroyed) {a : Attachment}
    (hTurn : w.turn (.stream r) a = true) (hAlive : w.Alive r) :
    Keeps look r w ((deliverTo env (.stream r) event a.sink).left w) := by
  obtain ⟨hThere, hHolds⟩ := Bool.and_eq_true_iff.1 hTurn
  have hStep : Step look w (w.engaged (.stream r) event a.sink) :=
    .firing (.hand _ event a hThere hHolds rfl)
  have hEngaged : (w.engaged (.stream r) event a.sink).Alive r := by
    refine ⟨hAlive.1, ?_⟩
    intro x hx
    rw [System.handed_engaged] at hx
    rcases List.mem_cons.1 hx with rfl | hOld
    · exact hEvent
    · exact hAlive.2 x hOld
  apply (steady look r).related_deliverTo he
  rintro u rfl
  apply of_state hAlive.1 (.single hStep)
  intro _
  exact ⟨.inl hEngaged, seen_of_step hStep (.inr (.inl hAlive))⟩

/-- A pass that does not end the stream. A sink may end it meanwhile; then nothing is
attached any more, and whoever would have been next is passed over. -/
theorem of_visit {event : Event} (hEvent : event ≠ .destroyed) (l : List Attachment)
    (hw : w.Alive r ∨ w.Over r) : Keeps look r w ((visit env (.stream r) event l).left w) := by
  induction l generalizing w with
  | nil => exact refl w
  | cons a rest ih =>
    cases hTurn : w.turn (.stream r) a with
    | false =>
      rw [visit_skip hTurn]
      exact ih hw
    | true =>
      rcases hw with hAlive | hOver
      · have hDeliver := of_deliverTo he hEvent hTurn hAlive
        rw [visit_turn hTurn (returns_deliverTo hm event a.sink w)]
        exact hDeliver.trans (ih (hDeliver.alive hAlive))
      · simp [System.turn, Source.holds, hOver.2.1] at hTurn

end Keeps

/-- The list of sinks is seen to after a pass at most. -/
theorem left_fire (env : Surroundings κ) (o : Origin) (event : Event) (w : System κ)
    {u : System κ} (hu : u = (visit env o event (w.source o).attachments).left
      (w.record (.pass o event (w.standing o)))) :
    (fire env o event).left w = u ∨
      (fire env o event).left w = u.updateSource o (·.prune u.alive) := by
  simp only [fire, Act.left_get_bind, Act.left_modify_bind]
  rw [Act.left, Act.on_bind, ← hu]
  cases ((visit env o event (w.source o).attachments).on _).1 with
  | error h => exact .inl rfl
  | ok ended =>
    obtain ⟨handled, stale⟩ := ended
    cases stale with
    | false => exact .inl rfl
    | true => exact .inr rfl

/-- The pass of a teardown begins with the stream torn down. -/
theorem System.torn_tearing {w : System κ} {r : StreamRef}
    (hState : (w.status r).state ≠ .destroyed) : (w.tearing r).Torn r := by
  have hMade := has_of_state_ne hState
  refine ⟨(w.has_updateStatus r r _).2 hMade, ?_⟩
  rw [tearing, status_record, status_updateStatus, if_pos ⟨rfl, hMade⟩]
  rfl

end HostedStreams
