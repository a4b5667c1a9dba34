import HostedStreams.Proofs.Undisturbed

/-! Deliveries in the worker's context. If clients leave the streams of the worker's to the worker
and hosts only notify, nobody hears of such a stream outside that context, and the worker leaves it
again after each step. -/
namespace HostedStreams

variable {κ : Client} {look : System κ → κ.Note} {manners : Surroundings κ → Prop} {w v : System κ}

/-- Whatever sinks of the worker's streams have heard, they have heard in its context. -/
def System.Indoors (w : System κ) : Prop :=
  ∀ q, (w.Has q → w.Served q) → ∀ x ∈ w.hearings q, x.2 = true

namespace System.Indoors

/-- A step of the worker hands nothing to sinks outside its context. -/
theorem attended (h : w.Indoors) (launches : Launches w v) (attended : Attended w v) :
    v.Indoors := by
  intro q served x hx
  obtain ⟨news, hNews, hInside⟩ := attended.hearings q
  rw [hNews] at hx
  refine (List.mem_append.1 hx).elim (hInside x) (h q (fun made => ⟨made, ?_⟩) x)
  rw [← launches.binding made]
  exact (served (Nat.lt_of_lt_of_le made launches.grows)).2

/-- What a client does that leaves the worker's streams to it, is not heard by their sinks. -/
theorem undisturbed (h : w.Indoors) (outside : w.Outside) (launched : w.Launched)
    (undisturbed : ∀ q, Undisturbed True q w v) : v.Indoors := by
  intro q served
  have hThere := undisturbed q
  have hServed (made : w.Has q) : w.Served q :=
    ⟨made, (hThere.conserves.binding made).symm.trans (served (hThere.conserves.has made)).2⟩
  have hUnheard : v.hearings q = w.hearings q := by
    by_cases made : w.Has q
    · exact hThere.hearings outside (hServed made) (launched q (hServed made))
    · exact hThere.born trivial outside made served
  rw [hUnheard]
  exact h q hServed

/-- Sinks of the worker's streams have heard everything in its context. -/
theorem of_reached (h : Discipline.proper.Reached look (Surroundings.Hushed look) w) :
    w.Indoors := by
  obtain ⟨client, hRun⟩ := h
  induction hRun with
  | refl => exact fun q _ x hx => absurd hx List.not_mem_nil
  | act before conduct ih =>
    have hReached := Discipline.Reached.reached ⟨client, before⟩
    exact ih.undisturbed (.of_reached hReached) (.of_reached hReached) fun q =>
      Undisturbed.conduct (fun _ _ hushed => hushed) conduct _
  | start before unstarted settings executor ih =>
    exact Dispatcher.related_start (R := fun w v => w.Indoors → v.Indoors) id (fun _ _ h => h)
      settings executor ih
  | turn before serves ih =>
    have hReached := Discipline.Reached.reached ⟨client, before⟩
    exact ih.attended (Launches.step serves.serves _)
      (Attended.step serves.serves (.of_reached look hReached))

end System.Indoors

/-- Sinks of the worker's streams are handed events in its context alone, at any depth of calls, and
the context is off before each of its steps and after it. -/
theorem delivered_inContext
    (reached : Discipline.proper.Reached look (Surroundings.Hushed look) w) :
    (∀ sink r event standing inside,
      .delivery sink (.stream r) event standing inside ∈ w.past → w.Served r → inside = true) ∧
    w.dispatcher.inContext = false ∧
    ∀ env, env.Serves look manners →
      ((Worker.step env).left w).dispatcher.inContext = w.dispatcher.inContext := by
  have hReached := reached.reached
  refine ⟨fun sink r event standing inside hTaken served => ?_,
    (System.Outside.of_reached hReached).inContext, fun env serves =>
      (Attended.step serves (.of_reached look hReached)).inContext⟩
  refine System.Indoors.of_reached reached r (fun _ => served) (event, inside) ?_
  exact List.mem_filterMap.2 ⟨_, hTaken, if_pos rfl⟩

/-- Obliging hosts do not even notify. -/
theorem Surroundings.hushed_obliging : obliging.Hushed fun _ => () :=
  ⟨fun _ _ => .alone (.pure _), fun _ _ _ => .alone (.pure _), fun _ _ => .alone (.pure _),
    fun _ => .alone (.pure _)⟩

/-- A dispatcher takes a notification for a stream with a sink, and is told to end after that. -/
def heard : System Client.plain :=
  (Worker.step Surroundings.obliging).left <|
    (Discipline.proper.each Surroundings.obliging [⟨_, .beginShutdown⟩]).left <|
      (Worker.step Surroundings.obliging).left Discipline.expectant

/-- The dispatcher is told to end by a call that is permitted. -/
theorem reached_heard :
    Discipline.proper.Reached (fun _ => ()) (Surroundings.Hushed fun _ => ()) heard := by
  have serves := Discipline.proper.serves_obliging Surroundings.hushed_obliging
  have hTaken := (Discipline.run_expectant Surroundings.hushed_obliging).turn serves
  exact ⟨(), (hTaken.act (.each serves _)).turn serves⟩

/-- The sink is handed the stream's acknowledgement and, before the worker ends, its end. -/
theorem delivered_inContext_heard :
    heard.Served ⟨0⟩ ∧ heard.hearings ⟨0⟩ = [(.destroyed, true), (.created, true)] ∧
    heard.dispatcher.inContext = false ∧
    ∀ sink r event standing inside, .delivery sink (.stream r) event standing inside ∈ heard.past →
      heard.Served r → inside = true := by
  obtain ⟨hInside, hOff, -⟩ := @delivered_inContext _ _ Surroundings.any _ reached_heard
  exact ⟨⟨by decide +kernel, by decide +kernel⟩, by decide +kernel, hOff, hInside⟩

end HostedStreams
