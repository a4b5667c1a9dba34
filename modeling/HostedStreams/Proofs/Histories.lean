import HostedStreams.Proofs.Unconcerned
import Mathlib.Logic.Relation

/-! Runs as sequences of steps. Passes add to the steps outside them that an event is
taken or a teardown begins, which starts the pass, and that a sink is handed the event.
What each step preserves holds always. -/
namespace HostedStreams

variable {κ : Client}

/-- One step of a run. What the dispatcher makes of its own state is left open. -/
inductive Step (look : System κ → κ.Note) (w : System κ) : System κ → Prop
  | quiet {v : System κ} (h : Quiet look w v) : Step look w v
  | firing {v : System κ} {o : Origin} (h : Firing o w v) : Step look w v
  | enlist (id : StreamId) (config : StreamConfig) : Step look w { w with
      streams := w.streams ++
        [{ id, config, binding := .worker, status := { seekable := config.seekable } }] }
  | dispatcher (f : Dispatcher κ → Dispatcher κ) : Step look w (w.updateDispatcher f)
  | dispatching (e : Entry κ.Note) (h : e.dispatching = true) : Step look w (w.record e)

/-- Any number of steps. -/
abbrev Steps (look : System κ → κ.Note) : System κ → System κ → Prop :=
  Relation.ReflTransGen (Step look)

/-- No step loses a stream. -/
theorem Step.grows {look : System κ → κ.Note} {w v : System κ} (h : Step look w v) :
    w.streams.length ≤ v.streams.length := by
  cases h with
  | quiet h => exact h.grows
  | firing h => exact h.grows
  | _ => simp [System.record, System.updateDispatcher]

namespace Steps

variable {look : System κ → κ.Note}

/-- A step outside passes is a step of a run. -/
theorem steady (look : System κ → κ.Note) : Steady look (Steps look) where
  refl _ := .refl
  trans := .trans
  grows h := by
    induction h with
    | refl => exact Nat.le_refl _
    | tail _ step ih => exact Nat.le_trans ih step.grows
  quiet h := .single (.quiet h)

/-- What concerns the dispatcher alone is left open, so it is a step of any run. -/
theorem unconcerned (look : System κ → κ.Note) (manners : Surroundings κ → Prop) :
    Unconcerned look manners (Steps look) where
  toSteady := steady look
  fireHub _ he _ event := (steady look).within_fireHub he (fun h => .single (.firing h)) event
  apply _ he _ event := (steady look).within_apply he (fun h => .single (.firing h)) event
  destroy _ he _ := (steady look).within_destroy he fun h => .single (.firing h)
  dispatcher _ f := .single (.dispatcher f)
  dispatching _ e h := .single (.dispatching e h)
  enlist _ id config := .single (.enlist id config)

/-- What every step preserves is preserved. -/
theorem preserve {P : System κ → Prop} (step : ∀ {w v}, Step look w v → P w → P v)
    {w v : System κ} (h : Steps look w v) (hw : P w) : P v := by
  induction h with
  | refl => exact hw
  | tail _ hStep ih => exact step hStep ih

end Steps

/-- A step writes down at most one entry, and only a client that looks around writes a note. -/
theorem Quiet.past {look : System κ → κ.Note} {w v : System κ} (h : Quiet look w v) :
    v.past = w.past ∨ ∃ e, v.past = e :: w.past ∧ ∀ n, e = .note n → look w = n := by
  cases h with
  | note => exact .inr ⟨_, rfl, fun n h => Entry.note.inj h⟩
  | start | cancel | uncancelled | read | unread | write | abort | answer | accept | refuse =>
    exact .inr ⟨_, rfl, fun n h => by cases h⟩
  | _ => exact .inl (by simp [System.updateClient, System.updateSink, System.updateDispatcher])

/-- What a pass does of itself is no note of a client's. -/
theorem Firing.past {o : Origin} {w v : System κ} (h : Firing o w v) :
    v.past = w.past ∨ ∃ e, v.past = e :: w.past ∧ ∀ n, e ≠ .note n := by
  cases h with
  | take | tearDown | start => exact .inr ⟨_, rfl, fun n h => by cases h⟩
  | hand o event a alive attached kept =>
    subst kept
    exact .inr ⟨_, rfl, fun n h => by cases h⟩
  | prune | clear => exact .inl (by simp)

/-- A step leaves at most one entry, and a note tells of the system that it was taken in. -/
theorem Step.past {look : System κ → κ.Note} {w v : System κ} (h : Step look w v) :
    v.past = w.past ∨ ∃ e, v.past = e :: w.past ∧ ∀ n, e = .note n → look w = n := by
  cases h with
  | quiet h => exact h.past
  | firing h =>
    exact h.past.imp_right fun ⟨e, hPast, hNone⟩ => ⟨e, hPast, fun n he => absurd he (hNone n)⟩
  | dispatching e h => exact .inr ⟨e, rfl, fun n he => by subst he; cases h⟩
  | enlist | dispatcher => exact .inl rfl

/-- Steps only add to what happened. -/
theorem Steps.past {look : System κ → κ.Note} {w v : System κ}
    (h : Steps look w v) : w.past <:+ v.past := by
  induction h with
  | refl => exact List.suffix_refl _
  | tail _ step ih =>
    rcases step.past with hSame | ⟨e, hNew, -⟩
    · exact hSame ▸ ih
    · exact hNew ▸ ih.trans (List.suffix_cons _ _)

/-- What holds at the outset and is preserved by every step holds always. -/
theorem Always.of_step {manners : Surroundings κ → Prop} {P : System κ → Prop}
    (outset : ∀ client, P { client })
    (step : ∀ {look : System κ → κ.Note} {w v}, Step look w v → P w → P v) :
    Always manners P := by
  rintro look w ⟨client, hRun⟩
  have hSteps : Steps look _ w := (Steps.unconcerned look manners).run hRun
  clear hRun
  induction hSteps with
  | refl => exact ⟨outset client, fun n h => by cases h⟩
  | tail _ hStep ih =>
    refine ⟨step hStep ih.1, ?_⟩
    intro n hn
    rcases hStep.past with hPast | ⟨e, hPast, hNote⟩
    · exact ih.2 n (hPast ▸ hn)
    · rw [hPast] at hn
      rcases List.mem_cons.1 hn with hNew | hOld
      · exact ⟨_, ih.1, hNote n hNew.symm⟩
      · exact ih.2 n hOld

/-- The relation holds between any two moments of every run, be they in the middle of calls or
between them: from what clients have seen to what they saw later, from there to the end, and
from the end to whatever comes of going on. -/
structure Lasting (manners : Surroundings κ → Prop) (R : System κ → System κ → Prop) : Prop where
  further : ∀ look w v, Reached look manners w → Run look manners w v → R w v
  seen : ∀ look w, Reached look manners w → ∀ n, .note n ∈ w.past → ∃ u, look u = n ∧ R u w
  between : ∀ look w, Reached look manners w → ∀ earlier later,
    [.note later, .note earlier].Sublist w.past →
      ∃ u v, look u = earlier ∧ look v = later ∧ R u v

/-- What clients have seen is related to how things are, and one thing they saw to the next. -/
structure Related (look : System κ → κ.Note) (R : System κ → System κ → Prop) (w : System κ) :
    Prop where
  seen : ∀ n, .note n ∈ w.past → ∃ u, look u = n ∧ R u w
  between : ∀ earlier later, [.note later, .note earlier].Sublist w.past →
    ∃ u v, look u = earlier ∧ look v = later ∧ R u v

/-- What clients have seen stays related as long as each step keeps to the relation. -/
theorem Related.step {look : System κ → κ.Note} {R : System κ → System κ → Prop} {w v : System κ}
    (h : Related look R w) (trans : ∀ {u v w}, R u v → R v w → R u w) (hStep : Step look w v)
    (hR : R w v) : Related look R v := by
  have hOld {n : κ.Note} (hn : .note n ∈ w.past) : ∃ u, look u = n ∧ R u v :=
    (h.seen n hn).imp fun _ hu => ⟨hu.1, trans hu.2 hR⟩
  rcases hStep.past with hPast | ⟨e, hPast, hNote⟩
  · constructor <;> rw [hPast]
    · exact fun n => hOld
    · exact h.between
  · constructor <;> rw [hPast]
    · intro n hn
      rcases List.mem_cons.1 hn with hNew | hn
      · exact ⟨w, hNote n hNew.symm, hR⟩
      · exact hOld hn
    · intro earlier later hBoth
      cases hBoth with
      | cons _ hBoth => exact h.between earlier later hBoth
      | cons_cons _ hFirst =>
        obtain ⟨u, hu, hRelated⟩ := h.seen earlier (List.singleton_sublist.1 hFirst)
        exact ⟨u, w, hu, hNote later rfl, hRelated⟩

/-- A relation that every step keeps to lasts, as long as what the steps start from has a
property that holds always. -/
theorem Lasting.of_step {manners : Surroundings κ → Prop} {R : System κ → System κ → Prop}
    {P : System κ → Prop} (outset : ∀ client, P { client })
    (keeps : ∀ {look : System κ → κ.Note} {w v}, Step look w v → P w → P v)
    (refl : ∀ w, R w w) (trans : ∀ {u v w}, R u v → R v w → R u w)
    (step : ∀ {look : System κ → κ.Note} {w v}, Step look w v → P w → R w v) :
    Lasting manners R := by
  have hRelated {look : System κ → κ.Note} {w : System κ} (h : Reached look manners w) :
      P w ∧ Related look R w := by
    obtain ⟨client, hRun⟩ := h
    have hSteps : Steps look _ w := (Steps.unconcerned look manners).run hRun
    clear hRun
    induction hSteps with
    | refl => exact ⟨outset client, ⟨fun n h => absurd h List.not_mem_nil, fun _ _ h => by cases h⟩⟩
    | tail _ hStep ih => exact ⟨keeps hStep ih.1, ih.2.step trans hStep (step hStep ih.1)⟩
  refine ⟨fun look w v hReached hRun => ?_, fun look w hReached => (hRelated hReached).2.seen,
    fun look w hReached => (hRelated hReached).2.between⟩
  have hSteps : Steps look w v := (Steps.unconcerned look manners).run hRun
  have hBoth : P v ∧ R w v := by
    clear hRun
    induction hSteps with
    | refl => exact ⟨(hRelated hReached).1, refl w⟩
    | tail _ hStep ih => exact ⟨keeps hStep ih.1, trans ih.2 (step hStep ih.1)⟩
  exact hBoth.2

end HostedStreams
