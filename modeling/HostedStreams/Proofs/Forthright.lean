import HostedStreams.Proofs.Lenient
import HostedStreams.Proofs.Settlement
import HostedStreams.Proofs.Teardown

/-! What sinks hear from a stream whose events come from the worker alone. Handlers can still tear
it down while one of its passes is under way, and then the end overtakes the event. Since a panic
goes on through whoever waits for it, the pass that was overtaken goes on only where the teardown
is over, and finds no sink attached any more. -/
namespace HostedStreams

variable {κ : Client} {α β : Type}

/-- What a client does that reports nothing to streams and holds back no panic of the library:
what it does on its own, and calls. -/
inductive Frank (look : System κ → κ.Note) (below : Surroundings κ → Prop) :
    {α : Type} → Act κ α → Prop
  | alone {α : Type} {a : Act κ α} (h : Conduct look (fun _ => False) a) : Frank look below a
  | bind {α β : Type} {a : Act κ α} {f : α → Act κ β} :
      Frank look below a → (∀ x, Frank look below (f x)) → Frank look below (a >>= f)
  | after {α : Type} {a : Act κ α} {last : Act κ Unit} :
      Frank look below a → Frank look below last → Frank look below (a.after last)
  | call {α : Type} {env : Surroundings κ} (usable : below env) (c : Call κ α)
      (silent : c.reports = false) : Frank look below (c.run env)

namespace Surroundings

section

variable (look : System κ → κ.Note)

/-- Whatever the client does when a call of its own makes the library call it is frank. -/
structure Candid (below : Surroundings κ → Prop) (env : Surroundings κ) : Prop where
  deliver : ∀ sink origin event, Frank look below (env.deliver sink origin event)
  start : ∀ id config, Frank look below (env.host.start id config)
  requestRanges : ∀ id request ranges, Frank look below (env.host.requestRanges id request ranges)
  write : ∀ id data, Frank look below (env.host.write id data)
  cancel : ∀ id, Frank look below (env.host.cancel id)
  isCurrent : Frank look below env.isCurrent
  scheduleTeardown : ∀ id, Frank look below (env.scheduleTeardown id)

/-- What sinks and the host do when they are called is frank, and so is what they do when they
are called because of that, however often this repeats. Jobs may do what they like. -/
inductive Forthright : Surroundings κ → Prop
  | intro {env : Surroundings κ} (below : Surroundings κ → Prop)
      (forthright : ∀ lower, below lower → Forthright lower) (candid : env.Candid look below) :
      Forthright env

end

end Surroundings

/-- The event that the stream starts to hand to its sinks. -/
def Entry.fired? {Note : Type} (r : StreamRef) : Entry Note → Option Event
  | .pass o event _ => if o = .stream r then some event else none
  | _ => none

namespace System

variable {w v u : System κ} {r : StreamRef} {sink : SinkRef}

/-- The events of the stream's passes, the latest first. -/
def fired (w : System κ) (r : StreamRef) : List Event :=
  w.past.filterMap (·.fired? r)

/-- What the sink was handed by the stream, the latest first. -/
def heard (w : System κ) (r : StreamRef) (sink : SinkRef) : List Event :=
  ((w.handed r).filter (·.1 = sink)).map (·.2)

/-- What the sink was handed by the stream, in order. -/
def received (w : System κ) (r : StreamRef) (sink : SinkRef) : List Event :=
  ((w.deliveries r).filter (·.1 = sink)).map (·.2)

/-- What a sink has received is what it has heard, the earliest first. -/
theorem received_eq (w : System κ) (r : StreamRef) (sink : SinkRef) :
    w.received r sink = (w.heard r sink).reverse := by
  rw [received, deliveries_eq, heard, List.filter_reverse, List.map_reverse]

/-- The events of the passes are those that were fired, the earliest first. -/
theorem events_of_passes (w : System κ) (r : StreamRef) :
    (w.passes r).map (·.1) = (w.fired r).reverse := by
  rw [passes, journal, fired, List.map_filterMap, List.filterMap_reverse]
  congr 2
  funext e
  cases e <;> simp only [Entry.fired?, Option.map_none]
  split <;> rfl

/-- Only the start of a pass adds to what was fired. -/
theorem fired_record (w : System κ) (e : Entry κ.Note) (r : StreamRef) :
    (w.record e).fired r = (e.fired? r).toList ++ w.fired r := by
  simp only [fired, record, List.filterMap_cons]
  cases e.fired? r <;> rfl

theorem fired_of_past (h : v.past = w.past) (r : StreamRef) : v.fired r = w.fired r := by
  rw [fired, h, fired]

theorem heard_of_handed (h : v.handed r = w.handed r) (sink : SinkRef) :
    v.heard r sink = w.heard r sink := by
  rw [heard, h, heard]

/-- Only the sink whose turn it is hears of the event. -/
theorem heard_engaged (w : System κ) (r : StreamRef) (event : Event) (taker sink : SinkRef) :
    (w.engaged (.stream r) event taker).heard r sink =
      (if taker = sink then [event] else []) ++ w.heard r sink := by
  rw [heard, handed_engaged, List.filter_cons]
  by_cases h : taker = sink <;> simp [h, heard]

end System

/-- Outside passes nothing is fired. -/
theorem Quiet.fired {look : System κ → κ.Note} {w v : System κ} (h : Quiet look w v)
    (r : StreamRef) : v.fired r = w.fired r := by
  cases h with
  | note | start | cancel | uncancelled | read | unread | write | abort | answer =>
    exact System.fired_record ..
  | accept id event => exact System.fired_record w (.accepted id event) r
  | refuse id event reason => exact System.fired_record w (.refused id event reason) r
  | _ => exact System.fired_of_past (by
      simp [System.updateClient, System.updateSink, System.updateDispatcher]) r

/-- Passes of others fire nothing for the stream. -/
theorem Firing.fired {o : Origin} {w v : System κ} (h : Firing o w v) {r : StreamRef}
    (ho : o ≠ .stream r) : v.fired r = w.fired r := by
  cases h with
  | take | tearDown | start =>
    rw [System.fired_record]
    simp only [Entry.fired?, if_neg ho]
    rfl
  | hand o event a alive attached kept =>
    subst kept
    exact System.fired_record ..
  | prune | clear => exact System.fired_of_past (by simp) r

namespace System

/-- Nothing is fired by the stream, and nobody is handed anything. -/
structure Silent (r : StreamRef) (w v : System κ) : Prop where
  fired : v.fired r = w.fired r
  handed : v.handed r = w.handed r

/-- The stream was torn down, and nobody heard anything of it but the end. -/
structure Farewell (r : StreamRef) (w v : System κ) : Prop where
  torn : v.Torn r
  fired : v.fired r = .destroyed :: w.fired r
  heard : ∀ sink, v.heard r sink = w.heard r sink ∨ v.heard r sink = .destroyed :: w.heard r sink

/-- What a pass leads to, given the sinks that it may come to: the event was handed to some of
these, and whatever else was fired meanwhile was handed to some. -/
def Passed (r : StreamRef) (event : Event) (l : List Attachment) (news : List Event)
    (w v : System κ) : Prop :=
  v.fired r = news ++ w.fired r ∧ ∀ sink, ∃ more, v.heard r sink = more ++ w.heard r sink ∧
    more.Sublist (news ++ if sink ∈ l.map (·.sink) then [event] else [])

variable {r : StreamRef} {u v w : System κ}

theorem Silent.trans (first : u.Silent r v) (second : v.Silent r w) : u.Silent r w :=
  ⟨second.fired.trans first.fired, second.handed.trans first.handed⟩

/-- Nobody hears anything in silence. -/
theorem Silent.heard (h : w.Silent r v) (sink : SinkRef) : v.heard r sink = w.heard r sink :=
  heard_of_handed h.handed sink

/-- The end may come after silence. -/
theorem Farewell.before (first : u.Silent r v) (second : v.Farewell r w) : u.Farewell r w where
  torn := second.torn
  fired := by rw [second.fired, first.fired]
  heard sink := by rw [← first.heard]; exact second.heard sink

/-- After the end there is silence. -/
theorem Farewell.silent (first : u.Farewell r v) (second : v.Silent r w) (torn : w.Torn r) :
    u.Farewell r w where
  torn := torn
  fired := second.fired.trans first.fired
  heard sink := by rw [second.heard]; exact first.heard sink

namespace Passed

variable {event : Event} {a : Attachment} {rest : List Attachment} {news : List Event}

theorem refl (w : System κ) (event : Event) (l : List Attachment) : w.Passed r event l [] w :=
  ⟨rfl, fun _ => ⟨[], rfl, List.nil_sublist _⟩⟩

/-- Those that the pass may come to can be more. -/
theorem skip (h : w.Passed r event rest news v) : w.Passed r event (a :: rest) news v := by
  refine ⟨h.1, fun sink => ?_⟩
  obtain ⟨more, hMore, hSublist⟩ := h.2 sink
  refine ⟨more, hMore, hSublist.trans (List.Sublist.append (List.Sublist.refl _) ?_)⟩
  split
  · rename_i hMem
    rw [if_pos (by rw [List.map_cons]; exact List.mem_cons_of_mem _ hMem)]
  · exact List.nil_sublist _

/-- The first one was handed the event, and the pass went on. -/
theorem turn (first : (w.engaged (.stream r) event a.sink).Silent r u)
    (new : a.sink ∉ rest.map (·.sink)) (h : u.Passed r event rest news v) :
    w.Passed r event (a :: rest) news v := by
  refine ⟨h.1.trans (congrArg _ (first.fired.trans (fired_record ..))), fun sink => ?_⟩
  obtain ⟨more, hMore, hSublist⟩ := h.2 sink
  rw [first.heard, heard_engaged, ← List.append_assoc] at hMore
  refine ⟨_, hMore, ?_⟩
  by_cases hFirst : a.sink = sink
  · subst hFirst
    rw [if_neg new, List.append_nil] at hSublist
    simpa using hSublist.append_right [event]
  · rw [if_neg hFirst, List.append_nil]
    simpa [Ne.symm hFirst] using hSublist

/-- The first one was handed the event, and the stream was torn down. -/
theorem overtaken (h : (w.engaged (.stream r) event a.sink).Farewell r v) :
    w.Passed r event (a :: rest) [.destroyed] v := by
  refine ⟨h.fired.trans (congrArg _ (fired_record ..)), fun sink => ?_⟩
  obtain ⟨more, hMore, hSublist⟩ : ∃ more,
      v.heard r sink = more ++ (w.engaged (.stream r) event a.sink).heard r sink ∧
        more.Sublist [.destroyed] := by
    rcases h.heard sink with hSame | hEnd
    · exact ⟨[], hSame, List.nil_sublist _⟩
    · exact ⟨[.destroyed], hEnd, List.Sublist.refl _⟩
  rw [heard_engaged, ← List.append_assoc] at hMore
  refine ⟨_, hMore, hSublist.append ?_⟩
  by_cases hFirst : a.sink = sink
  · simp [hFirst]
  · rw [if_neg hFirst]
    exact List.nil_sublist _

/-- A sink hears at most what was fired. -/
theorem heard {l : List Attachment} (h : w.Passed r event l news v) (sink : SinkRef) :
    ∃ more, v.heard r sink = more ++ w.heard r sink ∧ more.Sublist (news ++ [event]) := by
  obtain ⟨more, hMore, hSublist⟩ := h.2 sink
  refine ⟨more, hMore, hSublist.trans (List.Sublist.append (List.Sublist.refl _) ?_)⟩
  split
  · exact List.Sublist.refl _
  · exact List.nil_sublist _

end Passed

end System

/-- A pass does nothing where nobody is attached. -/
theorem left_visit_of_nobody {env : Surroundings κ} {r : StreamRef} {event : Event}
    {l : List Attachment} {w : System κ} (h : w.attachments r = []) :
    (visit env (.stream r) event l).left w = w := by
  induction l with
  | nil => rfl
  | cons a rest ih =>
    have hTurn : w.turn (.stream r) a = false := by simp [System.turn, Source.holds, h]
    rw [visit_skip hTurn, ih]

/-- What clients do to a stream to which they report nothing, from one moment to a later one. They
can tear it down, and where they return after that, its teardown is over. -/
structure Parting (r : StreamRef) (end_ : Option Halt) (w v : System κ) : Prop where
  grows : w.streams.length ≤ v.streams.length
  torn : w.Torn r → v.Torn r ∧ w.Silent r v ∧ (v.attachments r).Sublist (w.attachments r)
  live : (w.status r).state ≠ .destroyed → (v.status r).state ≠ .destroyed ∧ w.Silent r v ∨
    w.Farewell r v ∧ (end_ = none → v.attachments r = [])

namespace Parting

variable {r : StreamRef} {u v w : System κ} {first second third : Option Halt}

/-- Partings in a row are one parting, by whichever of them is cut short. -/
theorem join (h : Parting r first u v) (k : Parting r second v w)
    (ends : third = none → first = none ∧ second = none) : Parting r third u w where
  grows := Nat.le_trans h.grows k.grows
  torn hTorn := by
    obtain ⟨hv, hSilent, hAttached⟩ := h.torn hTorn
    obtain ⟨hw, hSilent', hAttached'⟩ := k.torn hv
    exact ⟨hw, hSilent.trans hSilent', hAttached'.trans hAttached⟩
  live hLive := by
    rcases h.live hLive with ⟨hv, hSilent⟩ | ⟨hFarewell, hOver⟩
    · refine (k.live hv).imp (fun ⟨hw, hSilent'⟩ => ⟨hw, hSilent.trans hSilent'⟩) ?_
      exact fun ⟨hFarewell, hOver⟩ => ⟨hFarewell.before hSilent, fun hEnd => hOver (ends hEnd).2⟩
    · obtain ⟨hw, hSilent, hAttached⟩ := k.torn hFarewell.torn
      refine .inr ⟨hFarewell.silent hSilent hw, fun hEnd => ?_⟩
      rw [hOver (ends hEnd).1] at hAttached
      exact List.sublist_nil.1 hAttached

theorem of_spares (spares : w.Spares r v) (fired : v.fired r = w.fired r)
    (grows : w.streams.length ≤ v.streams.length) : Parting r first w v where
  grows := grows
  torn h :=
    ⟨⟨spares.has.2 h.1, spares.state.trans h.2⟩, ⟨fired, spares.handed⟩, spares.attached h.2⟩
  live h := .inl ⟨spares.state ▸ h, fired, spares.handed⟩

theorem of_bears (bears : w.Bears v) : Parting r first w v := by
  by_cases hr : r.number = w.streams.length
  · have hNew : ¬ w.Has r := by simp [System.Has, hr]
    exact ⟨bears.grows, fun h => absurd h.1 hNew, fun h => absurd (System.has_of_state_ne h) hNew⟩
  · refine of_spares (bears.spares hr) ?_ bears.grows
    obtain ⟨made, -, rfl⟩ := bears
    rfl

theorem of_firing {o : Origin} (h : Firing o w v) (ho : o ≠ .stream r) : Parting r first w v :=
  of_spares (h.spares ho) (h.fired ho) h.grows

theorem steady (look : System κ → κ.Note) (r : StreamRef) : Outcome.Steady look (Parting r) where
  refl w := of_spares (.of_streams rfl rfl) rfl (Nat.le_refl _)
  trans h k := h.join k fun hEnd => ⟨rfl, hEnd⟩
  panic w _ := of_spares (.of_streams rfl rfl) rfl (Nat.le_refl _)
  resumed h k := h.join k (by simp)
  replaced h k := h.join k (by simp)
  grows h := h.grows
  quiet h _ := (h.spares r).elim (fun spares => of_spares spares (h.fired r) h.grows) of_bears
  refuse {w id event reason label} _ :=
    have h : Quiet look w _ := .refuse id event reason label
    (h.spares r).elim (fun spares => of_spares spares (h.fired r) h.grows) of_bears

section

variable (look : System κ → κ.Note) {env : Surroundings κ} (he : env.Heed (Parting r))

include look he

omit he in
/-- No stream is lost, however an action ends. -/
theorem grown : Outcome.Steady look fun _ w v => w.streams.length ≤ v.streams.length where
  refl _ := Nat.le_refl _
  trans := Nat.le_trans
  panic _ _ := Nat.le_refl _
  resumed := Nat.le_trans
  replaced := Nat.le_trans
  grows h := h
  quiet h _ := h.grows
  refuse _ := Nat.le_refl _

/-- One sink is handed the event. -/
theorem of_deliverTo (event : Event) (sink : SinkRef) (w : System κ) :
    (deliverTo env (.stream r) event sink).Leads (Parting r) (w.engaged (.stream r) event sink) w :=
  (steady look r).leads_deliverTo he fun kept => by
    subst kept
    exact (steady look r).refl _

/-- A pass comes to each of the sinks once at most. One of them may tear the stream down, and if
the pass goes on after that, it finds nobody attached any more. -/
theorem passed_visit (event : Event) (l : List Attachment)
    (distinct : l.Pairwise fun a b => a.sink ≠ b.sink) (made : w.Has r) {v : System κ}
    (hv : v = (visit env (.stream r) event l).left w) :
    ∃ news, w.Passed r event l news v ∧ (w.Torn r → v.Torn r ∧ news = []) := by
  induction l generalizing w with
  | nil =>
    subst hv
    exact ⟨[], .refl _ event [], fun h => ⟨h, rfl⟩⟩
  | cons a rest ih =>
    obtain ⟨hFirst, distinct⟩ := List.pairwise_cons.1 distinct
    have hNew : a.sink ∉ rest.map (·.sink) := fun hMem => by
      obtain ⟨b, hb, he⟩ := List.mem_map.1 hMem
      exact hFirst b hb he.symm
    cases hTurn : w.turn (.stream r) a with
    | false =>
      rw [visit_skip hTurn] at hv
      obtain ⟨news, hPassed, hTorn⟩ := ih distinct made hv
      exact ⟨news, hPassed.skip, hTorn⟩
    | true =>
      have hDeliver := of_deliverTo look he event a.sink w
      rw [Act.Leads] at hDeliver
      have hMade : ((deliverTo env (.stream r) event a.sink).left w).Has r :=
        Nat.lt_of_lt_of_le made hDeliver.grows
      have hTurned := left_visit_of_turn env event rest hTurn
      rw [← hv] at hTurned
      -- Where the pass goes on, nothing was fired meanwhile, or nobody is attached any more.
      have goesOn (hSilent : (w.engaged (.stream r) event a.sink).Silent r
          ((deliverTo env (.stream r) event a.sink).left w)) :
          ∃ news, w.Passed r event (a :: rest) news v ∧
            (((deliverTo env (.stream r) event a.sink).left w).Torn r → v.Torn r ∧ news = []) := by
        obtain ⟨-, hLeft⟩ | ⟨-, -, hLeft⟩ := hTurned
        · obtain ⟨news, hPassed, hStill⟩ := ih distinct hMade hLeft
          exact ⟨news, .turn hSilent hNew hPassed, hStill⟩
        · rw [hLeft]
          exact ⟨[], .turn hSilent hNew (.refl _ event rest), fun h => ⟨h, rfl⟩⟩
      by_cases hState : (w.status r).state = .destroyed
      · obtain ⟨hTorn, hSilent, -⟩ := hDeliver.torn ⟨made, hState⟩
        obtain ⟨news, hPassed, hStill⟩ := goesOn hSilent
        exact ⟨news, hPassed, fun _ => hStill hTorn⟩
      · obtain ⟨-, hSilent⟩ | ⟨hFarewell, hOver⟩ := hDeliver.live hState
        · obtain ⟨news, hPassed, -⟩ := goesOn hSilent
          exact ⟨news, hPassed, fun h => absurd h.2 hState⟩
        · refine ⟨[.destroyed], ?_, fun h => absurd h.2 hState⟩
          obtain ⟨⟨_, hEnd⟩, hLeft⟩ | ⟨-, -, hLeft⟩ := hTurned
          · rw [hLeft, left_visit_of_nobody (hOver (Act.halt?_of_ok hEnd))]
            exact .overtaken hFarewell
          · rw [hLeft]
            exact .overtaken hFarewell

/-- A whole pass, from the moment at which it is written down. -/
theorem passed_fire (event : Event) {w : System κ} (made : w.Has r) {u v : System κ}
    (hu : u = w.record (.pass (.stream r) event (w.standing (.stream r))))
    (hv : v = (fire env (.stream r) event).left w) :
    ∃ news, u.Passed r event (w.attachments r) news v ∧ (w.Torn r → v.Torn r ∧ news = []) := by
  have hDistinct : (w.attachments r).Pairwise fun a b => a.sink ≠ b.sink :=
    (w.source (.stream r)).ordered.imp And.right
  obtain ⟨news, hPassed, hTorn⟩ := passed_visit look he event (w.attachments r) hDistinct
    (w := u) (hu ▸ made) rfl
  have hTorn : w.Torn r → ((visit env (.stream r) event (w.attachments r)).left u).Torn r ∧
      news = [] := fun h => hTorn (hu ▸ h)
  refine ⟨news, ?_⟩
  rw [hu] at hPassed hTorn ⊢
  obtain hLeft | hLeft := left_fire env (.stream r) event w rfl
  · rw [hv, hLeft]
    exact ⟨hPassed, hTorn⟩
  · rw [hv, hLeft]
    refine ⟨hPassed, fun h => (hTorn h).imp_left fun h => ⟨?_, ?_⟩⟩
    · exact (System.has_updateSource ..).2 h.1
    · rw [System.status_updateSource]
      exact h.2

/-- The pass of a teardown. -/
theorem farewell_fire {w : System κ} (live : (w.status r).state ≠ .destroyed) {v : System κ}
    (hv : v = (fire env (.stream r) .destroyed).left (w.updateStatus r Status.tornDown)) :
    w.Farewell r v := by
  have hMade := System.has_of_state_ne live
  have hTearing : w.tearing r = (w.updateStatus r Status.tornDown).record (.pass (.stream r)
      .destroyed ((w.updateStatus r Status.tornDown).standing (.stream r))) := by
    rw [System.standing_updateStatus hMade]
    rfl
  obtain ⟨news, hPassed, hStill⟩ := passed_fire look he .destroyed
    (w := w.updateStatus r Status.tornDown) ((w.has_updateStatus r r _).2 hMade) hTearing hv
  obtain ⟨hTorn, rfl⟩ := hStill (System.torn_tearing live)
  have hFired : (w.tearing r).fired r = .destroyed :: w.fired r := by
    rw [System.tearing, System.fired_record, System.fired_of_past (w.past_updateStatus r _)]
    simp [Entry.fired?]
  refine ⟨hTorn, hPassed.1.trans hFired, fun sink => ?_⟩
  obtain ⟨more, hMore, hSublist⟩ := hPassed.heard sink
  have hSame : (w.tearing r).heard r sink = w.heard r sink := rfl
  rw [hSame] at hMore
  rcases List.sublist_singleton.1 hSublist with rfl | rfl
  · exact .inl hMore
  · exact .inr hMore

/-- A teardown, however it ends. -/
theorem heeds_destroy : (r.destroy env).Heeds (Parting r) := by
  intro w
  have hGrown := (grown look).heeds_destroy (r := r) (he.mono Parting.grows) Firing.grows w
  by_cases live : (w.status r).state = .destroyed
  · simp only [StreamRef.destroy, Act.leads_get_bind, live]
    exact (steady look r).refl w
  · have hFarewell : (r.destroy env).Leads (fun end_ w v =>
        w.Farewell r v ∧ (end_ = none → v.attachments r = [])) w w := by
      simp only [StreamRef.destroy, Act.leads_get_bind, if_pos live, Act.leads_modify_bind]
      have hFire := farewell_fire look he live rfl
      apply Act.leads_bind_of
      · intro halt _
        exact ⟨hFire, fun h => by cases h⟩
      · intro _ _
        obtain ⟨hTorn, hAttached, hHanded, hPast⟩ := torn_clear hFire.torn rfl rfl
        exact ⟨hFire.silent ⟨System.fired_of_past hPast r, hHanded⟩ hTorn, fun _ => hAttached⟩
    exact ⟨hGrown, fun h => absurd h.2 live, fun _ => .inr hFarewell⟩

end

/-- What the dispatcher does beside its queue is a parting. -/
theorem lenient (look : System κ → κ.Note) (manners : Surroundings κ → Prop) (r : StreamRef) :
    Outcome.Lenient look manners (Parting r) where
  toSteady := steady look r
  fireHub _ he _ event :=
    (steady look r).heeds_fireHub he (fun h => of_firing h (by simp)) event
  destroy _ he q := by
    by_cases hq : q = r
    · subst hq
      exact heeds_destroy look he
    · exact (steady look r).heeds_destroy he fun h => of_firing h (by simpa using hq)
  beside _ := of_spares (.of_streams rfl rfl) rfl (Nat.le_refl _)
  enlist _ id config := of_bears ⟨_, rfl, rfl⟩

end Parting

section

variable {look : System κ → κ.Note} {r : StreamRef}

/-- What a client does without the library leaves all streams and sinks as they are. -/
theorem Conduct.alone {a : Act κ α} (h : Conduct look (fun _ => False) a) :
    a.Within fun w v => v.streams = w.streams ∧ w.Silent r v := by
  have trans {u v w : System κ} (h : v.streams = u.streams ∧ u.Silent r v)
      (k : w.streams = v.streams ∧ v.Silent r w) : w.streams = u.streams ∧ u.Silent r w :=
    ⟨k.1.trans h.1, h.2.trans k.2⟩
  induction h with
  | pure | see | panic | remember => exact fun w => ⟨rfl, rfl, rfl⟩
  | note => exact fun w => ⟨rfl, System.fired_record .., System.handed_record ..⟩
  | bind _ _ iha ihf =>
    exact fun w => Act.related_bind (R := fun w v => v.streams = w.streams ∧ w.Silent r v) trans
      (iha w) fun x _ => ihf x _
  | contain _ ih => exact fun w => by rw [Act.left_contain]; exact ih w
  | after _ _ iha ihl => exact fun w => by rw [Act.left_after]; exact trans (iha w) (ihl _)
  | call usable => exact usable.elim

/-- Whoever is frank lets streams take no event. -/
theorem Frank.heeds {below : Surroundings κ → Prop}
    (hBelow : ∀ env, below env → env.Heed (Parting r))
    {a : Act κ α} (h : Frank look below a) : a.Heeds (Parting r) := by
  have hR := Parting.lenient look Surroundings.any r
  induction h with
  | alone h =>
    intro w
    obtain ⟨hStreams, hSilent⟩ := h.alone (r := r) w
    exact .of_spares (.of_streams hStreams hSilent.handed) hSilent.fired (hStreams ▸ Nat.le_refl _)
  | bind _ _ iha ihf => exact hR.heeds_bind iha ihf
  | after _ _ iha ihl => exact hR.heeds_after iha ihl
  | call usable c silent =>
    have he := hBelow _ usable
    apply hR.call trivial he (fun h => absurd (silent.symm.trans h) nofun)
    exact fun _ config => hR.createStream trivial he config _

/-- Forthright clients do nothing but partings. -/
theorem Surroundings.Forthright.heed {env : Surroundings κ} (h : env.Forthright look) :
    env.Heed (Parting r) := by
  induction h with
  | intro below _ candid ih =>
    exact {
      deliver := fun sink origin event => (candid.deliver sink origin event).heeds ih
      start := fun id config => (candid.start id config).heeds ih
      requestRanges := fun id request ranges => (candid.requestRanges id request ranges).heeds ih
      write := fun id data => (candid.write id data).heeds ih
      cancel := fun id => (candid.cancel id).heeds ih
      isCurrent := candid.isCurrent.heeds ih
      scheduleTeardown := fun id => (candid.scheduleTeardown id).heeds ih }

end

/-- Whatever a sink hears from one moment to a later one was fired between them, in that order. -/
structure Follows (r : StreamRef) (w v : System κ) : Prop where
  grows : w.streams.length ≤ v.streams.length
  heard : ∃ news, v.fired r = news ++ w.fired r ∧
    ∀ sink, ∃ more, v.heard r sink = more ++ w.heard r sink ∧ more.Sublist news

namespace Follows

variable {look : System κ → κ.Note} {r : StreamRef} {u v w : System κ}

/-- In silence nothing is heard that was not fired. -/
theorem of_silent (silent : w.Silent r v) (grows : w.streams.length ≤ v.streams.length) :
    Follows r w v :=
  ⟨grows, [], silent.fired, fun sink => ⟨[], silent.heard sink, List.nil_sublist _⟩⟩

theorem of_firing {o : Origin} (h : Firing o w v) (ho : o ≠ .stream r) : Follows r w v :=
  of_silent ⟨h.fired ho, (h.spares ho).handed⟩ h.grows

theorem trans (first : Follows r u v) (second : Follows r v w) : Follows r u w := by
  refine ⟨Nat.le_trans first.grows second.grows, ?_⟩
  obtain ⟨news, hFired, hHeard⟩ := first.heard
  obtain ⟨later, hLater, hHeard'⟩ := second.heard
  refine ⟨later ++ news, by rw [hLater, hFired, List.append_assoc], fun sink => ?_⟩
  obtain ⟨more, hMore, hSublist⟩ := hHeard sink
  obtain ⟨most, hMost, hSublist'⟩ := hHeard' sink
  exact ⟨most ++ more, by rw [hMost, hMore, List.append_assoc], hSublist'.append hSublist⟩

/-- The end is heard of by those it is handed to. -/
theorem of_farewell (h : w.Farewell r v) (grows : w.streams.length ≤ v.streams.length) :
    Follows r w v := by
  refine ⟨grows, [.destroyed], h.fired, fun sink => ?_⟩
  rcases h.heard sink with hSame | hEnd
  · exact ⟨[], hSame, List.nil_sublist _⟩
  · exact ⟨[.destroyed], hEnd, List.Sublist.refl _⟩

theorem steady (look : System κ → κ.Note) (r : StreamRef) : Steady look (Follows r) where
  refl _ := of_silent ⟨rfl, rfl⟩ (Nat.le_refl _)
  trans := trans
  grows h := h.grows
  quiet h := of_silent ⟨h.fired r, (h.spares r).elim System.Spares.handed fun ⟨_, _, hBears⟩ =>
    hBears ▸ rfl⟩ h.grows

variable {env : Surroundings κ} (he : env.Heed (Parting r))

include he

/-- A teardown, whatever sinks do meanwhile. -/
theorem of_destroy (look : System κ → κ.Note) (w : System κ) :
    Follows r w ((r.destroy env).left w) := by
  by_cases live : (w.status r).state = .destroyed
  · rw [System.left_destroy_of_torn live]
    exact (steady look r).refl w
  · have hParting := Parting.heeds_destroy look he w
    rcases hParting.live live with ⟨-, hSilent⟩ | ⟨hFarewell, -⟩
    · exact of_silent hSilent hParting.grows
    · exact of_farewell hFarewell hParting.grows

/-- The stream takes an event, whatever sinks do meanwhile. -/
theorem of_apply (look : System κ → κ.Note) (event : Event) (w : System κ) :
    Follows r w ((r.apply env event).left w) := by
  have hGrown := (Parting.grown look).heeds_apply (r := r) (he.mono Parting.grows) Firing.grows
    event w
  rcases hReact : (w.status r).react event with ⟨t, reaction⟩
  simp only [Act.Leads, StreamRef.apply, Act.left_get_bind, Act.left_modify_bind, hReact]
    at hGrown ⊢
  cases reaction with
  | fire fired =>
    obtain ⟨hTakes, -⟩ := Status.takes_of_react_fire hReact
    have hMade := System.has_of_state_ne hTakes.state_ne
    obtain ⟨news, hPassed, -⟩ := Parting.passed_fire look he fired
      (w := w.updateStatus r fun _ => t) ((w.has_updateStatus r r _).2 hMade) rfl rfl
    refine ⟨hGrown, news ++ [fired], ?_, fun sink => ?_⟩
    · have hFired := hPassed.1
      rw [System.fired_record, System.fired_of_past (w.past_updateStatus r _)] at hFired
      simpa [Entry.fired?] using hFired
    · exact hPassed.heard sink
  | destroy =>
    rw [(Status.of_react_destroy hReact).1, System.updateStatus_self, Act.left_bind_pure]
    exact of_destroy he look w
  | ignore =>
    rw [Status.of_react_ignore hReact, System.updateStatus_self]
    exact (steady look r).refl w

omit he

/-- Everything that clients do, and all that the dispatcher does, keeps to this. -/
theorem unconcerned (look : System κ → κ.Note) (r : StreamRef) :
    Unconcerned look (Surroundings.Forthright look) (Follows r) where
  toSteady := steady look r
  fireHub _ he hub event :=
    (steady look r).within_fireHub he (fun h => of_firing h (by simp)) event
  apply hm he q event := by
    by_cases hq : q = r
    · subst hq
      exact of_apply hm.heed look event
    · exact (steady look r).within_apply he (fun h => of_firing h (by simpa using hq)) event
  destroy hm he q := by
    by_cases hq : q = r
    · subst hq
      exact of_destroy hm.heed look
    · exact (steady look r).within_destroy he fun h => of_firing h (by simpa using hq)
  dispatcher w f := of_silent ⟨rfl, rfl⟩ (Nat.le_refl _)
  dispatching w e h := by
    refine of_silent ⟨?_, ?_⟩ (Nat.le_refl _)
    · rw [System.fired_record]
      cases e <;> first | rfl | cases h
    · rw [System.handed_record, e.handed?_of_dispatching h r]
      rfl
  enlist w id config := of_silent ⟨rfl, rfl⟩ (by simp)

end Follows

/-- What is promised of the events that a sink receives from a stream, given those that the
stream has fired. -/
structure Faithful (fired received : List Event) : Prop where
  inOrder : received.Sublist fired
  last : ∀ before after, received = before ++ .destroyed :: after → after = []

/-- Who hears some of what was fired, in order, is told the truth. -/
theorem Faithful.of_sublist {fired received : List Event} (h : received.Sublist fired)
    (final : ∀ before after, fired = before ++ .destroyed :: after → after = []) :
    Faithful fired received where
  inOrder := h
  last before after hReceived := by
    subst hReceived
    obtain ⟨first, rest, rfl, -, hRest⟩ := List.append_sublist_iff.1 h
    obtain ⟨pre, post, rfl, hMem, hPost⟩ := List.cons_sublist_iff.1 hRest
    obtain ⟨left, right, rfl⟩ := List.append_of_mem hMem
    have hEnd := final (first ++ left) (right ++ post) (by simp)
    rw [(List.append_eq_nil_iff.1 hEnd).2] at hPost
    exact List.sublist_nil.1 hPost

/-- Where the worker alone reports to streams, every sink hears what a stream fires in the order
in which it fires it. -/
theorem System.faithful_of_reached {look : System κ → κ.Note} {w : System κ}
    (h : Reached look (Surroundings.Forthright look) w) (r : StreamRef) (sink : SinkRef) :
    Faithful ((w.passes r).map (·.1)) (w.received r sink) := by
  have hOrderly := ((Always.lived _ look w h).1).orderly r
  obtain ⟨client, hRun⟩ := h
  obtain ⟨news, hFired, hHeard⟩ := ((Follows.unconcerned look r).run hRun).heard
  obtain ⟨more, hMore, hSublist⟩ := hHeard sink
  apply Faithful.of_sublist
  · rw [w.events_of_passes, w.received_eq, hFired, hMore]
    exact (hSublist.append_right _).reverse
  · intro before after hPlace
    have hKinds := congrArg (List.map Event.kind) hPlace
    rw [List.map_map, List.map_append] at hKinds
    exact List.map_eq_nil_iff.1 (hOrderly.final _ _ hKinds)

/-- The notifications that are accepted for a stream of the worker's are handed to it in the order
of their acceptance, each of them once, and none is given up before the stream is torn down or the
worker has stopped. Where hosts report by notifications only, and those who are called report
nothing to streams and hold no panic back, each sink hears what the stream fires, in that order,
and the end last. -/
theorem notifications_and_deliveries_in_order {look : System κ → κ.Note} {w : System κ}
    (r : StreamRef) :
    (∀ manners, Reached look manners w → w.Served r → w.Unspoken r → w.Settled r) ∧
    (Reached look (Surroundings.Forthright look) w →
      ∀ sink, Faithful ((w.passes r).map (·.1)) (w.received r sink)) :=
  ⟨fun _ => System.settled_of_reached, fun reached => System.faithful_of_reached reached r⟩

/-- A stream of which three notifications are accepted. Its sink tears it down when it hears of the
second one. -/
def cutShort : System Client.plain :=
  let before := (Call.each Surroundings.hasty [⟨_, .createStream { url := "" }⟩, ⟨_, .makeSink⟩,
    ⟨_, .attach ⟨0⟩ ⟨0⟩⟩, ⟨_, .notify (.drawn 0) .created⟩, ⟨_, .notify (.drawn 0) (.opened {})⟩,
    ⟨_, .notify (.drawn 0) (.dataArrived ⟨0, [1], none⟩)⟩]).left
      ((Dispatcher.start {} true).left { client := () })
  (Worker.step Surroundings.hasty).left ((Worker.step Surroundings.hasty).left
    ((Worker.step Surroundings.hasty).left before))

/-- Obliging surroundings report nothing. -/
theorem forthright_obliging : Surroundings.obliging.Forthright fun _ => () :=
  .intro (fun _ => False) (fun _ h => h.elim)
    ⟨fun _ _ _ => .alone (.pure _), fun _ _ => .alone (.pure _), fun _ _ _ => .alone (.pure _),
      fun _ _ => .alone (.pure _), fun _ => .alone (.pure _), .alone (.pure _),
      fun _ => .alone (.pure _)⟩

/-- To tear a stream down is to report nothing to it. -/
theorem forthright_hasty : Surroundings.hasty.Forthright fun _ => () := by
  refine .intro (· = .obliging) (fun _ h => h ▸ forthright_obliging)
    ⟨fun sink o event => ?_, fun _ _ => .alone (.pure _), fun _ _ _ => .alone (.pure _),
      fun _ _ => .alone (.pure _), fun _ => .alone (.pure _), .alone (.pure _),
      fun _ => .alone (.pure _)⟩
  simp only [Surroundings.hasty]
  split
  · rename_i r _
    have hDestroy : Frank (fun _ => ()) (· = .obliging) (r.destroy .obliging) :=
      .call (by rfl) (.destroy r) rfl
    exact .bind hDestroy fun _ => .alone (.pure true)
  · exact .alone (.pure true)

/-- The notifications are accepted before the worker takes its turns. -/
theorem reached_cutShort :
    Reached (fun _ => ()) (Surroundings.Forthright fun _ => ()) cutShort := by
  have serves : Surroundings.hasty.Serves (fun _ => ()) (Surroundings.Forthright fun _ => ()) :=
    Surroundings.serves_hasty forthright_obliging forthright_hasty
  have hStarted : Reached (fun _ => ()) (Surroundings.Forthright fun _ => ())
      ((Dispatcher.start {} true).left ({ client := () } : System Client.plain)) :=
    ⟨(), .start .refl rfl _ true⟩
  exact (((hStarted.act (.each serves _)).turn serves).turn serves).turn serves

/-- The first two are handed to the stream, and the third one comes too late. -/
theorem notifications_and_deliveries_in_order_cutShort :
    cutShort.Settled ⟨0⟩ ∧ Faithful ((cutShort.passes ⟨0⟩).map (·.1)) (cutShort.received ⟨0⟩ ⟨0⟩) ∧
    Entry.told Entry.dispatched? cutShort.past = [(.drawn 0, .created), (.drawn 0, .opened {})] ∧
    Entry.told Entry.dropped? cutShort.past = [(.drawn 0, .dataArrived ⟨0, [1], none⟩)] ∧
    cutShort.received ⟨0⟩ ⟨0⟩ = [.created, .opened {}, .destroyed] := by
  have hUnspoken : cutShort.Unspoken ⟨0⟩ := System.unspoken_of_takeWhile (by decide +kernel)
  obtain ⟨hSettled, hFaithful⟩ := notifications_and_deliveries_in_order (w := cutShort) ⟨0⟩
  exact ⟨hSettled _ reached_cutShort ⟨by decide +kernel, by decide +kernel⟩ hUnspoken,
    hFaithful reached_cutShort ⟨0⟩, by decide +kernel, by decide +kernel, by decide +kernel⟩

end HostedStreams
