import HostedStreams.Proofs.Calm

/-! What a pass does for the sinks. Sinks may do anything to the list that a pass goes by. What
counts, whatever else they do, is whether somebody detached a sink or cleared the list
since the pass began, and whether the sink is still there. -/
namespace HostedStreams

variable {κ : Client}

namespace Source

/-- A list that has come of another one by upkeep: what is in it under an old number was in
the other one. -/
structure Descends (s t : Source) : Prop where
  serial : s.nextSerial ≤ t.nextSerial
  old : ∀ a ∈ t.attachments, a.serial < s.nextSerial → a ∈ s.attachments

variable {s t : Source} {a : Attachment}

theorem Descends.refl (s : Source) : s.Descends s :=
  ⟨Nat.le_refl _, fun _ h _ => h⟩

theorem Descends.trans {u : Source} (first : s.Descends t) (second : t.Descends u) :
    s.Descends u where
  serial := Nat.le_trans first.serial second.serial
  old a ha hOld := first.old a (second.old a ha (Nat.lt_of_lt_of_le hOld first.serial)) hOld

/-- A list that is restricted descends from what it was. -/
theorem descends_restrict (keep : Attachment → Bool) (s : Source) :
    s.Descends (s.restrict keep) :=
  ⟨Nat.le_refl _, fun _ ha _ => (List.mem_filter.1 ha).1⟩

/-- A sink that is appended gets a number of its own. -/
theorem descends_append (sink : SinkRef) (s : Source) (new : ∀ a ∈ s.attachments, a.sink ≠ sink) :
    s.Descends (s.append sink new) where
  serial := Nat.le_succ _
  old a ha hOld := by
    rcases List.mem_append.1 ha with ha | hNew
    · exact ha
    · rw [List.mem_singleton.1 hNew] at hOld
      exact absurd hOld (Nat.lt_irrefl _)

/-- Whatever upkeep is done, the list descends from what it was. -/
theorem descends_on (alive : SinkRef → Bool) (s : Source) (upkeep : Upkeep) :
    s.Descends (upkeep.on alive s) := by
  cases upkeep with
  | attach sink =>
    have hPruned : s.Descends (s.prune alive) := descends_restrict _ s
    simp only [Upkeep.on, attach]
    split
    · exact hPruned
    · rename_i new
      exact hPruned.trans (descends_append sink _ (not_listed_of_not_attached alive new))
  | detach | clear | prune => exact descends_restrict _ s

/-- Whoever is there stays listed, unless detached or cleared. -/
theorem mem_on_iff {alive : SinkRef → Bool} (there : alive a.sink = true) (ha : a ∈ s.attachments)
    (upkeep : Upkeep) :
    a ∈ (upkeep.on alive s).attachments ↔ upkeep ≠ .detach a.sink ∧ upkeep ≠ .clear := by
  cases upkeep with
  | attach sink =>
    have hPruned : a ∈ (s.prune alive).attachments := List.mem_filter.2 ⟨ha, there⟩
    refine iff_of_true ?_ (by simp)
    simp only [Upkeep.on, attach]
    split
    · exact hPruned
    · exact List.mem_append_left _ hPruned
  | detach sink =>
    simp only [Upkeep.on, detach, restrict, List.mem_filter, ha, true_and, there, Bool.and_true,
      Bool.not_eq_true', beq_eq_false_iff_ne, ne_eq, Upkeep.detach.injEq, reduceCtorEq,
      not_false_eq_true, and_true]
    exact not_congr eq_comm
  | clear => exact iff_of_false (by simp [Upkeep.on, clear, restrict]) (by simp)
  | prune => exact iff_of_true (List.mem_filter.2 ⟨ha, there⟩) (by simp)

/-- No two attachments have the same number. -/
theorem nodup_serials (s : Source) : (s.attachments.map (·.serial)).Nodup :=
  List.pairwise_map.2 (s.ordered.imp fun h => Nat.ne_of_lt h.1)

/-- An old attachment counts as listed exactly as long as it is in the list. -/
theorem Descends.holds_iff (h : s.Descends t) (ha : a ∈ s.attachments) :
    t.holds a = true ↔ a ∈ t.attachments := by
  simp only [holds, List.any_eq_true, beq_iff_eq]
  constructor
  · rintro ⟨b, hb, hSerial⟩
    have hOld := h.old b hb (hSerial ▸ s.unused a ha)
    rwa [← List.inj_on_of_nodup_map s.nodup_serials hOld ha hSerial]
  · exact fun hMem => ⟨a, hMem, rfl⟩

end Source

/-- What was done to the list of the origin's sinks, in order, on the way from one system to
another. Every other step leaves the list alone. -/
inductive Tending (look : System κ → κ.Note) (o : Origin) (w : System κ) :
    List Upkeep → System κ → Prop
  | start : Tending look o w [] w
  | beside {done : List Upkeep} {u v : System κ} (before : Tending look o w done u)
      (step : Step look u v) (same : v.source o = u.source o) : Tending look o w done v
  | tend {done : List Upkeep} {u v : System κ} (before : Tending look o w done u)
      (step : Step look u v) (upkeep : Upkeep)
      (tends : v.source o = upkeep.on u.alive (u.source o)) :
      Tending look o w (done ++ [upkeep]) v

namespace System

variable {w v : System κ}

theorem source_updateSource_of_ne {o q : Origin} (h : q ≠ o) (f : Source → Source) :
    (w.updateSource q f).source o = w.source o := by
  cases o with
  | stream r =>
    cases q with
    | stream p =>
      rw [source_updateSource, if_neg fun hr => h (by rw [hr.1])]
    | hub hub => rfl
  | hub hub =>
    cases q with
    | stream p => rfl
    | hub other =>
      have hNumber : other.number ≠ hub.number := fun he =>
        h (by cases hub; cases other; cases he; rfl)
      simp [source, updateSource, hNumber]

/-- The list of sinks is what it was made, unless there is none. -/
theorem source_updateSource_cases (w : System κ) (o : Origin) (f : Source → Source) :
    (w.updateSource o f).source o = f (w.source o) ∨
      (w.updateSource o f).source o = w.source o := by
  cases o with
  | stream r =>
    rw [source_updateSource]
    split
    · exact .inl rfl
    · exact .inr rfl
  | hub hub =>
    simp only [source, updateSource, List.getElem?_modify]
    cases w.hubs[hub.number]? with
    | none => exact .inr rfl
    | some s => exact .inl (by simp)

theorem source_record (w : System κ) (e : Entry κ.Note) (o : Origin) :
    (w.record e).source o = w.source o := by
  cases o <;> rfl

theorem sinks_updateSource (w : System κ) (o : Origin) (f : Source → Source) :
    (w.updateSource o f).sinks = w.sinks := by
  cases o <;> rfl

/-- A list that is empty from the start is what an origin has before it is made. -/
theorem source_makeHub (w : System κ) (o : Origin) :
    ({ w with hubs := w.hubs ++ [Source.empty] } : System κ).source o = w.source o := by
  cases o with
  | stream r => rfl
  | hub hub =>
    simp only [source, List.getElem?_append]
    split
    · rfl
    · rename_i hNew
      rw [List.getElem?_eq_none (Nat.le_of_not_lt hNew)]
      rcases Nat.lt_or_ge (hub.number - w.hubs.length) 1 with hFirst | hLater
      · rw [Nat.lt_one_iff.1 hFirst]
        rfl
      · rw [List.getElem?_eq_none (by simpa using hLater)]

/-- A stream that is made has no sinks, so no list changes. -/
theorem source_makeStream (w : System κ) {made : Stream} (fresh : made.source = .empty)
    (o : Origin) :
    ({ w with streams := w.streams ++ [made] } : System κ).source o = w.source o := by
  cases o with
  | stream r =>
    rw [source, stream_append]
    split
    · rename_i hNew
      rw [fresh, source, stream_of_not_has (fun h => Nat.ne_of_lt h hNew)]
      rfl
    · rfl
  | hub hub => rfl

end System

/-- The list of the origin's sinks is left alone, or something is done to it. -/
def System.Tends (u v : System κ) (o : Origin) : Prop :=
  v.source o = u.source o ∨ ∃ upkeep : Upkeep, v.source o = upkeep.on u.alive (u.source o)

/-- Whatever is done to the list of one origin is not done to another one's. -/
theorem System.Tends.of_updateSource {u : System κ} {q : Origin} {f : Source → Source}
    (upkeep : Upkeep) (tends : f (u.source q) = upkeep.on u.alive (u.source q)) (o : Origin) :
    u.Tends (u.updateSource q f) o := by
  by_cases h : q = o
  · subst h
    rcases u.source_updateSource_cases q f with hDone | hSame
    · exact .inr ⟨upkeep, hDone.trans tends⟩
    · exact .inl hSame
  · exact .inl (source_updateSource_of_ne h f)

/-- A step outside passes does at most one thing to a list. -/
theorem Quiet.tends {look : System κ → κ.Note} {u v : System κ} (h : Quiet look u v) (o : Origin) :
    u.Tends v o := by
  cases h with
  | hub hub f upkeep tends => exact .of_updateSource upkeep tends o
  | attach r sink live => exact .of_updateSource (.attach sink) rfl o
  | detach r sink => exact .of_updateSource (.detach sink) rfl o
  | makeHub => exact .inl (u.source_makeHub o)
  | makeStream id config binding own => exact .inl (u.source_makeStream rfl o)
  | handles r f =>
    refine .inl ?_
    cases o with
    | stream q =>
      rw [System.source_updateStream]
      split <;> rfl
    | hub hub => rfl
  | closing r => exact .inl (System.source_updateStatus u r o _)
  | start r | cancel r | uncancelled r | read r | unread r =>
    exact .inl ((System.source_record _ _ o).trans (System.source_updateStatus u r o _))
  | _ => exact .inl (by cases o <;> rfl)

/-- So does each thing that a pass does. -/
theorem Firing.tends {q : Origin} {u v : System κ} (h : Firing q u v) (o : Origin) :
    u.Tends v o := by
  cases h with
  | take r | tearDown r =>
    exact .inl ((System.source_record _ _ o).trans (System.source_updateStatus u r o _))
  | start hub event => exact .inl (by cases o <;> rfl)
  | hand q event a alive attached kept =>
    subst kept
    exact .inl (by cases o <;> rfl)
  | prune q => exact .of_updateSource .prune rfl o
  | clear r => exact .of_updateSource .clear rfl o

/-- So does every step. -/
theorem Step.tends {look : System κ → κ.Note} {u v : System κ} (h : Step look u v) (o : Origin) :
    u.Tends v o := by
  cases h with
  | quiet h => exact h.tends o
  | firing h => exact h.tends o
  | enlist id config => exact .inl (u.source_makeStream rfl o)
  | dispatcher | dispatching => exact .inl (by cases o <;> rfl)

theorem System.alive_updateSink_of_ne {u : System κ} {sink q : SinkRef} (h : q ≠ sink)
    (f : SinkLife → SinkLife) : (u.updateSink sink f).alive q = u.alive q := by
  have hNumber : sink.number ≠ q.number := fun he => h (by cases sink; cases q; cases he; rfl)
  simp [alive, updateSink, hNumber]

/-- Only who was made can be there. -/
theorem System.lt_of_alive {u : System κ} {sink : SinkRef} (h : u.alive sink = true) :
    sink.number < u.sinks.length := by
  refine Nat.lt_of_not_le fun hNew => ?_
  simp [alive, List.getElem?_eq_none hNew] at h

/-- No sink is unmade, and none that is gone comes back. -/
structure System.Outlasts (u v : System κ) : Prop where
  grows : u.sinks.length ≤ v.sinks.length
  alive : ∀ sink : SinkRef, sink.number < u.sinks.length → v.alive sink = true →
    u.alive sink = true

namespace System.Outlasts

variable {u v w : System κ}

/-- Where no sink is touched none comes back. -/
theorem of_sinks (h : v.sinks = u.sinks) : u.Outlasts v where
  grows := Nat.le_of_eq (by rw [h])
  alive sink _ there := by rwa [System.alive, h] at there

theorem trans (first : u.Outlasts v) (second : v.Outlasts w) : u.Outlasts w where
  grows := Nat.le_trans first.grows second.grows
  alive sink known there :=
    first.alive sink known (second.alive sink (Nat.lt_of_lt_of_le known first.grows) there)

/-- A sink that is gone stays so, if the change of the one it is about brings nobody back. -/
theorem updateSink {sink : SinkRef} {f : SinkLife → SinkLife}
    (h : ∀ life, u.sinks[sink.number]? = some life →
      ((f life).owned || (f life).busy != 0) = true → u.alive sink = true) :
    u.Outlasts (u.updateSink sink f) where
  grows := by simp [System.updateSink]
  alive q _ there := by
    by_cases hq : q = sink
    · subst hq
      simp only [System.alive, System.updateSink, List.getElem?_modify] at there
      cases hLife : u.sinks[q.number]? with
      | none => simp [hLife] at there
      | some life => exact h life hLife (by simpa [hLife] using there)
    · rwa [← System.alive_updateSink_of_ne hq]

/-- To give a sink up unmakes none and brings none back. -/
theorem abandonSink (u : System κ) (sink : SinkRef) :
    u.Outlasts (u.updateSink sink fun life => { life with owned := false }) := by
  refine .updateSink fun life hLife there => ?_
  simp only [System.alive, hLife]
  simp_all

theorem makeSink (u : System κ) : u.Outlasts { u with sinks := u.sinks ++ [({} : SinkLife)] } where
  grows := by simp
  alive sink known there := by
    rwa [System.alive, List.getElem?_append_left known] at there

end System.Outlasts

/-- No step outside passes brings a sink back. -/
theorem Quiet.outlasts {look : System κ → κ.Note} {u v : System κ} (h : Quiet look u v) :
    u.Outlasts v := by
  cases h with
  | makeSink => exact .makeSink u
  | abandonSink sink => exact .abandonSink u sink
  | doneWith sink =>
    refine .updateSink fun life hLife there => ?_
    simp only [System.alive, hLife]
    simp only [Bool.or_eq_true, bne_iff_ne, ne_eq] at there ⊢
    exact there.imp_right fun some_ none_ => some_ (by rw [none_])
  | hub | attach | detach => exact .of_sinks (System.sinks_updateSource u _ _)
  | _ => exact .of_sinks rfl

/-- Nothing that a pass does brings a sink back. -/
theorem Firing.outlasts {o : Origin} {u v : System κ} (h : Firing o u v) : u.Outlasts v := by
  cases h with
  | hand o event a alive attached kept =>
    subst kept
    have hHand : u.Outlasts (u.updateSink a.sink fun life => { life with busy := life.busy + 1 }) :=
      .updateSink fun _ _ _ => alive
    exact hHand.trans (.of_sinks rfl)
  | prune o => exact .of_sinks (System.sinks_updateSource u _ _)
  | _ => exact .of_sinks rfl

theorem Step.outlasts {look : System κ → κ.Note} {u v : System κ} (h : Step look u v) :
    u.Outlasts v := by
  cases h with
  | quiet h => exact h.outlasts
  | firing h => exact h.outlasts
  | _ => exact .of_sinks rfl

namespace Tending

variable {look : System κ → κ.Note} {o : Origin} {done : List Upkeep} {w v : System κ}
  {a : Attachment}

/-- What was done to a list on the way can be listed. -/
theorem of_steps (h : Steps look w v) (o : Origin) : ∃ done, Tending look o w done v := by
  induction h with
  | refl => exact ⟨[], .start⟩
  | tail _ step ih =>
    obtain ⟨done, hDone⟩ := ih
    rcases step.tends o with hSame | ⟨upkeep, hTends⟩
    · exact ⟨done, hDone.beside step hSame⟩
    · exact ⟨done ++ [upkeep], hDone.tend step upkeep hTends⟩

/-- The list at the end descends from the list at the start. -/
theorem descends (h : Tending look o w done v) : (w.source o).Descends (v.source o) := by
  induction h with
  | start => exact .refl _
  | beside _ _ same ih => rwa [same]
  | tend _ _ upkeep tends ih =>
    rw [tends]
    exact ih.trans (Source.descends_on _ _ upkeep)

/-- No sink comes back on the way. -/
theorem outlasts (h : Tending look o w done v) : w.Outlasts v := by
  induction h with
  | start => exact .of_sinks rfl
  | beside _ step _ ih | tend _ step _ _ ih => exact ih.trans step.outlasts

/-- Whoever was listed at first and is there at last is still listed, unless somebody was told
to detach that sink, or to clear the list. -/
theorem mem_iff (h : Tending look o w done v) (ha : a ∈ (w.source o).attachments)
    (known : a.sink.number < w.sinks.length) (there : v.alive a.sink = true) :
    a ∈ (v.source o).attachments ↔ .detach a.sink ∉ done ∧ .clear ∉ done := by
  induction h with
  | start => simp [ha]
  | beside before step same ih =>
    rw [same]
    exact ih (step.outlasts.alive _ (Nat.lt_of_lt_of_le known before.outlasts.grows) there)
  | @tend done u v before step upkeep tends ih =>
    have hThere : u.alive a.sink = true :=
      step.outlasts.alive _ (Nat.lt_of_lt_of_le known before.outlasts.grows) there
    have ih := ih hThere
    rw [tends]
    simp only [List.mem_append, List.mem_singleton, not_or]
    by_cases hListed : a ∈ (u.source o).attachments
    · rw [Source.mem_on_iff hThere hListed]
      obtain ⟨hKept, hUncleared⟩ := ih.1 hListed
      simp only [hKept, hUncleared, not_false_eq_true, true_and, ne_eq, eq_comm]
    · -- Who is off the list does not get back on it under the old number.
      have hOff : a ∉ (upkeep.on u.alive (u.source o)).attachments := fun hOn => by
        have hOld := Nat.lt_of_lt_of_le ((w.source o).unused a ha) before.descends.serial
        exact hListed ((Source.descends_on u.alive _ upkeep).old a hOn hOld)
      exact iff_of_false hOff fun hNone => hListed (ih.2 ⟨hNone.1.1, hNone.2.1⟩)

/-- It is the turn of whoever is there and was neither detached nor cleared away. -/
theorem turn_iff (h : Tending look o w done v) (ha : a ∈ (w.source o).attachments)
    (known : a.sink.number < w.sinks.length) :
    v.turn o a = true ↔ v.alive a.sink = true ∧ .detach a.sink ∉ done ∧ .clear ∉ done := by
  rw [System.turn, Bool.and_eq_true]
  refine and_congr_right fun there => ?_
  rw [h.descends.holds_iff ha, h.mem_iff ha known there]

end Tending

section

variable {env : Surroundings κ} {o : Origin} {event : Event}

/-- Whoever is handed the event in the rest of a pass returns. -/
def Surroundings.Answers (env : Surroundings κ) (o : Origin) (event : Event)
    (l : List Attachment) (w : System κ) : Prop :=
  ∀ before a after, l = before ++ a :: after →
    ((visit env o event before).left w).turn o a = true →
      (env.deliver a.sink o event).Returns
        (((visit env o event before).left w).engaged o event a.sink)

/-- What happens at the turn of one of the sinks, between two systems: it is handed the event, and
what it answers is kept, or nothing happens. -/
structure Turned (env : Surroundings κ) (o : Origin) (event : Event)
    (heard : List (Attachment × Bool)) (a : Attachment) (u v : System κ) : Prop where
  heard_iff : a ∈ heard.map (·.1) ↔ u.turn o a = true
  answer : ∀ x, (a, x) ∈ heard → ((deliverTo env o event a.sink).on u).1 = .ok x
  left : v = if a ∈ heard.map (·.1) then (deliverTo env o event a.sink).left u else u

/-- What the rest of a pass does: it comes to all the sinks, whatever each one answers, hands the
event to those whose turn it then is, and tells whether one of them handled it. -/
structure Visited (env : Surroundings κ) (o : Origin) (event : Event) (l : List Attachment)
    (w : System κ) (heard : List (Attachment × Bool)) : Prop where
  ends : ∃ stale, ((visit env o event l).on w).1 = .ok (heard.any (·.2), stale)
  order : (heard.map (·.1)).Sublist l
  turned : ∀ before a after, l = before ++ a :: after →
    Turned env o event heard a ((visit env o event before).left w)
      ((visit env o event (before ++ [a])).left w)

/-- A sink without a turn makes no difference to what a pass answers, but may be found gone. -/
theorem on_visit_skip {a : Attachment} {rest : List Attachment} {w : System κ}
    (h : w.turn o a = false) {x stale : Bool}
    (hRest : ((visit env o event rest).on w).1 = .ok (x, stale)) :
    ∃ stale, ((visit env o event (a :: rest)).on w).1 = .ok (x, stale) := by
  simp only [visit, Act.on_get_bind]
  split
  · exact ⟨true, by rw [Act.on_bind, hRest]; rfl⟩
  · split
    · exact ⟨stale, hRest⟩
    · simp_all [System.turn]

/-- A pass tells that the event was handled if this sink tells so or a later one does. -/
theorem on_visit_turn {a : Attachment} {rest : List Attachment} {w : System κ}
    (h : w.turn o a = true) {here x stale : Bool}
    (hHere : ((deliverTo env o event a.sink).on w).1 = .ok here)
    (hRest : ((visit env o event rest).on ((deliverTo env o event a.sink).left w)).1 =
      .ok (x, stale)) :
    ((visit env o event (a :: rest)).on w).1 = .ok (here || x, stale) := by
  simp only [System.turn, Bool.and_eq_true] at h
  simp only [visit, Act.on_get_bind, h.1, h.2, Bool.not_true, Bool.false_eq_true, if_false]
  rw [Act.on_bind, hHere]
  simp only
  rw [Act.on_bind, hRest]
  rfl

variable {heard : List (Attachment × Bool)} {a b : Attachment} {rest : List Attachment}
  {u v w : System κ}

theorem Turned.cons (h : Turned env o event heard b u v) (hOther : b ≠ a) (x : Bool) :
    Turned env o event ((a, x) :: heard) b u v where
  heard_iff := by simpa [hOther] using h.heard_iff
  answer y hy := h.answer y ((List.mem_cons.1 hy).resolve_left fun he => hOther (Prod.mk.inj he).1)
  left := by simpa [hOther] using h.left

namespace Visited

/-- A pass that skips a sink has visited it without a word. -/
theorem skip (h : w.turn o a = false) (first : a ∉ rest)
    (hRest : Visited env o event rest w heard) : Visited env o event (a :: rest) w heard where
  ends := by
    obtain ⟨stale, hEnd⟩ := hRest.ends
    exact on_visit_skip h hEnd
  order := hRest.order.cons a
  turned before b after hPlace := by
    rcases List.cons_eq_append_iff.1 hPlace with ⟨rfl, hHead⟩ | ⟨front, rfl, hTail⟩
    · obtain rfl := (List.cons.inj hHead).1
      have hNot : b ∉ heard.map (·.1) := fun hMem => first (hRest.order.subset hMem)
      refine ⟨iff_of_false hNot (by simpa [visit] using h), fun x hx => ?_, ?_⟩
      · exact absurd (List.mem_map_of_mem hx) hNot
      · rw [if_neg hNot]
        exact visit_skip h
    · rw [List.cons_append, visit_skip h, visit_skip h]
      exact hRest.turned front b after hTail

/-- A pass that hands the event to a sink has visited it with its answer. -/
theorem hand (h : w.turn o a = true) (first : a ∉ rest) {x : Bool}
    (hHere : ((deliverTo env o event a.sink).on w).1 = .ok x)
    (hRest : Visited env o event rest ((deliverTo env o event a.sink).left w) heard) :
    Visited env o event (a :: rest) w ((a, x) :: heard) where
  ends := by
    obtain ⟨stale, hEnd⟩ := hRest.ends
    exact ⟨stale, on_visit_turn h hHere hEnd⟩
  order := hRest.order.cons_cons a
  turned before b after hPlace := by
    have hNot : a ∉ heard.map (·.1) := fun hMem => first (hRest.order.subset hMem)
    rcases List.cons_eq_append_iff.1 hPlace with ⟨rfl, hHead⟩ | ⟨front, rfl, hTail⟩
    · obtain rfl := (List.cons.inj hHead).1
      refine ⟨iff_of_true (by simp) h, fun y hy => ?_, ?_⟩
      · rcases List.mem_cons.1 hy with he | hOld
        · rwa [(Prod.mk.inj he).2]
        · exact absurd (List.mem_map_of_mem hOld) hNot
      · rw [if_pos (by simp)]
        exact visit_turn h ⟨x, hHere⟩
    · have hOther : b ≠ a := fun he => first (he ▸ hTail ▸ by simp)
      rw [List.cons_append, visit_turn h ⟨x, hHere⟩, visit_turn h ⟨x, hHere⟩]
      exact (hRest.turned front b after hTail).cons hOther x

end Visited

/-- A pass whose sinks answer visits them all. -/
theorem visited (l : List Attachment) (distinct : l.Nodup) (w : System κ)
    (answers : env.Answers o event l w) : ∃ heard, Visited env o event l w heard := by
  induction l generalizing w with
  | nil => exact ⟨[], ⟨false, rfl⟩, .refl _, by simp⟩
  | cons a rest ih =>
    obtain ⟨hFirst, hDistinct⟩ := List.nodup_cons.1 distinct
    cases hTurn : w.turn o a with
    | false =>
      obtain ⟨heard, hRest⟩ := ih hDistinct w fun before b after hPlace hb => by
        have hAnswers := answers (a :: before) b after (congrArg (a :: ·) hPlace)
        rw [visit_skip hTurn] at hAnswers
        exact hAnswers hb
      exact ⟨heard, hRest.skip hTurn hFirst⟩
    | true =>
      obtain ⟨x, hHere⟩ : (deliverTo env o event a.sink).Returns w :=
        (answers [] a rest rfl hTurn).after ⟨(), rfl⟩
      obtain ⟨heard, hRest⟩ := ih hDistinct _ fun before b after hPlace hb => by
        have hAnswers := answers (a :: before) b after (congrArg (a :: ·) hPlace)
        rw [visit_turn hTurn ⟨x, hHere⟩] at hAnswers
        exact hAnswers hb
      exact ⟨(a, x) :: heard, hRest.hand hTurn hFirst hHere⟩

/-- A pass whose sinks return ends by itself. -/
theorem on_fire (w : System κ)
    (answers : env.Answers o event (w.source o).attachments
      (w.record (.pass o event (w.standing o)))) :
    ∃ heard, Visited env o event (w.source o).attachments
        (w.record (.pass o event (w.standing o))) heard ∧
      ((fire env o event).on w).1 = .ok (heard.any (·.2)) := by
  have hDistinct : (w.source o).attachments.Nodup :=
    (w.source o).nodup_serials.of_map _
  obtain ⟨heard, hVisited⟩ := visited _ hDistinct _ answers
  refine ⟨heard, hVisited, ?_⟩
  obtain ⟨stale, hEnd⟩ := hVisited.ends
  simp only [fire, Act.on_get_bind, Act.on_modify_bind]
  rw [Act.on_bind, hEnd]
  cases stale <;> rfl

/-- A teardown whose sinks return from the end comes to all of them and ends by itself. -/
theorem StreamRef.visited_of_destroy {r : StreamRef} (live : (w.status r).state ≠ .destroyed)
    (answers : env.Answers (.stream r) .destroyed (w.attachments r) (w.tearing r)) :
    (r.destroy env).Returns w ∧
      ∃ heard, Visited env (.stream r) .destroyed (w.attachments r) (w.tearing r) heard := by
  have hSource : ((w.updateStatus r Status.tornDown).source (.stream r)).attachments =
      w.attachments r := by
    rw [System.source_updateStatus]
  have hBegun : (w.updateStatus r Status.tornDown).record (.pass (.stream r) .destroyed
      ((w.updateStatus r Status.tornDown).standing (.stream r))) = w.tearing r := by
    rw [System.standing_updateStatus (System.has_of_state_ne live)]
    rfl
  rw [← hSource, ← hBegun] at answers
  obtain ⟨heard, hVisited, hEnd⟩ := on_fire _ answers
  rw [hSource, hBegun] at hVisited
  refine ⟨⟨(), ?_⟩, heard, hVisited⟩
  rw [System.on_destroy_of_live live, Act.on_bind, hEnd]
  rfl

/-- Sinks that return answer. -/
theorem Surroundings.answers_of_returns (h : ∀ sink v, (env.deliver sink o event).Returns v)
    (l : List Attachment) (w : System κ) : env.Answers o event l w :=
  fun _ _ _ _ _ => h _ _

end

/-- The system in which a pass comes to the sink behind the ones before it. -/
def System.comingTo (w : System κ) (env : Surroundings κ) (o : Origin) (event : Event)
    (before : List Attachment) : System κ :=
  (visit env o event before).left (w.record (.pass o event (w.standing o)))

/-- What is promised of a pass: to whom it hands the event, and what it answers. -/
structure Multicast (look : System κ → κ.Note) (env : Surroundings κ) (o : Origin) (event : Event)
    (w : System κ) (heard : List (Attachment × Bool)) : Prop where
  /-- It tells whether one of those that it handed the event to handled it. -/
  answer : ((fire env o event).on w).1 = .ok (heard.any (·.2))
  /-- They were attached when it began, and come in the order of attachment. -/
  order : (heard.map (·.1)).Sublist (w.source o).attachments
  /-- None of them comes twice. -/
  once : (heard.map (·.1.sink)).Nodup
  /-- They are those who, when the pass comes to them, are there and were neither detached nor
  cleared away since it began, whatever else was done to the list meanwhile. -/
  exact_ : ∀ before a after, (w.source o).attachments = before ++ a :: after →
    (∃ done, Tending look o (w.comingTo env o event []) done (w.comingTo env o event before)) ∧
      ∀ done, Tending look o (w.comingTo env o event []) done (w.comingTo env o event before) →
        (a ∈ heard.map (·.1) ↔ (w.comingTo env o event before).alive a.sink = true ∧
          .detach a.sink ∉ done ∧ .clear ∉ done)
  /-- Each is handed the event when the pass comes to it, and between one and the next nothing
  is done. -/
  turned : ∀ before a after, (w.source o).attachments = before ++ a :: after →
    Turned env o event heard a (w.comingTo env o event before)
      (w.comingTo env o event (before ++ [a]))
  /-- At the end the sinks that are gone are forgotten, if the pass came upon one. -/
  left : (fire env o event).left w = w.comingTo env o event (w.source o).attachments ∨
    (fire env o event).left w = (w.comingTo env o event (w.source o).attachments).updateSource o
      (·.prune (w.comingTo env o event (w.source o).attachments).alive)

/-- A pass hands its event, once and in order, to those who were attached when it began and are
still there and attached when it comes to them, whatever its sinks do meanwhile, passes of the
same origin included. All that is asked of the sinks is that they return; and
those that are attached were made. It is so for every pass, at any depth. -/
theorem pass_multicasts {look : System κ → κ.Note} {manners : Surroundings κ → Prop}
    {env : Surroundings κ} (serves : env.Serves look manners) (o : Origin) (event : Event)
    (w : System κ) (made : ∀ a ∈ (w.source o).attachments, a.sink.number < w.sinks.length)
    (answers : env.Answers o event (w.source o).attachments
      (w.record (.pass o event (w.standing o)))) :
    ∃ heard, Multicast look env o event w heard := by
  obtain ⟨heard, hVisited, hEnd⟩ := on_fire w answers
  have hWithin : env.Within (Steps look) :=
    ((Steps.unconcerned look manners).sustained.serves serves).2
  have hSource : (w.comingTo env o event []).source o = w.source o := System.source_record ..
  refine ⟨heard, hEnd, hVisited.order, ?_, fun before a after hPlace => ?_,
    fun before a after hPlace => hVisited.turned before a after hPlace, left_fire env o event w rfl⟩
  · have hSinks : ((w.source o).attachments.map (·.sink)).Nodup :=
      List.pairwise_map.2 ((w.source o).ordered.imp And.right)
    have hSublist := hVisited.order.map (·.sink)
    rw [List.map_map] at hSublist
    exact hSinks.sublist hSublist
  · have hSteps : Steps look (w.comingTo env o event []) (w.comingTo env o event before) :=
      (Steps.steady look).smooth.within_visit hWithin.deliver
        (fun a alive attached kept => .single (.firing (.hand o event a alive attached kept)))
        before _
    refine ⟨Tending.of_steps hSteps o, fun done tending => ?_⟩
    have hMem : a ∈ (w.source o).attachments := by simp [hPlace]
    rw [(hVisited.turned before a after hPlace).heard_iff]
    exact tending.turn_iff (hSource ▸ hMem) (made a hMem)

/-- Surroundings in which the first sink of a source, when it hears of a creation, has the second
one detached and attached again, attaches a fourth one and fires too. The third one handles what
it hears. -/
def Surroundings.shuffling : Surroundings Client.plain :=
  { obliging with
    deliver := fun sink o event =>
      match sink.number, o, event with
      | 0, .hub hub, .created => do
        let _ ← (Origin.hub hub).detach ⟨1⟩
        let _ ← (Origin.hub hub).attach ⟨1⟩
        let _ ← (Origin.hub hub).attach ⟨3⟩
        let _ ← fire obliging (.hub hub) .destroyed
        return false
      | number, _, _ => return number == 2 }

/-- They make calls in obliging surroundings only. -/
theorem Surroundings.serves_shuffling :
    shuffling.Serves (fun _ => ()) Surroundings.any := by
  refine .intro (· = obliging) (fun _ h => h ▸ serves_obliging trivial)
    ⟨fun sink o event => ?_, fun _ _ => .pure _, fun _ _ _ => .pure _, fun _ _ => .pure _,
      fun _ => .pure _, .pure _, fun _ => .pure _, fun _ => .pure _⟩ trivial
  have hCall {α : Type} (c : Call Client.plain α) :
      Conduct (fun _ => ()) (· = obliging) (c.run obliging) := .call (by rfl) c
  simp only [shuffling]
  split
  · rename_i hub _
    exact .bind (hCall (.detachHub hub ⟨1⟩)) fun _ => .bind (hCall (.attachHub hub ⟨1⟩)) fun _ =>
      .bind (hCall (.attachHub hub ⟨3⟩)) fun _ => .bind (hCall (.fireHub hub .destroyed)) fun _ =>
        .pure false
  · exact .pure _

/-- None of them panics. -/
theorem Surroundings.returns_shuffling (sink : SinkRef) (o : Origin) (event : Event)
    (w : System Client.plain) : (shuffling.deliver sink o event).Returns w := by
  have hFire (hub : HubRef) (v : System Client.plain) :
      (fire obliging (.hub hub) .destroyed).Returns v := by
    obtain ⟨heard, -, hEnd⟩ := on_fire v (obliging.answers_of_returns (fun _ _ => ⟨true, rfl⟩) _ _)
    exact ⟨_, hEnd⟩
  simp only [shuffling]
  split
  · exact .bind ⟨_, rfl⟩ fun _ => .bind ⟨_, rfl⟩ fun _ => .bind ⟨_, rfl⟩ fun _ =>
      (hFire _ _).bind fun _ => ⟨_, rfl⟩
  · exact ⟨_, rfl⟩

/-- Four sinks and a source with three of them. -/
def threeAttached : List ((α : Type) × Call Client.plain α) :=
  [⟨_, .makeSink⟩, ⟨_, .makeSink⟩, ⟨_, .makeSink⟩, ⟨_, .makeSink⟩, ⟨_, .makeHub⟩,
    ⟨_, .attachHub ⟨0⟩ ⟨0⟩⟩, ⟨_, .attachHub ⟨0⟩ ⟨1⟩⟩, ⟨_, .attachHub ⟨0⟩ ⟨2⟩⟩]

/-- The pass of the creation passes over the second sink and the fourth, and the one that is fired
meanwhile comes to all four. -/
theorem pass_multicasts_shuffling :
    (((fire Surroundings.shuffling (.hub ⟨0⟩) .created).left
      (Surroundings.obliging.played threeAttached)).journal.filterMap fun
        | .delivery sink _ event _ _ => some (sink.number, event)
        | _ => none) =
      [(0, .created), (0, .destroyed), (2, .destroyed), (1, .destroyed), (3, .destroyed),
        (2, .created)] ∧
    ∃ heard, Multicast (fun _ => ()) Surroundings.shuffling (.hub ⟨0⟩) .created
      (Surroundings.obliging.played threeAttached) heard :=
  ⟨by decide +kernel, pass_multicasts Surroundings.serves_shuffling _ _ _ (by decide +kernel)
    (Surroundings.shuffling.answers_of_returns
      (fun _ _ => Surroundings.returns_shuffling _ _ _ _) _ _)⟩

end HostedStreams
