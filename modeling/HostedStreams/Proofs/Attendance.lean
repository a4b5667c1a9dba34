import HostedStreams.Proofs.Multicast

/-! The sinks that are attached and there. A source also lists sinks that are gone, until somebody
notices, and it is seen to in the middle of passes. None of that shows: those that are there are a
list without duplicates, which a sink enters at the end and leaves alone, with all others, or by
going. -/
namespace HostedStreams

variable {κ : Client}

namespace Source

variable {alive : SinkRef → Bool} {s : Source} {sink : SinkRef}

theorem mem_toList : sink ∈ s.toList alive ↔ ∃ a ∈ s.attachments, a.sink = sink ∧ alive sink := by
  simp only [toList, List.mem_map, List.mem_filter]
  constructor
  · rintro ⟨a, ⟨ha, hAlive⟩, rfl⟩
    exact ⟨a, ha, rfl, hAlive⟩
  · rintro ⟨a, ha, rfl, hAlive⟩
    exact ⟨a, ⟨ha, hAlive⟩, rfl⟩

/-- Nobody is listed twice. -/
theorem nodup_toList (alive : SinkRef → Bool) (s : Source) : (s.toList alive).Nodup :=
  List.pairwise_map.2 ((s.ordered.imp And.right).filter _)

/-- The sinks that a source tells to be attached are those in the list. -/
theorem isAttached_eq : s.isAttached alive sink = decide (sink ∈ s.toList alive) := by
  rw [Bool.eq_iff_iff, decide_eq_true_eq, mem_toList]
  simp only [isAttached, List.any_eq_true, Bool.and_eq_true, beq_iff_eq]
  refine exists_congr fun a => and_congr_right fun _ => and_congr_right fun h => by rw [h]

/-- A source tells how many are in the list. -/
theorem size_eq : s.size alive = (s.toList alive).length :=
  (List.length_map _).symm

/-- What matters of what is kept is which sinks that are there it keeps. -/
theorem toList_restrict {keep : Attachment → Bool} {p : SinkRef → Bool}
    (h : ∀ a, alive a.sink = true → keep a = p a.sink) :
    (s.restrict keep).toList alive = (s.toList alive).filter p := by
  simp only [toList, restrict, List.filter_map, List.filter_filter]
  refine congrArg _ (List.filter_congr fun a _ => ?_)
  cases hAlive : alive a.sink with
  | false => simp
  | true => simp [h a hAlive]

/-- A sink that is there is listed last. -/
theorem toList_append (new : ∀ a ∈ s.attachments, a.sink ≠ sink) :
    (s.append sink new).toList alive = s.toList alive ++ [sink].filter alive := by
  simp only [toList, append, List.filter_append, List.map_append, List.filter_singleton]
  cases alive sink <;> rfl

/-- Whether a sink is listed does not depend on who is gone. -/
theorem isAttached_prune :
    (s.prune alive).isAttached alive sink = decide (sink ∈ s.toList alive) := by
  rw [isAttached_eq, toList_prune]

/-- A sink is attached if it is not in the list yet. -/
theorem fst_attach : (s.attach alive sink).1 = decide (sink ∉ s.toList alive) := by
  unfold attach
  split <;> rename_i h <;> rw [isAttached_prune, decide_eq_true_eq] at h <;> simp [h]

/-- Nobody is moved, whether the sink was attached or not. -/
theorem toList_attach : (s.attach alive sink).2.toList alive =
    if sink ∈ s.toList alive then s.toList alive else s.toList alive ++ [sink].filter alive := by
  unfold attach
  split
  · rename_i hListed
    rw [isAttached_prune, decide_eq_true_eq] at hListed
    rw [if_pos hListed, toList_prune]
  · rename_i hAbsent
    rw [isAttached_prune, decide_eq_true_eq] at hAbsent
    rw [if_neg hAbsent, toList_append, toList_prune]

/-- A sink is detached if it is in the list. -/
theorem fst_detach : (s.detach alive sink).1 = decide (sink ∈ s.toList alive) := by
  rw [Bool.eq_iff_iff, decide_eq_true_eq, mem_toList]
  simp only [detach, restrict, bne_iff_ne, ne_eq, List.length_filter_eq_length_iff, not_forall,
    exists_prop, Bool.not_eq_true', Bool.not_eq_false, Bool.and_eq_true, beq_iff_eq]
  refine exists_congr fun a => and_congr_right fun _ => and_congr_right fun h => by rw [h]

/-- A sink that is detached is in the list no more, and the others stay in order. -/
theorem toList_detach : (s.detach alive sink).2.toList alive =
    (s.toList alive).filter (· ≠ sink) :=
  toList_restrict fun a hAlive => by
    simp only [hAlive, Bool.and_true, decide_not, beq_eq_decide]

theorem toList_clear : s.clear.toList alive = [] := by
  simp [clear, restrict, toList]

/-- To look at some sinks only is to take only some for alive. -/
theorem filter_toList (p : SinkRef → Bool) :
    (s.toList alive).filter p = s.toList fun sink => p sink && alive sink := by
  simp [toList, List.filter_map, List.filter_filter, Function.comp_def]

/-- Who goes is missed, and nobody else is. -/
theorem toList_fewer {still : SinkRef → Bool}
    (h : ∀ a ∈ s.attachments, still a.sink = true → alive a.sink = true) :
    s.toList still = (s.toList alive).filter still := by
  simp only [toList, List.filter_map, List.filter_filter]
  refine congrArg _ (List.filter_congr fun a ha => ?_)
  rw [Bool.eq_iff_iff, Bool.and_eq_true]
  exact ⟨fun hStill => ⟨hStill, h a ha hStill⟩, And.left⟩

/-- A sink that is listed after upkeep was listed before, or it is the one that was attached. -/
theorem mem_attachments_on {upkeep : Upkeep} {a : Attachment}
    (h : a ∈ (upkeep.on alive s).attachments) : a ∈ s.attachments ∨ upkeep = .attach a.sink := by
  cases upkeep with
  | attach sink =>
    simp only [Upkeep.on, attach] at h
    split at h
    · exact .inl (List.mem_filter.1 h).1
    · rcases List.mem_append.1 h with h | h
      · exact .inl (List.mem_filter.1 h).1
      · rw [List.mem_singleton.1 h]
        exact .inr rfl
  | detach | clear | prune => exact .inl (List.mem_filter.1 h).1

end Source

/-! What a list of sinks comes to by its history. -/

/-- Something that changes which sinks are attached. -/
inductive Change where
  | joined (sink : SinkRef)
  | left (sink : SinkRef)
  | cleared
  /-- A sink was named that was yet to be made. -/
  | conjured (sink : SinkRef)
  deriving DecidableEq

namespace Change

/-- Who is attached by it. -/
def joiner : Change → List SinkRef
  | .joined sink => [sink]
  | _ => []

/-- Whether it has to do with the sink's attachment. -/
def concerns (sink : SinkRef) : Change → Bool
  | .joined q | .left q => sink = q
  | .cleared => true
  | .conjured _ => false

/-- Those who joined and were not concerned since, in the order in which they joined. -/
def attending : List Change → List SinkRef
  | [] => []
  | c :: later => (c.joiner.filter fun sink => !later.any (concerns sink)) ++ attending later

/-- Those who attend are left over from before, or joined since. -/
theorem attending_append (history later : List Change) : attending (history ++ later) =
    (attending history).filter (fun sink => !later.any (concerns sink)) ++ attending later := by
  induction history with
  | nil => rfl
  | cons c history ih =>
    simp only [List.cons_append, attending, ih, List.any_append, Bool.not_or, List.filter_append,
      List.filter_filter, List.append_assoc, Bool.and_comm]

/-- Who attends has joined. -/
theorem joined_of_mem_attending {history : List Change} {sink : SinkRef}
    (h : sink ∈ attending history) : .joined sink ∈ history := by
  induction history with
  | nil => cases h
  | cons c history ih =>
    rcases List.mem_append.1 h with hHere | hLater
    · have hJoiner := (List.mem_filter.1 hHere).1
      cases c with
      | joined q =>
        rw [List.mem_singleton.1 hJoiner]
        exact List.mem_cons_self
      | _ => cases hJoiner
    · exact List.mem_cons_of_mem _ (ih hLater)

end Change

namespace System

/-- What upkeep of the origin's list changes. Attaching a sink that is attached is no change, nor is
detaching one that is not. -/
def changes (w : System κ) (o : Origin) : Upkeep → List Change
  | .attach sink =>
    if w.sinks.length ≤ sink.number then [.conjured sink]
    else if ((w.source o).attach w.alive sink).1 then [.joined sink] else []
  | .detach sink => if ((w.source o).detach w.alive sink).1 then [.left sink] else []
  | .clear => [.cleared]
  | .prune => []

/-- The sinks of the origin that are attached and there, in order. -/
def gathering (w : System κ) (o : Origin) : List SinkRef :=
  (w.source o).toList w.alive

/-- To attach a sink that is in the list is no change. -/
theorem changes_attach {w : System κ} {o : Origin} {sink : SinkRef}
    (made : sink.number < w.sinks.length) :
    w.changes o (.attach sink) = if sink ∈ w.gathering o then [] else [.joined sink] := by
  rw [changes, if_neg (Nat.not_le.2 made), Source.fst_attach, gathering]
  split <;> simp_all

/-- To detach a sink that is not in the list is no change. -/
theorem changes_detach (w : System κ) (o : Origin) (sink : SinkRef) :
    w.changes o (.detach sink) = if sink ∈ w.gathering o then [.left sink] else [] := by
  rw [changes, Source.fst_detach, gathering]
  split <;> simp_all

/-- Whoever joins was made. -/
theorem lt_of_joined {w : System κ} {o : Origin} {upkeep : Upkeep} {sink : SinkRef}
    (h : .joined sink ∈ w.changes o upkeep) : sink.number < w.sinks.length := by
  cases upkeep with
  | attach q =>
    by_cases hNew : w.sinks.length ≤ q.number
    · simp [changes, hNew] at h
    · have hMade := Nat.not_le.1 hNew
      rw [changes_attach hMade] at h
      split at h
      · cases h
      · cases List.mem_singleton.1 h
        exact hMade
  | detach q =>
    rw [changes_detach] at h
    split at h <;> simp at h
  | clear | prune => simp [changes] at h

end System

/-- What has changed the list of the origin's sinks, in order, on the way from one system to
another. Sinks go unnoticed. -/
inductive Chronicle (o : Origin) (w : System κ) : List Change → System κ → Prop
  | start : Chronicle o w [] w
  | beside {look : System κ → κ.Note} {history : List Change} {u v : System κ}
      (before : Chronicle o w history u) (step : Step look u v)
      (same : v.source o = u.source o) : Chronicle o w history v
  | tend {look : System κ → κ.Note} {history : List Change} {u v : System κ}
      (before : Chronicle o w history u) (step : Step look u v) (upkeep : Upkeep)
      (tends : v.source o = upkeep.on u.alive (u.source o)) :
      Chronicle o w (history ++ u.changes o upkeep) v

namespace Chronicle

variable {o : Origin} {history : List Change} {w u v : System κ}

section

/-! A sink that is named before it is made may be listed when it comes to be there, so it is left
open here which sinks are looked at. -/

variable {p : SinkRef → Bool}

/-- What upkeep does to those who are there, it does to those who attend, whoever is looked at. -/
theorem toList_on
    (h : (u.gathering o).filter p = ((Change.attending history).filter u.alive).filter p)
    (upkeep : Upkeep) :
    ((upkeep.on u.alive (u.source o)).toList u.alive).filter p =
      ((Change.attending (history ++ u.changes o upkeep)).filter u.alive).filter p := by
  have hChange (c : Change) : ((Change.attending (history ++ [c])).filter u.alive).filter p =
      (((u.gathering o).filter fun sink => !c.concerns sink) ++
        c.joiner.filter u.alive).filter p := by
    have hOld : (((Change.attending history).filter fun sink => !c.concerns sink).filter
        u.alive).filter p = ((u.gathering o).filter fun sink => !c.concerns sink).filter p := by
      rw [List.filter_comm u.alive, List.filter_comm p, ← h, List.filter_comm]
    have hNew : Change.attending [c] = c.joiner := by simp [Change.attending]
    rw [Change.attending_append, hNew, List.filter_append, List.filter_append, List.filter_append]
    simpa using hOld
  have hNone : ((Change.attending (history ++ [])).filter u.alive).filter p =
      (u.gathering o).filter p := by
    rw [List.append_nil, h]
  cases upkeep with
  | attach sink =>
    rw [Upkeep.on, Source.toList_attach]
    change (if sink ∈ u.gathering o then u.gathering o else u.gathering o ++ _).filter p = _
    by_cases hMade : sink.number < u.sinks.length
    · rw [System.changes_attach hMade]
      split
      · exact hNone.symm
      · rename_i hAbsent
        have hOthers : ((u.gathering o).filter fun q => !(Change.joined sink).concerns q) =
            u.gathering o := List.filter_eq_self.2 fun q hq => by
          simpa [Change.concerns] using ne_of_mem_of_not_mem hq hAbsent
        rw [hChange, hOthers]
        rfl
    · -- It is listed, but nobody is there yet.
      have hGone : u.alive sink = false :=
        Bool.eq_false_iff.2 fun hThere => hMade (System.lt_of_alive hThere)
      rw [System.changes, if_pos (Nat.le_of_not_lt hMade), hChange]
      simp [hGone, Change.concerns, Change.joiner]
  | detach sink =>
    rw [System.changes_detach, Upkeep.on, Source.toList_detach]
    change ((u.gathering o).filter (· ≠ sink)).filter p = _
    split
    · simp [hChange, Change.concerns, Change.joiner]
    · rename_i hAbsent
      have hOthers : (u.gathering o).filter (· ≠ sink) = u.gathering o :=
        List.filter_eq_self.2 fun q hq => by simpa using ne_of_mem_of_not_mem hq hAbsent
      rw [hNone, hOthers]
  | clear =>
    rw [Upkeep.on, Source.toList_clear, System.changes, hChange]
    simp [Change.concerns, Change.joiner]
  | prune => exact (congrArg _ (Source.toList_prune ..)).trans hNone.symm

/-- Those who attend were made, and so was everybody that is listed, of those who are looked at. -/
structure Reckoned (p : SinkRef → Bool) (o : Origin) (history : List Change) (w : System κ) :
    Prop where
  listed : ∀ a ∈ (w.source o).attachments, p a.sink = true → a.sink.number < w.sinks.length
  attends : ∀ sink ∈ Change.attending history, sink.number < w.sinks.length
  gathered : (w.gathering o).filter p = ((Change.attending history).filter w.alive).filter p

/-- Sinks that go change nothing but that they are not there. -/
theorem Reckoned.outlast (h : u.Outlasts v)
    (listed : ∀ a ∈ (v.source o).attachments, p a.sink = true → a.sink.number < u.sinks.length)
    (attends : ∀ sink ∈ Change.attending history, sink.number < u.sinks.length)
    (gathered : ((v.source o).toList u.alive).filter p =
      ((Change.attending history).filter u.alive).filter p) :
    Reckoned p o history v where
  listed a ha hp := Nat.lt_of_lt_of_le (listed a ha hp) h.grows
  attends sink hs := Nat.lt_of_lt_of_le (attends sink hs) h.grows
  gathered := by
    have hFewer : (v.source o).toList (fun sink => p sink && v.alive sink) =
        ((v.source o).toList u.alive).filter fun sink => p sink && v.alive sink := by
      refine Source.toList_fewer fun a ha hStill => ?_
      obtain ⟨hp, hThere⟩ := Bool.and_eq_true_iff.1 hStill
      exact h.alive a.sink (listed a ha hp) hThere
    calc (v.gathering o).filter p
        = ((v.source o).toList u.alive).filter (fun sink => p sink && v.alive sink) :=
          (Source.filter_toList p).trans hFewer
      _ = (((v.source o).toList u.alive).filter p).filter v.alive := by
          rw [List.filter_filter]
          simp only [Bool.and_comm]
      _ = (((Change.attending history).filter u.alive).filter v.alive).filter p := by
          rw [gathered, List.filter_comm]
      _ = ((Change.attending history).filter v.alive).filter p := by
          refine congrArg (List.filter p) ?_
          rw [List.filter_filter]
          refine List.filter_congr fun sink hs => ?_
          rw [Bool.eq_iff_iff, Bool.and_eq_true]
          exact ⟨And.left, fun hThere => ⟨hThere, h.alive sink (attends sink hs) hThere⟩⟩

/-- Those who attend and those who gather were made, unless they were conjured up. -/
theorem reckoned {client : κ.State} (h : Chronicle o { client } history w)
    (made : ∀ sink, .conjured sink ∈ history → p sink = false) : Reckoned p o history w := by
  -- Any step may also make sinks go. Those were made, so they do not come back.
  induction h with
  | start =>
    have hEmpty : ({ client } : System κ).source o = .empty := by cases o <;> rfl
    refine ⟨?_, ?_, ?_⟩
    · simp [hEmpty, Source.empty]
    · simp [Change.attending]
    · simp [System.gathering, hEmpty, Source.toList, Source.empty, Change.attending]
  | beside before step same ih =>
    have ih := ih made
    refine .outlast step.outlasts ?_ ih.attends ?_ <;> rw [same]
    · exact ih.listed
    · exact ih.gathered
  | @tend _ done u v before step upkeep tends ih =>
    have ih := ih fun sink hs => made sink (List.mem_append_left _ hs)
    refine .outlast step.outlasts ?_ ?_ ?_
    · rw [tends]
      intro a ha hp
      rcases Source.mem_attachments_on ha with hOld | rfl
      · exact ih.listed a hOld hp
      · refine Nat.not_le.1 fun hNew => Bool.false_ne_true ?_
        rw [← made a.sink (List.mem_append_right _ (by simp [System.changes, hNew])), hp]
    · intro sink hs
      rw [Change.attending_append] at hs
      rcases List.mem_append.1 hs with hOld | hNew
      · exact ih.attends sink (List.mem_filter.1 hOld).1
      · exact System.lt_of_joined (Change.joined_of_mem_attending hNew)
    · rw [tends]
      exact toList_on ih.gathered upkeep

end

end Chronicle

/-- Whether the origin was made. -/
def System.HasSource (w : System κ) : Origin → Prop
  | .stream r => w.Has r
  | .hub hub => hub.number < w.hubs.length

/-- What is promised of the sinks of the origin that are attached and there. -/
structure Attendance (w : System κ) (o : Origin) : Prop where
  /-- There is a history of them. -/
  chronicled : ∃ client history, Chronicle o { client } history w
  /-- By any history of them, they are those that are there of the ones who attend, in the order in
  which they were last attached. Only who was given a sink can name it; of one that was named before
  it was made nothing is said. -/
  listed : ∀ {client history}, Chronicle o { client } history w →
    (w.gathering o).filter (.conjured · ∉ history) =
      ((Change.attending history).filter w.alive).filter (.conjured · ∉ history)
  nodup : (w.gathering o).Nodup
  /-- Who is attached comes last, unless attached before, which is what the answer tells. -/
  attach : ∀ sink, ((o.attach sink).on w).1 = .ok (decide (sink ∉ w.gathering o)) ∧
    (w.HasSource o → w.alive sink = true → ((o.attach sink).left w).gathering o =
      if sink ∈ w.gathering o then w.gathering o else w.gathering o ++ [sink])
  /-- Who is detached is taken out, if there was anything to do, which is what the answer tells. -/
  detach : ∀ sink, ((o.detach sink).on w).1 = .ok (decide (sink ∈ w.gathering o)) ∧
    ((o.detach sink).left w).gathering o = (w.gathering o).filter (· ≠ sink)
  clear : (o.clear.left w).gathering o = []
  isAttached : ∀ sink, (o.isAttached sink).on w = (.ok (decide (sink ∈ w.gathering o)), w)
  size : o.size.on w = (.ok (w.gathering o).length, w)
  /-- Nobody else goes than who is given up. -/
  abandon : ∀ sink, ((abandonSink sink).left w).gathering o =
    (w.gathering o).filter fun q => q ≠ sink || ((abandonSink sink).left w).alive q
  /-- When a pass has come past all its sinks, they stay as they are, whether it sees to the list or
  not. -/
  fire : ∀ env event, ((fire env o event).left w).gathering o =
    (w.comingTo env o event (w.source o).attachments).gathering o

namespace System

variable {w : System κ} {o : Origin}

theorem source_updateSource_of_has (made : w.HasSource o) (f : Source → Source) :
    (w.updateSource o f).source o = f (w.source o) := by
  cases o with
  | stream r => rw [source_updateSource, if_pos ⟨rfl, made⟩]
  | hub hub => simp [source, updateSource, List.getElem?_eq_getElem (show hub.number < _ from made)]

/-- An origin that is yet to be made has no sinks. -/
theorem source_of_not_has (h : ¬ w.HasSource o) : w.source o = .empty := by
  cases o with
  | stream r =>
    rw [source, stream_of_not_has h]
    rfl
  | hub hub => simp [source, List.getElem?_eq_none (Nat.not_lt.1 h)]

theorem alive_updateSource (w : System κ) (o : Origin) (f : Source → Source) :
    (w.updateSource o f).alive = w.alive := by
  funext sink
  rw [alive, sinks_updateSource, alive]

/-- Nobody gathers at a source that was never made. -/
theorem gathering_of_not_has (h : ¬ w.HasSource o) : w.gathering o = [] := by
  rw [gathering, source_of_not_has h]
  rfl

/-- Who gathers after an update follows from the source alone. -/
theorem gathering_updateSource_of_has (made : w.HasSource o) (f : Source → Source) :
    (w.updateSource o f).gathering o = (f (w.source o)).toList w.alive := by
  rw [gathering, source_updateSource_of_has made, alive_updateSource]

/-- What only takes sinks away can be said of an origin that is yet to be made too. -/
theorem gathering_updateSource {f : Source → Source} {p : SinkRef → Bool}
    (h : (f (w.source o)).toList w.alive = (w.gathering o).filter p) :
    (w.updateSource o f).gathering o = (w.gathering o).filter p := by
  by_cases made : w.HasSource o
  · rw [gathering_updateSource_of_has made, h]
  · have hMade : ¬ (w.updateSource o f).HasSource o := by
      cases o with
      | stream r => simpa [HasSource] using made
      | hub hub => simpa [HasSource, updateSource] using made
    rw [gathering_of_not_has made, gathering_of_not_has hMade]
    rfl

/-- Nobody comes back by being given up. -/
theorem alive_of_abandoned {sink q : SinkRef}
    (h : ((abandonSink sink).left w).alive q = true) : w.alive q = true := by
  have hMade : q.number < w.sinks.length := by
    simpa [abandonSink, updateSink] using lt_of_alive h
  exact (Outlasts.abandonSink w sink).alive q hMade h

/-- A sink that is given up gathers no more once it is gone. -/
theorem gathering_abandonSink (w : System κ) (o : Origin) (sink : SinkRef) :
    ((abandonSink sink).left w).gathering o =
      (w.gathering o).filter fun q => q ≠ sink || ((abandonSink sink).left w).alive q := by
  have hSource : ((abandonSink sink).left w).source o = w.source o := by cases o <;> rfl
  rw [gathering, hSource, Source.toList_fewer fun a _ => alive_of_abandoned]
  refine List.filter_congr fun q hq => ?_
  obtain ⟨_, _, _, hThere⟩ := Source.mem_toList.1 hq
  by_cases hSink : q = sink
  · simp [hSink]
  · have hSame : ((abandonSink sink).left w).alive q = w.alive q := alive_updateSink_of_ne hSink _
    simp [hSink, hSame, hThere]

/-- After a pass those gather who did when it came to its end. -/
theorem gathering_fire (w : System κ) (o : Origin) (env : Surroundings κ) (event : Event) :
    ((fire env o event).left w).gathering o =
      (w.comingTo env o event (w.source o).attachments).gathering o := by
  have hPrune (v : System κ) : (v.updateSource o (·.prune v.alive)).gathering o =
      v.gathering o := by
    rcases v.source_updateSource_cases o (·.prune v.alive) with h | h <;>
      rw [gathering, h, alive_updateSource]
    · exact Source.toList_prune ..
    · rfl
  rcases left_fire env o event w rfl with hLeft | hLeft <;> rw [hLeft]
  · rfl
  · exact hPrune _

end System

/-- A step goes down in the chronicle. -/
theorem Chronicle.of_step {look : System κ → κ.Note} {o : Origin} {history : List Change}
    {w u v : System κ} (before : Chronicle o w history u) (step : Step look u v) :
    ∃ history, Chronicle o w history v := by
  rcases step.tends o with hSame | ⟨upkeep, hTends⟩
  · exact ⟨history, before.beside step hSame⟩
  · exact ⟨_, before.tend step upkeep hTends⟩

/-- What is promised of attendance follows from the chronicle. -/
theorem attendance {o : Origin} {w : System κ}
    (chronicled : ∃ client history, Chronicle o { client } history w) : Attendance w o where
  chronicled := chronicled
  listed h := (h.reckoned fun _ hs => by simpa using hs).gathered
  nodup := Source.nodup_toList _ _
  attach sink := by
    refine ⟨congrArg Except.ok Source.fst_attach, fun made there => ?_⟩
    change (w.updateSource o fun _ => ((w.source o).attach w.alive sink).2).gathering o = _
    rw [System.gathering_updateSource_of_has made, Source.toList_attach,
      List.filter_eq_self.2 (by simpa using there)]
    rfl
  detach sink := by
    refine ⟨congrArg Except.ok Source.fst_detach, ?_⟩
    change (w.updateSource o fun _ => ((w.source o).detach w.alive sink).2).gathering o = _
    exact System.gathering_updateSource Source.toList_detach
  clear := by
    change (w.updateSource o Source.clear).gathering o = []
    have hNone : (w.gathering o).filter (fun _ => false) = [] := by simp
    rw [System.gathering_updateSource (Source.toList_clear.trans hNone.symm), hNone]
  isAttached sink := congrArg (fun x => (Except.ok x, w)) Source.isAttached_eq
  size := congrArg (fun n => (Except.ok n, w)) Source.size_eq
  abandon := w.gathering_abandonSink o
  fire := w.gathering_fire o

/-- Where nobody names a sink that is yet to be made, nobody is left out. -/
theorem Attendance.gathering_eq {o : Origin} {history : List Change} {w : System κ}
    {client : κ.State} (h : Attendance w o) (chronicle : Chronicle o { client } history w)
    (made : ∀ sink, .conjured sink ∉ history) :
    w.gathering o = (Change.attending history).filter w.alive := by
  have hAll (l : List SinkRef) : l.filter (.conjured · ∉ history) = l :=
    List.filter_eq_self.2 fun sink _ => by simpa using made sink
  simpa only [hAll] using h.listed chronicle

/-- The sinks of every origin that are attached and there are a list without duplicates, in the
order in which they were last attached, and whatever is done to them is done to that list. -/
theorem attendance_kept : Always (κ := κ) Surroundings.any fun w => ∀ o, Attendance w o := by
  refine (Always.of_step (P := fun w => ∀ o, ∃ client history, Chronicle o { client } history w)
    (fun client o => ⟨client, [], .start⟩) fun step h o => ?_).mono fun w h o => attendance (h o)
  obtain ⟨client, _, before⟩ := h o
  exact ⟨client, before.of_step step⟩

/-- What is done to the list of a client's own source adds to its history what it changes. -/
theorem Chronicle.hub {hub : HubRef} {history : List Change} {w u : System Client.plain}
    (before : Chronicle (.hub hub) w history u) (made : u.HasSource (.hub hub)) (upkeep : Upkeep) :
    Chronicle (.hub hub) w (history ++ u.changes (.hub hub) upkeep)
      (u.updateSource (.hub hub) fun _ => upkeep.on u.alive (u.source (.hub hub))) := by
  have hStep : Quiet (fun _ => ()) u
      (u.updateSource (.hub hub) fun _ => upkeep.on u.alive (u.source (.hub hub))) :=
    .hub hub _ upkeep rfl
  exact before.tend (.quiet hStep) upkeep (System.source_updateSource_of_has made _)

/-- Three sinks are attached, the first one is detached and attached again, and the second one is
given up. It is still listed. -/
theorem attendance_kept_rejoined : ∃ w : System Client.plain,
    Chronicle (.hub ⟨0⟩) { client := () }
      [.joined ⟨0⟩, .joined ⟨1⟩, .joined ⟨2⟩, .left ⟨0⟩, .joined ⟨0⟩] w ∧
    (w.source (.hub ⟨0⟩)).attachments.map (·.sink) = [⟨1⟩, ⟨2⟩, ⟨0⟩] ∧
    w.gathering (.hub ⟨0⟩) = [⟨2⟩, ⟨0⟩] := by
  have hCall {u : System Client.plain} (h : Reached (fun _ => ()) Surroundings.any u) {α : Type}
      (c : Call Client.plain α) :
      Reached (fun _ => ()) Surroundings.any ((c.run Surroundings.obliging).left u) :=
    h.act (.call (Surroundings.serves_obliging trivial) c)
  have hOutset : Reached (fun _ => ()) Surroundings.any ({ client := () } : System Client.plain) :=
    ⟨(), .refl⟩
  have hMade := hCall (hCall (hCall (hCall hOutset .makeSink) .makeSink) .makeSink) .makeHub
  have hJoined := hCall (hCall (hCall hMade (.attachHub ⟨0⟩ ⟨0⟩)) (.attachHub ⟨0⟩ ⟨1⟩))
    (.attachHub ⟨0⟩ ⟨2⟩)
  have hReached := hCall (hCall (hCall hJoined (.detachHub ⟨0⟩ ⟨0⟩)) (.attachHub ⟨0⟩ ⟨0⟩))
    (.abandonSink ⟨1⟩)
  -- The same once more, with what it adds to the history.
  have hBeside {history : List Change} {u v : System Client.plain}
      (before : Chronicle (.hub ⟨0⟩) { client := () } history u) (h : Quiet (fun _ => ()) u v)
      (same : v.source (.hub ⟨0⟩) = u.source (.hub ⟨0⟩)) :
      Chronicle (.hub ⟨0⟩) { client := () } history v := before.beside (.quiet h) same
  have hMade := hBeside (hBeside (hBeside (hBeside .start .makeSink rfl) .makeSink rfl)
    .makeSink rfl) .makeHub rfl
  have hJoined := ((hMade.hub Nat.zero_lt_one (.attach ⟨0⟩)).hub Nat.zero_lt_one
    (.attach ⟨1⟩)).hub Nat.zero_lt_one (.attach ⟨2⟩)
  have hAgain := (hJoined.hub Nat.zero_lt_one (.detach ⟨0⟩)).hub Nat.zero_lt_one (.attach ⟨0⟩)
  have hChronicle := hBeside hAgain (.abandonSink ⟨1⟩) rfl
  have hGathering := ((attendance_kept _ _ hReached).1 (.hub ⟨0⟩)).gathering_eq
    (show Chronicle _ _ [.joined ⟨0⟩, .joined ⟨1⟩, .joined ⟨2⟩, .left ⟨0⟩, .joined ⟨0⟩] _ from
      hChronicle) (by simp)
  exact ⟨_, hChronicle, by decide +kernel, hGathering.trans (by decide +kernel)⟩

end HostedStreams
