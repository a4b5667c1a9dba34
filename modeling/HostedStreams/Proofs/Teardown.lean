import HostedStreams.Proofs.Calm

/-! The end of a stream, as its sinks see it. A teardown begins once, and nothing is
handed to any sink of the stream before its pass is over but the end itself: the passes
around it wait until then, and find no sink attached any more. -/
namespace HostedStreams

variable {κ : Client}

/-- Those to whom the pass of a teardown hands the end: they are there and attached when
their turn comes. -/
def takers (env : Surroundings κ) (r : StreamRef) : List Attachment → System κ → List Attachment
  | [], _ => []
  | a :: rest, w =>
    if w.turn (.stream r) a then
      a :: takers env r rest ((deliverTo env (.stream r) .destroyed a.sink).left w)
    else takers env r rest w

/-- What the pass of a teardown has handed to its takers, the latest first. -/
def ends (l : List Attachment) : List (SinkRef × Event) :=
  (l.map fun a => (a.sink, .destroyed)).reverse

/-- Nobody takes the end but those who are attached, in order. -/
theorem takers_sublist (env : Surroundings κ) (r : StreamRef) (l : List Attachment)
    (w : System κ) : (takers env r l w).Sublist l := by
  induction l generalizing w with
  | nil => exact List.Sublist.refl _
  | cons a rest ih =>
    rw [takers]
    split
    · exact (ih _).cons_cons a
    · exact (ih _).cons a

section

variable {look : System κ → κ.Note} {r : StreamRef} {w : System κ} {env : Surroundings κ}

/-- Who takes the end later on depends on what the turns before have done. -/
theorem takers_append (hm : env.Calm r) (before after : List Attachment) (w : System κ) :
    takers env r (before ++ after) w = takers env r before w ++
      takers env r after ((visit env (.stream r) .destroyed before).left w) := by
  induction before generalizing w with
  | nil => rfl
  | cons a rest ih =>
    rw [List.cons_append, takers, takers]
    cases hTurn : w.turn (.stream r) a with
    | false =>
      rw [visit_skip hTurn]
      exact ih w
    | true =>
      rw [visit_turn hTurn (returns_deliverTo hm _ a.sink w)]
      exact congrArg (a :: ·) (ih _)

variable (he : env.Within (Keeps look r))

include he

/-- One sink is handed the end, and nothing else is handed to anybody until it is done. -/
theorem torn_deliverTo (hTorn : w.Torn r) (sink : SinkRef) {v : System κ}
    (hv : v = (deliverTo env (.stream r) .destroyed sink).left w) :
    v.Torn r ∧ v.handed r = (sink, .destroyed) :: w.handed r ∧
      (v.attachments r).Sublist (w.attachments r) := by
  have hBegun : (w.engaged (.stream r) .destroyed sink).Torn r := hTorn
  obtain ⟨hEnd, hHanded, hAttached⟩ := (he.deliver sink (.stream r) .destroyed _).torn hBegun
  rw [left_deliverTo] at hv
  subst hv
  exact ⟨hEnd, hHanded.trans (System.handed_engaged ..), hAttached⟩

/-- What clients see at a sink's turn is that nothing has followed the end. -/
theorem seen_deliverTo (hTorn : w.Torn r) {a : Attachment} (hTurn : w.turn (.stream r) a = true)
    (hEnded : Ended ((a.sink, .destroyed) :: w.handed r)) {n : κ.Note}
    (hn : .note n ∈ ((deliverTo env (.stream r) .destroyed a.sink).left w).past) :
    Seen look r w n := by
  have hBegun : (w.engaged (.stream r) .destroyed a.sink).Sound r := by
    refine .inr (.inr ⟨hTorn, ?_⟩)
    rw [System.handed_engaged]
    exact hEnded
  rw [left_deliverTo] at hn
  obtain ⟨hThere, hHolds⟩ := Bool.and_eq_true_iff.1 hTurn
  have hStep : Step look w (w.engaged (.stream r) .destroyed a.sink) :=
    .firing (.hand _ _ a hThere hHolds rfl)
  apply ((he.deliver a.sink (.stream r) .destroyed _).seen hBegun n hn).of_steps (.single hStep)
  intro hOld
  exact .inl ((List.mem_cons.1 hOld).resolve_left (by simp))

/-- The pass of a teardown hands the end to its takers, and nothing else is handed to
anybody meanwhile. -/
theorem torn_visit (hm : env.Calm r) (l : List Attachment) (hTorn : w.Torn r) {v : System κ}
    (hv : v = (visit env (.stream r) .destroyed l).left w) :
    v.Torn r ∧ v.handed r = ends (takers env r l w) ++ w.handed r ∧
      (v.attachments r).Sublist (w.attachments r) := by
  induction l generalizing w with
  | nil =>
    subst hv
    exact ⟨hTorn, rfl, List.Sublist.refl _⟩
  | cons a rest ih =>
    rw [takers]
    cases hTurn : w.turn (.stream r) a with
    | false =>
      rw [visit_skip hTurn] at hv
      exact ih hTorn hv
    | true =>
      rw [visit_turn hTurn (returns_deliverTo hm _ a.sink w)] at hv
      obtain ⟨hTorn', hHanded, hAttached⟩ := torn_deliverTo he hTorn a.sink rfl
      obtain ⟨hEnd, hHanded', hAttached'⟩ := ih hTorn' hv
      refine ⟨hEnd, ?_, hAttached'.trans hAttached⟩
      rw [hHanded', hHanded]
      simp [ends]

/-- All that clients see during the pass of a teardown is sound, since the pass comes to
each sink but once. -/
theorem seen_visit (hm : env.Calm r) (l : List Attachment) (hTorn : w.Torn r)
    (hEnded : Ended (w.handed r)) (hDistinct : l.Pairwise fun a b => a.sink ≠ b.sink)
    (hNew : ∀ a ∈ l, ∀ x ∈ w.handed r, x.2 = .destroyed → a.sink ≠ x.1) {v : System κ}
    (hv : v = (visit env (.stream r) .destroyed l).left w) :
    Ended (v.handed r) ∧ ∀ n, .note n ∈ v.past → Seen look r w n := by
  induction l generalizing w with
  | nil =>
    subst hv
    exact ⟨hEnded, fun _ => .inl⟩
  | cons a rest ih =>
    obtain ⟨hFirst, hDistinct⟩ := List.pairwise_cons.1 hDistinct
    cases hTurn : w.turn (.stream r) a with
    | false =>
      rw [visit_skip hTurn] at hv
      exact ih hTorn hEnded hDistinct (fun b hb => hNew b (List.mem_cons_of_mem _ hb)) hv
    | true =>
      rw [visit_turn hTurn (returns_deliverTo hm _ a.sink w)] at hv
      obtain ⟨hTorn', hHanded, -⟩ := torn_deliverTo he hTorn a.sink rfl
      have hEnded' : Ended ((a.sink, .destroyed) :: w.handed r) :=
        List.pairwise_cons.2 ⟨fun x hx => hNew a List.mem_cons_self x hx, hEnded⟩
      have hNew' : ∀ b ∈ rest,
          ∀ x ∈ ((deliverTo env (.stream r) .destroyed a.sink).left w).handed r,
          x.2 = .destroyed → b.sink ≠ x.1 := by
        intro b hb x hx hEnd
        rw [hHanded] at hx
        rcases List.mem_cons.1 hx with rfl | hOld
        · exact Ne.symm (hFirst b hb)
        · exact hNew b (List.mem_cons_of_mem _ hb) x hOld hEnd
      obtain ⟨hLast, hSeen⟩ := ih hTorn' (hHanded ▸ hEnded') hDistinct hNew' hv
      refine ⟨hLast, ?_⟩
      intro n hn
      obtain ⟨hThere, hHolds⟩ := Bool.and_eq_true_iff.1 hTurn
      have hSteps := (Steps.steady look).related_deliverTo (he.mono Keeps.steps)
        fun kept => .single (.firing (.hand _ .destroyed a hThere hHolds kept))
      exact (hSeen n hn).of_steps hSteps (seen_deliverTo he hTorn hTurn hEnded')

omit he in
/-- The list of a stream is cleared. -/
theorem torn_clear {u v : System κ} {handed : List (SinkRef × Event)} (hTorn : u.Torn r)
    (hHanded : u.handed r = handed) (hv : v = (Origin.stream r).clear.left u) :
    v.Torn r ∧ v.attachments r = [] ∧ v.handed r = handed ∧ v.past = u.past := by
  have hClear : v = u.updateSource (.stream r) Source.clear := hv
  subst hClear
  refine ⟨⟨(u.has_updateSource _ r _).2 hTorn.1, ?_⟩, ?_, hHanded, rfl⟩
  · rw [System.status_updateSource]
    exact hTorn.2
  · rw [System.attachments, System.source_updateSource, if_pos ⟨rfl, hTorn.1⟩]
    simp [Source.clear, Source.restrict]

/-- A teardown hands the end to its takers and leaves no sink attached. -/
theorem torn_destroy (hm : env.Calm r) (hState : (w.status r).state ≠ .destroyed) {v : System κ}
    (hv : v = (r.destroy env).left w) :
    v.Torn r ∧ v.attachments r = [] ∧
      v.handed r = ends (takers env r (w.attachments r) (w.tearing r)) ++ w.handed r ∧
      v.past = ((visit env (.stream r) .destroyed (w.attachments r)).left (w.tearing r)).past := by
  have hMade := System.has_of_state_ne hState
  simp only [StreamRef.destroy, Act.left_get_bind, if_pos hState, Act.left_modify_bind] at hv
  rw [(returns_fire hm .destroyed _).left_bind fun _ _ => rfl] at hv
  obtain ⟨hEnd, hHanded, -⟩ := torn_visit he hm (w.attachments r) (System.torn_tearing hState) rfl
  obtain ⟨u, hu⟩ : ∃ u, u = (visit env (.stream r) .destroyed (w.attachments r)).left
    (w.tearing r) := ⟨_, rfl⟩
  rw [← hu] at hEnd hHanded ⊢
  have hFire : (fire env (.stream r) .destroyed).left (w.updateStatus r Status.tornDown) = u ∨
      (fire env (.stream r) .destroyed).left (w.updateStatus r Status.tornDown) =
        u.updateSource (.stream r) (·.prune u.alive) := by
    apply left_fire env (.stream r) .destroyed
    rw [hu, System.source_updateStatus, System.standing_updateStatus hMade]
    rfl
  rcases hFire with hFire | hFire
  · rw [hFire] at hv
    exact torn_clear hEnd hHanded hv
  · rw [hFire] at hv
    have hPruned : (u.updateSource (.stream r) (·.prune u.alive)).Torn r := by
      refine ⟨(u.has_updateSource _ r _).2 hEnd.1, ?_⟩
      rw [System.status_updateSource]
      exact hEnd.2
    exact torn_clear (u := u.updateSource (.stream r) (·.prune u.alive)) hPruned hHanded hv

/-- A whole teardown. -/
theorem Keeps.of_destroy (hm : env.Calm r) (w : System κ) :
    Keeps look r w ((r.destroy env).left w) := by
  have hSteps := (Steps.steady look).within_destroy (he.mono Keeps.steps)
    (fun h => .single (.firing h)) (r := r) w
  by_cases hState : (w.status r).state = .destroyed
  · rw [System.left_destroy_of_torn hState]
    exact Keeps.refl w
  · apply Keeps.of_state hState hSteps
    intro hAlive
    obtain ⟨hTorn, hAttached, hHanded, hPast⟩ := torn_destroy he hm hState rfl
    have hBegun := System.torn_tearing hState
    have hDistinct : (w.attachments r).Pairwise fun a b => a.sink ≠ b.sink :=
      (w.source (.stream r)).ordered.imp And.right
    obtain ⟨hEnded, hSeen⟩ := seen_visit he hm (w.attachments r) hBegun (.of_none hAlive.2)
      hDistinct (fun a _ x hx hEnd => absurd hEnd (hAlive.2 x hx)) rfl
    rw [(torn_visit he hm (w.attachments r) hBegun rfl).2.1] at hEnded
    refine ⟨.inr ⟨hTorn, hAttached, hHanded ▸ hEnded⟩, ?_⟩
    intro n hn
    rw [hPast] at hn
    apply (hSeen n hn).of_steps (.single (.firing (.tearDown r hState)))
    intro hOld
    exact .inl ((List.mem_cons.1 hOld).resolve_left (by simp))

/-- A pass that does not end the stream, from the moment at which it is written down. -/
theorem Keeps.of_fire (hm : env.Calm r) {event : Event} (hEvent : event ≠ .destroyed)
    (hAlive : w.Alive r) :
    Keeps look r (w.record (.pass (.stream r) event (w.standing (.stream r))))
      ((fire env (.stream r) event).left w) := by
  have hVisit := Keeps.of_visit he hm hEvent (w.attachments r)
    (w := w.record (.pass (.stream r) event (w.standing (.stream r)))) (.inl hAlive)
  rcases left_fire env (.stream r) event w rfl with hFire | hFire
  · rw [hFire]
    exact hVisit
  · rw [hFire]
    refine hVisit.trans (.of_spares (.firing (.prune _)) (.updateSource _ fun _ _ _ => ?_))
    exact Source.sublist_restrict _ _

/-- The stream takes an event. -/
theorem Keeps.of_apply (hm : env.Calm r) (event : Event) (w : System κ) :
    Keeps look r w ((r.apply env event).left w) := by
  have hSteps := (Steps.steady look).within_apply (he.mono Keeps.steps)
    (fun h => .single (.firing h)) (r := r) event w
  rcases hReact : (w.status r).react event with ⟨t, reaction⟩
  simp only [StreamRef.apply, Act.left_get_bind, Act.left_modify_bind, hReact] at hSteps ⊢
  cases reaction with
  | fire fired =>
    obtain ⟨hTakes, hFree⟩ := Status.takes_of_react_fire hReact
    have hMade := System.has_of_state_ne hTakes.state_ne
    apply Keeps.of_state hTakes.state_ne hSteps
    intro hAlive
    have hTaken : (w.updateStatus r fun _ => t).Alive r := by
      refine ⟨?_, hAlive.2⟩
      rw [System.status_updateStatus, if_pos ⟨rfl, hMade⟩]
      exact hTakes.state_ne'
    have hFire := Keeps.of_fire he hm hTakes.event_ne hTaken
    refine ⟨hFire.alive hTaken, ?_⟩
    intro n hn
    have hBegun : Step look w _ := .firing (.take r hTakes hFree)
    rw [← System.standing_updateStatus hMade fun _ => t] at hBegun
    apply (hFire.seen (.inr (.inl hTaken)) n hn).of_steps (.single hBegun)
    intro hOld
    exact .inl ((List.mem_cons.1 hOld).resolve_left (by simp))
  | destroy =>
    rw [(Status.of_react_destroy hReact).1, System.updateStatus_self, Act.left_bind_pure]
    exact Keeps.of_destroy he hm w
  | ignore =>
    rw [Status.of_react_ignore hReact, System.updateStatus_self]
    exact Keeps.refl w

end

/-- Everything that clients do, and all that the dispatcher does, keeps to this. -/
theorem Keeps.unconcerned (look : System κ → κ.Note) (r : StreamRef) :
    Unconcerned look (Surroundings.Calm r) (Keeps look r) where
  toSteady := steady look r
  fireHub _ he hub event :=
    (steady look r).within_fireHub he (fun h => .of_spares (.firing h) (h.spares (by simp))) event
  apply hm he q event := by
    by_cases hq : q = r
    · subst hq
      exact of_apply he hm event
    · exact (steady look r).within_apply he
        (fun h => .of_spares (.firing h) (h.spares (by simpa using hq))) event
  destroy hm he q := by
    by_cases hq : q = r
    · subst hq
      exact of_destroy he hm
    · exact (steady look r).within_destroy he
        fun h => .of_spares (.firing h) (h.spares (by simpa using hq))
  dispatcher w f := .of_spares (.dispatcher f) (.of_streams rfl rfl)
  dispatching w e h := .of_spares (.dispatching e h) (.record (e.handed?_of_dispatching h r))
  enlist w id config := .of_bears (.enlist id config) ⟨_, rfl, rfl⟩

/-- At every moment of every run, nothing was handed to a sink of the stream after its end. -/
theorem Always.sound (r : StreamRef) :
    Always (κ := κ) (Surroundings.Calm r) fun w => w.Sound r ∧ w.AllLived := by
  rintro look w ⟨client, hRun⟩
  have hKeeps := (Keeps.unconcerned look r).run hRun
  have hOutset : ({ client } : System κ).Sound r := .inl ⟨Nat.not_lt_zero _, rfl⟩
  have hLived {v : System κ} (hSteps : Steps look { client } v) : v.AllLived :=
    hSteps.preserve System.AllLived.step (.outset client)
  refine ⟨⟨hKeeps.sound hOutset, hLived hKeeps.steps⟩, ?_⟩
  intro n hn
  obtain ⟨u, hSteps, hSound, hLook⟩ := (hKeeps.seen hOutset n hn).resolve_left List.not_mem_nil
  exact ⟨u, ⟨hSound, hLived hSteps⟩, hLook⟩

/-- Once its teardown is over, nothing is attached to a stream any more. -/
theorem Step.emptied {look : System κ → κ.Note} {r : StreamRef} {w v : System κ}
    (h : Step look w v) (hTorn : w.Torn r) (hEmpty : w.attachments r = []) :
    v.Torn r ∧ v.attachments r = [] := by
  have hKept (hKeeps : Keeps look r w v) : v.Torn r ∧ v.attachments r = [] := by
    obtain ⟨hv, -, hAttached⟩ := hKeeps.torn hTorn
    rw [hEmpty] at hAttached
    exact ⟨hv, List.sublist_nil.1 hAttached⟩
  cases h with
  | quiet h => exact hKept ((Keeps.steady look r).quiet h)
  | enlist id config => exact hKept ((Keeps.unconcerned look r).enlist w id config)
  | dispatcher f => exact hKept ((Keeps.unconcerned look r).dispatcher w f)
  | dispatching e h => exact hKept ((Keeps.unconcerned look r).dispatching w e h)
  | @firing _ o h =>
    by_cases ho : o = .stream r
    · subst ho
      cases h with
      | take _ takes => exact absurd hTorn.2 takes.state_ne
      | tearDown _ live => exact absurd hTorn.2 live
      | hand _ event a alive attached kept => simp [Source.holds, hEmpty] at attached
      | prune =>
        refine hKept (.of_spares (.firing (.prune _)) (.updateSource _ fun _ _ _ => ?_))
        exact Source.sublist_restrict _ _
      | clear =>
        refine hKept (.of_spares (.firing (.clear _)) (.updateSource _ fun _ _ _ => ?_))
        exact Source.sublist_restrict _ _
    · exact hKept (.of_spares (.firing h) (h.spares ho))

/-- A stream that is torn down with no sinks attached stays so. -/
theorem Steps.emptied {look : System κ → κ.Note} {r : StreamRef} {w v : System κ}
    (h : Steps look w v) (hTorn : w.Torn r) (hEmpty : w.attachments r = []) :
    v.Torn r ∧ v.attachments r = [] := by
  induction h with
  | refl => exact ⟨hTorn, hEmpty⟩
  | tail _ step ih => exact step.emptied ih.1 ih.2

/-- What is promised of all that a stream hands to its sinks. -/
structure Conclusive (deliveries : List (SinkRef × Event)) : Prop where
  /-- Whoever has received the end receives nothing afterwards. -/
  last : deliveries.Pairwise fun earlier later => earlier.2 = .destroyed → later.1 ≠ earlier.1
  /-- Nobody receives the end twice. -/
  once : ∀ sink, deliveries.count (sink, .destroyed) ≤ 1

/-- Where nothing follows the end, it comes to sinks last. -/
theorem Ended.conclusive {handed : List (SinkRef × Event)} (h : Ended handed) :
    Conclusive handed.reverse where
  last := List.pairwise_reverse.2 h
  once sink := by
    rw [List.count_reverse]
    induction handed with
    | nil => simp
    | cons x rest ih =>
      obtain ⟨hFirst, hRest⟩ := List.pairwise_cons.1 h
      rw [List.count_cons]
      split
      · rename_i hx
        have hx : x = (sink, .destroyed) := eq_of_beq hx
        have hNone : (sink, Event.destroyed) ∉ rest := fun hMem =>
          hFirst _ hMem rfl (by rw [hx])
        rw [List.count_eq_zero.2 hNone]
      · exact ih hRest

/-- What is promised of a teardown that begins in the system. -/
structure TornDown (look : System κ → κ.Note) (env : Surroundings κ) (r : StreamRef)
    (w : System κ) : Prop where
  returns : ((r.destroy env).on w).1 = .ok ()
  /-- The end, and nothing else, is handed once to each sink that was attached at the start
  and is still there and attached when its turn comes. -/
  handed : ∃ new, ((r.destroy env).left w).deliveries r = w.deliveries r ++ new ∧
    (∀ x ∈ new, x.2 = .destroyed) ∧
    ∀ before a after, w.attachments r = before ++ a :: after →
      new.count (a.sink, .destroyed) =
        if ((visit env (.stream r) .destroyed before).left (w.tearing r)).turn (.stream r) a
        then 1 else 0
  /-- Nothing is attached when it returns, and nothing ever after. -/
  empty : ∀ v, Steps look ((r.destroy env).left w) v → (v.source (.stream r)).size v.alive = 0

/-- The end is handed to a sink once if its attachment is among the takers, and else never. -/
theorem count_ends {l all : List Attachment} {a : Attachment} (ha : a ∈ all)
    (hDistinct : all.Pairwise fun a b => a.sink ≠ b.sink) (hSublist : l.Sublist all) :
    (l.map fun b => (b.sink, Event.destroyed)).count (a.sink, .destroyed) =
      if a ∈ l then 1 else 0 := by
  have hNodup : (all.map (·.sink)).Nodup := List.pairwise_map.2 hDistinct
  split
  · rename_i hMem
    refine List.count_eq_one_of_mem ?_ (List.mem_map.2 ⟨a, hMem, rfl⟩)
    exact List.pairwise_map.2 ((hDistinct.sublist hSublist).imp fun hNe he =>
      hNe (Prod.mk.inj he).1)
  · rename_i hNot
    apply List.count_eq_zero.2
    intro hMem
    apply hNot
    obtain ⟨b, hb, he⟩ := List.mem_map.1 hMem
    have hSame := List.inj_on_of_nodup_map hNodup (hSublist.subset hb) ha (Prod.mk.inj he).1
    exact hSame ▸ hb

/-- An attached sink is among the takers if it is there and attached when its turn comes. -/
theorem mem_takers_iff {r : StreamRef} {env : Surroundings κ} (hm : env.Calm r) {w : System κ}
    {before after : List Attachment} {a : Attachment}
    (hDistinct : (before ++ a :: after).Pairwise fun a b => a.sink ≠ b.sink) :
    a ∈ takers env r (before ++ a :: after) w ↔
      ((visit env (.stream r) .destroyed before).left w).turn (.stream r) a = true := by
  obtain ⟨-, hAfter, hBefore⟩ := List.pairwise_append.1 hDistinct
  have hNotBefore : a ∉ takers env r before w := fun hMem =>
    hBefore a ((takers_sublist ..).subset hMem) a List.mem_cons_self rfl
  have hNotAfter (u : System κ) : a ∉ takers env r after u := fun hMem =>
    (List.pairwise_cons.1 hAfter).1 a ((takers_sublist ..).subset hMem) rfl
  rw [takers_append hm, List.mem_append, takers]
  split
  · rename_i hTurn
    simp [hTurn]
  · rename_i hTurn
    simp [hTurn, hNotBefore, hNotAfter]

/-- What is promised of a teardown holds in all systems where the stream is not torn down yet. -/
theorem tornDown_of_serves {look : System κ → κ.Note} {r : StreamRef} {env : Surroundings κ}
    (hServes : env.Serves look (Surroundings.Calm r)) {w : System κ}
    (hState : (w.status r).state ≠ .destroyed) : TornDown look env r w := by
  obtain ⟨hm, he⟩ := (Keeps.unconcerned look r).sustained.serves hServes
  obtain ⟨hTorn, hAttached, hHanded, -⟩ := torn_destroy he hm hState rfl
  constructor
  · obtain ⟨_, hReturns⟩ := returns_destroy hm w
    exact hReturns
  · refine ⟨(takers env r (w.attachments r) (w.tearing r)).map fun a => (a.sink, .destroyed),
      ?_, ?_, ?_⟩
    · rw [System.deliveries_eq, hHanded, System.deliveries_eq, ends]
      simp
    · simp
    · intro before a after hPlace
      have hDistinct : (w.attachments r).Pairwise fun a b => a.sink ≠ b.sink :=
        (w.source (.stream r)).ordered.imp And.right
      rw [count_ends (by rw [hPlace]; simp) hDistinct (takers_sublist ..)]
      rw [hPlace] at hDistinct ⊢
      simp only [mem_takers_iff hm hDistinct]
  · intro v hSteps
    rw [Source.size, show (v.source (.stream r)).attachments = [] from
      (hSteps.emptied hTorn hAttached).2]
    rfl

/-- A stream that has fired its end is torn down. -/
theorem System.AllLived.state_of_passes {w : System κ} (h : w.AllLived) {r : StreamRef}
    (hEnd : .destroyed ∈ (w.passes r).map (·.1.kind)) : (w.status r).state = .destroyed := by
  apply Decidable.byContradiction
  intro hState
  rw [w.passes_eq] at hEnd
  exact ((h r).1 (has_of_state_ne hState)).coursed.course.not_mem_destroyed hState hEnd

/-- Nobody is attached to a stream that is torn down. -/
theorem attach_of_destroyed {w : System κ} {r : StreamRef} (h : (w.status r).state = .destroyed)
    (sink : SinkRef) : (r.attach sink).on w = (.ok false, w) := by
  change Act.on (if (w.status r).state = .destroyed then _ else _) w = _
  rw [if_pos h]
  rfl

/-- If the sinks of a stream return, whatever else they and everybody else do, then nothing
is handed to a sink after the end of the stream, nobody is attached from the start of its
teardown on, and the teardown hands the end to all that are there and leaves none attached. -/
theorem teardown_conclusive (r : StreamRef) :
    Always (κ := κ) (Surroundings.Calm r) (fun w => Conclusive (w.deliveries r) ∧
      (.destroyed ∈ (w.passes r).map (·.1.kind) →
        ∀ sink, (r.attach sink).on w = (.ok false, w))) ∧
    ∀ (look : System κ → κ.Note) env w, env.Serves look (Surroundings.Calm r) →
      (w.status r).state ≠ .destroyed → TornDown look env r w := by
  constructor
  · apply (Always.sound r).mono
    rintro w ⟨hSound, hLived⟩
    constructor
    · rw [System.deliveries_eq]
      exact hSound.ended.conclusive
    · intro hEnd sink
      exact attach_of_destroyed (hLived.state_of_passes hEnd) sink
  · intro look env w hServes hState
    exact tornDown_of_serves hServes hState

/-- Two sinks are attached to a stream, which is about to be opened. -/
def twoSinks : List ((α : Type) × Call Client.plain α) :=
  [⟨_, .makeStream (.drawn 0) { url := "" } false⟩, ⟨_, .makeSink⟩, ⟨_, .makeSink⟩,
    ⟨_, .attach ⟨0⟩ ⟨0⟩⟩, ⟨_, .attach ⟨0⟩ ⟨1⟩⟩, ⟨_, .start ⟨0⟩⟩, ⟨_, .receive ⟨0⟩ .created⟩]

/-- The first sink that is told of the opening tears the stream down, and the second one is
told of the end only. -/
theorem teardown_conclusive_twoSinks :
    (Surroundings.hasty.played (twoSinks ++ [⟨_, .receive ⟨0⟩ (.opened {})⟩])).deliveries ⟨0⟩ =
      [(⟨0⟩, .created), (⟨1⟩, .created), (⟨0⟩, .opened {}), (⟨0⟩, .destroyed), (⟨1⟩, .destroyed)] ∧
    Conclusive ((Surroundings.hasty.played
      (twoSinks ++ [⟨_, .receive ⟨0⟩ (.opened {})⟩])).deliveries ⟨0⟩) ∧
    TornDown (fun _ => ()) Surroundings.hasty ⟨0⟩ (Surroundings.hasty.played twoSinks) := by
  have hObliging : Surroundings.obliging.Calm ⟨0⟩ := fun _ _ _ => ⟨true, rfl⟩
  have hHasty : Surroundings.hasty.Calm ⟨0⟩ := by
    intro sink event w
    cases event with
    | opened _ => exact (returns_destroy hObliging w).bind fun _ => ⟨true, rfl⟩
    | _ => exact ⟨true, rfl⟩
  have serves := Surroundings.serves_hasty hObliging hHasty
  obtain ⟨hAlways, hTornDown⟩ := teardown_conclusive (κ := Client.plain) ⟨0⟩
  refine ⟨by decide +kernel, (hAlways _ _ (Surroundings.reached_played serves _)).1.1, ?_⟩
  exact hTornDown _ _ _ serves (by decide +kernel)

end HostedStreams
