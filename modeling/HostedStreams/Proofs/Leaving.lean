import HostedStreams.Proofs.Books
import HostedStreams.Proofs.Chores
import HostedStreams.Proofs.Endurance

/-! The end of the worker. It gives up its queue, carries out the teardowns that wait and
closes every stream that is left, and none of this stops short, whatever hosts and sinks do
meanwhile. -/
namespace HostedStreams

variable {κ : Client}

namespace Worker

/-- What the worker does in its context ends if it ends there. -/
theorem ends_inContext {α : Type} {act : Act κ α} {w : System κ} {P : α → System κ → Prop}
    {Q : System κ → Prop}
    (h : act.Ends (w.updateDispatcher fun d => { d with inContext := true }) P)
    (hPQ : ∀ x v, P x v →
      Q (v.updateDispatcher fun d => { d with inContext := w.dispatcher.inContext })) :
    (inContext act).Ends w fun _ => Q := by
  refine .on_bind (a := get) rfl (.on_bind (a := modify _) rfl ?_)
  exact .after h fun x v hv => ⟨(), _, rfl, hPQ x v hv⟩

/-- What waited in the queue is given up, command by command. -/
theorem ends_discards (l : List (Command κ.Job)) : ∀ {w : System κ},
    w.Books (l.countP (·.isNotify)) → w.dispatcher.phase = .finishing →
    (l.forM discard).Ends w fun _ v => v.Books 0 ∧ v.dispatcher.phase = .finishing := by
  induction l with
  | nil => exact fun {w} hw leaving => ⟨(), w, rfl, hw, leaving⟩
  | cons command rest ih =>
    intro w hw leaving
    cases command with
    | notify id event =>
      have hw : w.Books (rest.countP (·.isNotify) + 1) := by
        rwa [List.countP_cons_of_pos rfl] at hw
      have hLedger := (hw.ledger.lower.aside ⟨rfl, rfl, rfl, rfl, rfl, rfl, rfl⟩ :
        Dispatcher.Ledger _ { w.dispatcher with
          metrics := w.dispatcher.metrics.lowerDepth.countDropped } ∧ _).1
      refine .on_bind (a := discard (.notify id event)) rfl (ih ?_ leaving)
      exact hw.persists (.of_streams rfl (Nat.le_refl _)) rfl hLedger
    | invoke ticket job =>
      have hw : w.Books (rest.countP (·.isNotify)) := by
        rwa [List.countP_cons_of_neg (by simp [Command.isNotify])] at hw
      refine .on_bind (a := discard (.invoke ticket job)) rfl (ih (hw.aside ?_) leaving)
      exact fun _ => ⟨rfl, rfl, rfl, rfl, rfl, rfl, rfl⟩
    | shutdown => exact .on_bind (a := discard .shutdown) rfl (ih hw leaving)

end Worker

namespace Conserves

/-- What is off the registry of a worker that leaves stays off it. -/
theorem stays_out {u w : System κ} (h : Conserves u w) (hu : u.Books 0)
    (leaving : u.dispatcher.phase = .finishing) {id : StreamId}
    (hOut : ∀ q, (id, q) ∉ u.dispatcher.registry) (q : StreamRef) :
    (id, q) ∉ w.dispatcher.registry :=
  fun hq => hOut q (h.leaving hu leaving hq)

variable (look : System κ → κ.Note) {env : Surroundings κ} (he : env.Within Conserves)
  {u v w : System κ}

include look he

/-- A registered stream is struck off the registry and torn down. Its teardown has begun as
soon as both are off the record. -/
theorem destroy_struck {id : StreamId} {r : StreamRef}
    (known : w.dispatcher.registered? id = some r) :
    ∃ u, Conserves w u ∧ (∀ q, (id, q) ∉ u.dispatcher.registry) ∧
      Conserves u ((r.destroy env).left (w.struck id)) := by
  by_cases live : (w.status r).state = .destroyed
  · refine ⟨w.struck id, (refl w).of_struck fun hw q hq => ?_, w.not_mem_struck id, ?_⟩
    · rw [hw.ledger.eq_of_registered? known hq]
      exact live
    · exact (upheld look Surroundings.any).destroy trivial he r _
  · have hTearing := of_firing (.tearDown r live)
    refine ⟨(w.tearing r).struck id, hTearing.of_struck fun hw q hq => ?_,
      (w.tearing r).not_mem_struck id, ?_⟩
    · rw [hw.ledger.eq_of_registered? known hq, System.status_record, System.status_updateStatus,
        if_pos ⟨rfl, System.has_of_state_ne live⟩]
      rfl
    · exact (steady look).related_destroy (w := w.struck id) he of_firing live

theorem tearDown (id : StreamId) : (Worker.tearDown env id).Within Conserves := by
  intro w
  rw [Worker.tearDown]
  cases hFound : w.dispatcher.registered? id with
  | none =>
    rw [Act.left, Act.on_bind_ok (System.on_remove_of_none hFound)]
    exact refl w
  | some r =>
    rw [Act.left, Act.on_bind_ok (System.on_remove_of_some hFound)]
    obtain ⟨u, hStruck, -, hDown⟩ := destroy_struck look he hFound
    have hTended := tended look Surroundings.any
    exact hTended.related_bind (hTended.related_contained (hStruck.trans hDown)) fun _ _ =>
      release look he r _

variable (hEndure : env.Endure)

include hEndure

/-- However the teardown of a registered stream goes, it ends, and a worker that leaves does
not come across the stream again. -/
theorem ends_tearDown (hw : w.Books 0) (id : StreamId) :
    (Worker.tearDown env id).Ends w fun _ v => Conserves w v ∧
      (w.dispatcher.phase = .finishing → ∀ q, (id, q) ∉ v.dispatcher.registry) := by
  rw [Worker.tearDown]
  cases hFound : w.dispatcher.registered? id with
  | none =>
    exact .on_bind (System.on_remove_of_none hFound) ⟨(), w, rfl, refl w, fun _ q =>
      Dispatcher.not_mem_of_registered? hFound⟩
  | some r =>
    apply Act.Ends.on_bind (System.on_remove_of_some hFound)
    obtain ⟨u, hStruck, hOut, hDown⟩ := destroy_struck look he hFound
    have hHas : (w.struck id).Has r :=
      (hw.roster.listed (Dispatcher.mem_of_registered? hFound)).1.1
    have hStill := ((upheld look Surroundings.any).destroy trivial he r _).has hHas
    have hContained : Conserves ((r.destroy env).left (w.struck id))
        ((Worker.contained (r.destroy env)).left (w.struck id)) :=
      (tended look Surroundings.any).related_contained (refl _)
    have hTorn := hContained.torn hStill (torn_of_destroy look he hHas)
    have hDestroyed : (Worker.contained (r.destroy env)).Ends (w.struck id) fun _ v =>
        Conserves u v ∧ (v.status r).state = .destroyed :=
      ((hEndure.destroy r).returns_contained _).ends ⟨hDown.trans hContained, hTorn⟩
    apply Act.Ends.bind hDestroyed
    rintro _ v ⟨hv, hTorn⟩
    have hRest := hv.trans (release look he r v)
    apply (System.returns_release_of_torn hTorn).ends
    refine ⟨hStruck.trans hRest, fun leaving => ?_⟩
    exact hRest.stays_out (hStruck.books hw) ((hStruck.phase hw).trans leaving) hOut

/-- A stream that is left is closed, and however that goes, it is torn down and a worker that
leaves does not come across it again. -/
theorem ends_close (hw : w.Books 0) (leaving : w.dispatcher.phase = .finishing) {id : StreamId}
    {r : StreamRef} (hr : w.Served r) (hId : (w.stream r).id = id) :
    (Worker.close env id r).Ends w fun _ v => Conserves w v ∧
      ∀ q, (id, q) ∉ v.dispatcher.registry := by
  have hUp := upheld look Surroundings.any
  have hHeld : Conserves w (w.updateStream r fun s => { s with handles := s.handles + 1 }) :=
    hUp.quiet (.handles r (· + 1))
  have hClosed := hHeld.trans <|
    (tended look Surroundings.any).related_contained (hUp.close trivial he r _)
  have hDown : Act.Ends (do Worker.contained (r.close env); Worker.tearDown env id)
      (r.acquire.left w) fun _ v => Conserves w v ∧ ∀ q, (id, q) ∉ v.dispatcher.registry := by
    apply Act.Ends.bind (((hEndure.close r).returns_contained _).ends hClosed)
    intro _ v hv
    apply (ends_tearDown look he hEndure (hv.books hw) id).mono
    rintro _ u ⟨hu, hOut⟩
    exact ⟨hv.trans hu, hOut ((hv.phase hw).trans leaving)⟩
  apply Act.Ends.on_bind (a := r.acquire) rfl
  apply hDown.after
  rintro _ v ⟨hv, hOut⟩
  -- Either this teardown or an earlier one has struck the stream off.
  have hTorn : (v.status r).state = .destroyed := by
    apply Decidable.byContradiction
    intro live
    have hMem := (hv.books hw).roster.enrolled (hv.served hr) live
    rw [hv.id hr.1, hId] at hMem
    exact hOut r hMem
  have hRelease := release look he r v
  apply (System.returns_release_of_torn hTorn).ends
  exact ⟨hv.trans hRelease, hRelease.stays_out (hv.books hw) ((hv.phase hw).trans leaving) hOut⟩

/-- The streams of a list are closed one after the other. -/
theorem ends_closeAll (l : List (StreamId × StreamRef)) : ∀ {w : System κ}, w.Books 0 →
    w.dispatcher.phase = .finishing →
    (∀ entry ∈ l, w.Served entry.2 ∧ (w.stream entry.2).id = entry.1) →
    Act.Ends (l.forM fun (id, r) => Worker.close env id r) w fun _ v => Conserves w v ∧
      ∀ id r, (id, r) ∈ l → ∀ q, (id, q) ∉ v.dispatcher.registry := by
  induction l with
  | nil => exact fun {w} _ _ _ => ⟨(), w, rfl, refl w, fun _ _ hMem => absurd hMem List.not_mem_nil⟩
  | cons entry rest ih =>
    intro w hw leaving hl
    obtain ⟨hr, hId⟩ := hl entry List.mem_cons_self
    apply Act.Ends.bind (ends_close look he hEndure hw leaving hr hId)
    rintro _ v ⟨hv, hOut⟩
    have hStill := (hv.phase hw).trans leaving
    have hKnown : ∀ other ∈ rest, v.Served other.2 ∧ (v.stream other.2).id = other.1 := by
      intro other hMem
      obtain ⟨hr, hId⟩ := hl other (List.mem_cons_of_mem _ hMem)
      exact ⟨hv.served hr, (hv.id hr.1).trans hId⟩
    apply (ih (hv.books hw) hStill hKnown).mono
    rintro _ u ⟨hu, hRest⟩
    refine ⟨hv.trans hu, fun id r hMem => ?_⟩
    rcases List.mem_cons.1 hMem with rfl | hMem
    · exact hu.stays_out (hv.books hw) hStill hOut
    · exact hRest id r hMem

/-- All teardowns that wait are carried out, and none stops short. -/
theorem ends_tearDowns (l : List StreamId) : ∀ {w : System κ}, w.Books 0 →
    (l.forM (Worker.tearDown env)).Ends w fun _ v => Conserves w v := by
  induction l with
  | nil => exact fun {w} _ => ⟨(), w, rfl, refl w⟩
  | cons id rest ih =>
    intro w hw
    apply Act.Ends.bind (ends_tearDown look he hEndure hw id)
    rintro _ v ⟨hv, _⟩
    exact (ih (hv.books hw)).mono fun _ u hu => hv.trans hu

/-- The context is cleared without stopping short, and nothing is registered afterwards. -/
theorem ends_clearing (hw : w.Books 0) (leaving : w.dispatcher.phase = .finishing) :
    (Worker.clearing env).Ends w fun _ v =>
      v.Books 0 ∧ v.dispatcher.phase = .finishing ∧ v.dispatcher.registry = [] := by
  have hTaken := hw.aside (f := fun d => { d with teardowns := [] })
    fun _ => ⟨rfl, rfl, rfl, rfl, rfl, rfl, rfl⟩
  refine .on_bind (a := get) rfl (.on_bind (a := modify _) rfl ?_)
  apply Act.Ends.bind (ends_tearDowns look he hEndure _ hTaken)
  intro _ v hv
  have hBooks := hv.books hTaken
  have hStill := (hv.phase hTaken).trans leaving
  apply Act.Ends.on_bind (a := get) rfl
  apply (ends_closeAll look he hEndure _ hBooks hStill fun _ => hBooks.roster.listed).mono
  rintro _ u ⟨hu, hOut⟩
  refine ⟨hu.books hBooks, (hu.phase hBooks).trans hStill, ?_⟩
  -- Whatever is on the registry now was on it before, and that is all closed.
  apply List.eq_nil_iff_forall_not_mem.2
  rintro ⟨id, r⟩ hMem
  exact hOut id r (hu.leaving hBooks hStill hMem) r hMem

omit he hEndure in
/-- Nothing happens when an empty registry is given up. -/
theorem ends_abandon (hw : w.Books 0) (ended : w.dispatcher.phase = .finished) :
    (Registry.abandon env).Ends w fun _ v => v.Books 0 ∧ v.dispatcher.phase = .finished := by
  have hAbandoned : Conserves w (w.updateDispatcher fun d => { d with registry := [] }) :=
    (steady look).quiet (.serve _ (.abandon (by rw [ended]; rfl)))
  refine .on_bind (a := get) rfl (.on_bind (a := modify _) rfl ?_)
  rw [hw.ledger.empty (.inr ended)]
  exact ⟨(), _, rfl, hAbandoned.books hw, ended⟩

/-- The worker leaves. Whatever hosts and sinks do meanwhile, it gets to its end, and then
no stream is left. -/
theorem ends_finish (hw : w.Books 0)
    (hEnd : w.dispatcher.stopped = true ∨ w.dispatcher.held = false) :
    (Worker.finish env).Ends w fun _ v => v.Books 0 ∧ v.dispatcher.phase = .finished := by
  have hLeft : (w.updateDispatcher fun d =>
      { d with phase := .finishing, mailbox := d.mailbox.close }).Books
      w.dispatcher.mailbox.notifications :=
    hw.updateDispatcher rfl (hw.ledger.leave hEnd)
  refine .on_bind (a := get) rfl (.on_bind (a := modify _) rfl ?_)
  apply Act.Ends.bind (Worker.ends_discards _ hLeft rfl)
  rintro _ v ⟨hv, leaving⟩
  have hEntered := hv.aside (f := fun d => { d with inContext := true })
    fun _ => ⟨rfl, rfl, rfl, rfl, rfl, rfl, rfl⟩
  have hCleared := Worker.ends_inContext (ends_clearing look he hEndure hEntered leaving)
    (Q := fun u => u.Books 0 ∧ u.dispatcher.phase = .finishing ∧ u.dispatcher.registry = [])
    fun _ u ⟨hu, leaving, hEmpty⟩ =>
      ⟨hu.aside fun _ => ⟨rfl, rfl, rfl, rfl, rfl, rfl, rfl⟩, leaving, hEmpty⟩
  apply Act.Ends.bind hCleared
  rintro _ u ⟨hu, leaving, hEmpty⟩
  have hFinished : (u.updateDispatcher fun d => { d with phase := .finished }).Books 0 :=
    hu.updateDispatcher rfl (hu.ledger.finish leaving hEmpty)
  refine .on_bind (a := modify _) rfl (.on_bind (a := get) rfl ?_)
  split
  · exact ends_abandon look hFinished rfl
  · exact ⟨(), _, rfl, hFinished, rfl⟩

end Conserves

end HostedStreams
