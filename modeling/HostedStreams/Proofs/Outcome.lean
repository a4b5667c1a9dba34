import HostedStreams.Proofs.Steady

/-! Relations that go by how an action ends as well. A call that ends by itself has often done
more than one that a panic cut short, and whoever called it goes on from there only in the
first case. What every call heeds if those who are called heed it is found out here once, for
all such relations. -/
namespace HostedStreams

variable {κ : Client} {α β : Type}

/-- A relation between the systems before and after something was done, which ended by itself
or by a halt. -/
abbrev Outcome (κ : Client) :=
  Option Halt → System κ → System κ → Prop

namespace Act

/-- How the action is cut short, if it is. -/
def halt? (a : Act κ α) (w : System κ) : Option Halt :=
  match (a.on w).1 with
  | .ok _ => none
  | .error h => some h

/-- The relation holds from the first system to where the action leads from the second one. -/
def Leads (R : Outcome κ) (u : System κ) (a : Act κ α) (w : System κ) : Prop :=
  R (a.halt? w) u (a.left w)

/-- Whatever the action does, it heeds the relation. -/
def Heeds (R : Outcome κ) (a : Act κ α) : Prop :=
  ∀ w, a.Leads R w w

variable {R : Outcome κ} {u w : System κ}

/-- An action that ends by itself is not cut short. -/
theorem halt?_of_ok {a : Act κ α} {x : α} (h : (a.on w).1 = .ok x) : a.halt? w = none := by
  rw [halt?, h]

/-- One that ends by a halt is cut short by that halt. -/
theorem halt?_of_error {a : Act κ α} {halt : Halt} (h : (a.on w).1 = .error halt) :
    a.halt? w = some halt := by
  rw [halt?, h]

@[simp] theorem leads_pure (x : α) : (pure x : Act κ α).Leads R u w ↔ R none u w := Iff.rfl

@[simp] theorem leads_modify (g : System κ → System κ) :
    (modify g : Act κ PUnit).Leads R u w ↔ R none u (g w) := Iff.rfl

@[simp] theorem leads_get_bind (f : System κ → Act κ β) :
    (get >>= f).Leads R u w ↔ (f w).Leads R u w := Iff.rfl

@[simp] theorem leads_modify_bind (g : System κ → System κ) (f : PUnit → Act κ β) :
    (modify g >>= f).Leads R u w ↔ (f ()).Leads R u (g w) := Iff.rfl

@[simp] theorem leads_modifyGet_bind (g : System κ → α × System κ) (f : α → Act κ β) :
    (modifyGet g >>= f).Leads R u w ↔ (f (g w).1).Leads R u (g w).2 := Iff.rfl

/-- What comes after an action matters where that ends by itself, and how it is cut short where
it does not. -/
theorem leads_bind_of {a : Act κ α} {f : α → Act κ β}
    (hHalt : ∀ halt, (a.on w).1 = .error halt → R (some halt) u (a.left w))
    (hf : ∀ x, (a.on w).1 = .ok x → (f x).Leads R u (a.left w)) : (a >>= f).Leads R u w := by
  cases hEnd : (a.on w).1 with
  | ok x =>
    rw [Leads, halt?, left, on_bind, hEnd]
    exact hf x hEnd
  | error halt =>
    rw [Leads, halt?, left, on_bind, hEnd]
    exact hHalt halt hEnd

/-- What follows an action is led to only if the action ends by itself. -/
theorem Leads.bind {a : Act κ α} {f : α → Act κ β} (ha : a.Leads R u w)
    (hf : ∀ x, (a.on w).1 = .ok x → R none u (a.left w) → (f x).Leads R u (a.left w)) :
    (a >>= f).Leads R u w := by
  apply leads_bind_of
  · intro halt hEnd
    rwa [Leads, halt?_of_error hEnd] at ha
  · intro x hEnd
    rw [Leads, halt?_of_ok hEnd] at ha
    exact hf x hEnd ha

end Act

/-- Whatever the client does when a call of its own makes the library call it, it heeds the
relation. Only the worker runs jobs. -/
structure Surroundings.Heed (R : Outcome κ) (env : Surroundings κ) : Prop where
  deliver : ∀ sink origin event, (env.deliver sink origin event).Heeds R
  start : ∀ id config, (env.host.start id config).Heeds R
  requestRanges : ∀ id request ranges, (env.host.requestRanges id request ranges).Heeds R
  write : ∀ id data, (env.host.write id data).Heeds R
  cancel : ∀ id, (env.host.cancel id).Heeds R
  isCurrent : env.isCurrent.Heeds R
  scheduleTeardown : ∀ id, (env.scheduleTeardown id).Heeds R

theorem Surroundings.Heed.mono {R S : Outcome κ} {env : Surroundings κ} (h : env.Heed R)
    (hRS : ∀ {end_ w v}, R end_ w v → S end_ w v) : env.Heed S where
  deliver sink origin event w := hRS (h.deliver sink origin event w)
  start id config w := hRS (h.start id config w)
  requestRanges id request ranges w := hRS (h.requestRanges id request ranges w)
  write id data w := hRS (h.write id data w)
  cancel id w := hRS (h.cancel id w)
  isCurrent w := hRS (h.isCurrent w)
  scheduleTeardown id w := hRS (h.scheduleTeardown id w)

/-- Why a notification is refused, and the reason it is counted under. -/
inductive Dispatcher.Refuses (d : Dispatcher κ) (id : StreamId) : DispatchError → String → Prop
  | full (kept : d.notifierHeld = true) :
      Refuses d id (.queueFull id d.mailbox.capacity) "queue_full"
  | stopped (kept : d.notifierHeld = true) : Refuses d id .stopped "stopped"

/-- What changes is only what the dispatcher keeps beside its queue and its counts of
notifications. -/
structure Dispatcher.Beside (d e : Dispatcher κ) : Prop where
  phase : e.phase = d.phase
  mailbox : e.mailbox = d.mailbox
  inContext : e.inContext = d.inContext
  stopped : e.stopped = d.stopped
  held : e.held = d.held
  notifierHeld : e.notifierHeld = d.notifierHeld
  events : e.metrics.events = d.metrics.events
  rejected : e.metrics.rejected = d.metrics.rejected
  dropped : e.metrics.dropped = d.metrics.dropped
  depth : e.metrics.queueDepth = d.metrics.queueDepth

/-- Whether the call reports what became of a transfer. -/
def Call.reports : Call κ α → Bool
  | .receive .. => true
  | _ => false

namespace Outcome

/-- The relation holds across each step outside passes, and what is done after a halt does not
undo what the halt tells. -/
structure Steady (look : System κ → κ.Note) (R : Outcome κ) : Prop where
  refl : ∀ w, R none w w
  trans : ∀ {end_ u v w}, R none u v → R end_ v w → R end_ u w
  panic : ∀ w payload, R (some (.panic payload)) w w
  /-- Something is still done after a halt. -/
  resumed : ∀ {halt end_ u v w}, R (some halt) u v → R end_ v w → R (some halt) u w
  /-- What is done after a halt is cut short itself. -/
  replaced : ∀ {halt other u v w}, R (some halt) u v → R (some other) v w → R (some other) u w
  grows : ∀ {end_ w v}, R end_ w v → w.streams.length ≤ v.streams.length
  quiet : ∀ {w v}, Quiet look w v → v.dispatcher.metrics.rejected = w.dispatcher.metrics.rejected →
    R none w v
  refuse : ∀ {w : System κ} {id event reason label}, w.dispatcher.Refuses id reason label →
    R none w ((w.record (.refused id event reason)).updateMetrics (Metrics.countRejected label))

/-- The relation also holds across each call that fires of itself, if those who are called heed
it. -/
structure Upheld (look : System κ → κ.Note) (manners : Surroundings κ → Prop) (R : Outcome κ) :
    Prop extends Steady look R where
  fireHub : ∀ {env}, manners env → env.Heed R → ∀ hub event, (fire env (.hub hub) event).Heeds R
  destroy : ∀ {env}, manners env → env.Heed R → ∀ r : StreamRef, (r.destroy env).Heeds R

/-- The relation holds across whatever a client does. -/
structure Sustained (look : System κ → κ.Note) (manners : Surroundings κ → Prop) (R : Outcome κ) :
    Prop extends Upheld look manners R where
  apply : ∀ {env}, manners env → env.Heed R → ∀ (r : StreamRef) event, (r.apply env event).Heeds R
  contained : ∀ {payload w v}, R (some (.panic payload)) w v → R none w v
  createStream : ∀ {env}, manners env → env.Heed R → ∀ {w}, w.dispatcher.held = true →
    ∀ config, (Dispatcher.createStream env config).Leads R w w

namespace Steady

variable {look : System κ → κ.Note} {R : Outcome κ} (hR : Steady look R) {u w : System κ}

include hR

/-- An action that heeds the relation carries it on from any earlier system. -/
theorem leads_trans {a : Act κ α} (h : R none u w) (ha : a.Heeds R) : a.Leads R u w :=
  hR.trans h (ha w)

/-- Of two actions in a row, the second one may go by the answer of the first. -/
theorem leads_bind {a : Act κ α} {f : α → Act κ β} (ha : a.Leads R u w)
    (hf : ∀ x, (a.on w).1 = .ok x → (f x).Leads R (a.left w) (a.left w)) :
    (a >>= f).Leads R u w :=
  ha.bind fun x hEnd h => hR.trans h (hf x hEnd)

/-- Actions in a row heed the relation if each of them does. -/
theorem heeds_bind {a : Act κ α} {f : α → Act κ β} (ha : a.Heeds R) (hf : ∀ x, (f x).Heeds R) :
    (a >>= f).Heeds R :=
  fun w => hR.leads_bind (ha w) fun x _ => hf x _

theorem heeds_pure (x : α) : (pure x : Act κ α).Heeds R :=
  fun w => hR.refl w

/-- What is done last is done after a halt as well, and must not undo what the halt tells. -/
theorem leads_after {a : Act κ α} {last : Act κ Unit} (ha : a.Leads R u w) (hl : last.Heeds R) :
    (a.after last).Leads R u w := by
  have hLast := hl (a.left w)
  rw [Act.Leads, Act.left_after, Act.halt?, Act.on_after]
  cases hEnd : (a.on w).1 with
  | ok x =>
    rw [Act.Leads, Act.halt?_of_ok hEnd] at ha
    rw [Act.Leads, Act.halt?] at hLast
    cases hLastEnd : (last.on (a.left w)).1 with
    | ok _ =>
      rw [hLastEnd] at hLast
      exact hR.trans ha hLast
    | error h =>
      rw [hLastEnd] at hLast
      exact hR.trans ha hLast
  | error h =>
    rw [Act.Leads, Act.halt?_of_error hEnd] at ha
    exact hR.resumed ha hLast

/-- An action heeds the relation if what it does and what it does last both do. -/
theorem heeds_after {a : Act κ α} {last : Act κ Unit} (ha : a.Heeds R) (hl : last.Heeds R) :
    (a.after last).Heeds R :=
  fun w => hR.leads_after (ha w) hl

/-- A panic is seen to and goes on. -/
theorem leads_rethrow {a : Act κ α} {last : Act κ Unit} (ha : a.Leads R u w) (hl : last.Heeds R) :
    (tryCatch a fun halt => do last; throw halt).Leads R u w := by
  have hLast := hl (a.left w)
  rw [Act.Leads, Act.left, Act.halt?, Act.on_tryCatch]
  cases hEnd : (a.on w).1 with
  | ok x =>
    rw [Act.Leads, Act.halt?_of_ok hEnd] at ha
    exact ha
  | error h =>
    rw [Act.Leads, Act.halt?_of_error hEnd] at ha
    simp only [Act.on_bind]
    rw [Act.Leads, Act.halt?] at hLast
    cases hLastEnd : (last.on (a.left w)).1 with
    | ok _ =>
      rw [hLastEnd] at hLast
      exact hR.resumed ha hLast
    | error other =>
      rw [hLastEnd] at hLast
      exact hR.replaced ha hLast

omit hR in
/-- A panic that is held back is as good as an end of its own. -/
theorem leads_contain (contained : ∀ {payload w v}, R (some (.panic payload)) w v → R none w v)
    {a : Act κ α} (ha : a.Leads R u w) : a.contain.Leads R u w := by
  rw [Act.Leads, Act.left_contain, Act.halt?, Act.on_contain]
  cases hEnd : (a.on w).1 with
  | ok x =>
    rw [Act.Leads, Act.halt?_of_ok hEnd] at ha
    exact ha
  | error h =>
    rw [Act.Leads, Act.halt?_of_error hEnd] at ha
    cases h with
    | panic payload => exact contained ha
    | exhausted => exact ha

variable {env : Surroundings κ} {o : Origin}

/-- A sink is handed the event, takes it, and is done with it. -/
theorem leads_deliverTo (he : env.Heed R) {event : Event} {sink : SinkRef}
    (handed : ∀ {v}, (v = w.updateSink sink fun life => { life with busy := life.busy + 1 }) →
      R none u (v.record (.delivery sink o event (v.standing o) v.dispatcher.inContext))) :
    (deliverTo env o event sink).Leads R u w := by
  simp only [deliverTo, Act.leads_modify_bind]
  exact hR.leads_after (hR.leads_trans (handed rfl) (he.deliver sink o event))
    fun _ => hR.quiet (.doneWith sink) rfl

section

variable (he : env.Heed R) (hFiring : ∀ {w v}, Firing o w v → R none w v)

include he hFiring

/-- Visiting sinks heeds the relation, if each delivery does. -/
theorem heeds_visit (event : Event) (l : List Attachment) : (visit env o event l).Heeds R := by
  induction l with
  | nil => exact hR.heeds_pure _
  | cons a rest ih =>
    intro w
    simp only [visit, Act.leads_get_bind]
    split
    · exact hR.heeds_bind ih (fun _ => hR.heeds_pure _) w
    · rename_i hAlive
      split
      · exact ih w
      · rename_i hHolds
        apply hR.leads_bind
        · apply hR.leads_deliverTo he
          intro v kept
          exact hFiring (.hand o event a (by simpa using hAlive) (by simpa using hHolds) kept)
        · intro _ _
          exact hR.heeds_bind ih (fun _ => hR.heeds_pure _) _

/-- Once a pass is written down, the rest of it heeds the relation. -/
theorem leads_fire {event : Event}
    (begun : R none u (w.record (.pass o event (w.standing o)))) :
    (fire env o event).Leads R u w := by
  simp only [fire, Act.leads_get_bind, Act.leads_modify_bind]
  apply hR.leads_bind (hR.leads_trans begun (hR.heeds_visit he hFiring event _))
  intro _ _
  split
  · exact hFiring (.prune o)
  · exact hR.refl _

end

/-- A hub can begin a pass at any time. -/
theorem heeds_fireHub {hub : HubRef} (he : env.Heed R)
    (hFiring : ∀ {w v}, Firing (.hub hub) w v → R none w v) (event : Event) :
    (fire env (.hub hub) event).Heeds R :=
  fun _ => hR.leads_fire he hFiring (hFiring (.start hub event))

variable {r : StreamRef} (he : env.Heed R) (hFiring : ∀ {w v}, Firing (.stream r) w v → R none w v)

include he hFiring

/-- A teardown heeds the relation, be it the first one or none. -/
theorem heeds_destroy : (r.destroy env).Heeds R := by
  intro w
  simp only [StreamRef.destroy, Act.leads_get_bind]
  split
  · rename_i live
    simp only [Act.leads_modify_bind]
    apply hR.leads_bind
    · apply hR.leads_fire he hFiring
      rw [System.standing_updateStatus (System.has_of_state_ne live)]
      exact hFiring (.tearDown r live)
    · intro _ _
      exact hFiring (.clear r)
  · exact hR.refl w

/-- An event that is applied is fired, begins a teardown or is ignored. -/
theorem heeds_apply (event : Event) : (r.apply env event).Heeds R := by
  intro w
  rcases hReact : (w.status r).react event with ⟨t, reaction⟩
  simp only [StreamRef.apply, Act.leads_get_bind, Act.leads_modify_bind, hReact]
  cases reaction with
  | fire fired =>
    obtain ⟨hTakes, hFree⟩ := Status.takes_of_react_fire hReact
    have hBegun := hFiring (.take r hTakes hFree)
    rw [← System.standing_updateStatus (System.has_of_state_ne hTakes.state_ne) fun _ => t]
      at hBegun
    exact hR.leads_fire he hFiring hBegun
  | destroy =>
    rw [(Status.of_react_destroy hReact).1, System.updateStatus_self]
    exact hR.heeds_bind (hR.heeds_destroy he hFiring) (fun _ => hR.heeds_pure _) w
  | ignore =>
    rw [Status.of_react_ignore hReact, System.updateStatus_self]
    exact hR.refl w

end Steady

namespace Upheld

variable {look : System κ → κ.Note} {manners : Surroundings κ → Prop} {R : Outcome κ}
  (hR : Upheld look manners R) {u w : System κ}

include hR

variable {env : Surroundings κ} (hm : manners env) (he : env.Heed R)

/-- Asking the host: the request, what the host does, and what is done about its answer. -/
theorem leads_ask {v : System κ} {r : StreamRef} {id : StreamId} {call : HostCall}
    {ask : Host (Act κ) → Act κ (Except HostError α)} {rest : Except HostError α → Act κ β}
    (asked : Quiet look w (v.record (@Entry.hostCall _ id call r)))
    (calm : v.dispatcher = w.dispatcher) (hAsk : (ask env.host).Heeds R) (hMade : v.Has r)
    (hRest : ∀ u answer, u.Has r → (rest answer).Leads R u
      (u.record (@Entry.hostAnswer _ id call answer.isOk r))) :
    (askHost env r id call ask >>= rest).Leads R w v := by
  simp only [askHost, bind_assoc, pure_bind, Act.leads_modify_bind]
  have hAsked := hR.quiet asked (congrArg (·.metrics.rejected) calm)
  apply (hR.leads_trans hAsked hAsk).bind
  intro answer hEnd hAnswered
  have hStill : ((ask env.host).left (v.record (@Entry.hostCall _ id call r))).Has r := by
    have hGrows := hR.grows (hAsk (v.record (@Entry.hostCall _ id call r)))
    exact Nat.lt_of_lt_of_le hMade hGrows
  exact hR.trans hAnswered (hRest _ answer hStill)

theorem attach (r : StreamRef) (sink : SinkRef) : (r.attach sink : Act κ Bool).Heeds R := by
  intro w
  simp only [StreamRef.attach, Act.leads_get_bind]
  split
  · exact hR.refl w
  · rename_i hState
    exact hR.quiet (.attach r sink hState) rfl

theorem detach (r : StreamRef) (sink : SinkRef) : (r.detach sink : Act κ Bool).Heeds R :=
  fun _ => hR.quiet (.detach r sink) rfl

theorem acquire (r : StreamRef) : (r.acquire : Act κ Unit).Heeds R :=
  fun _ => hR.quiet (.handles r (· + 1)) rfl

include hm he

/-- A start asks the host once at most, after the first pass. -/
theorem start (r : StreamRef) : (r.start env).Heeds R := by
  intro w
  simp only [StreamRef.start, Act.leads_get_bind]
  split
  · exact hR.refl w
  · rename_i hNew
    simp only [Bool.or_eq_true, decide_eq_true_eq, not_or, Bool.not_eq_true, ne_eq,
      Decidable.not_not] at hNew
    have hMade : w.Has r := System.has_of_state_ne (by rw [System.status, hNew.2]; simp)
    simp only [Act.leads_modify_bind]
    apply hR.leads_ask (.start r hNew.1 hNew.2) rfl (he.start _ _)
      ((w.has_updateStatus r r _).2 hMade)
    intro u answer hStill
    have hAnswered := hR.quiet (.answer r (w.stream r).id
      (.start { (w.stream r).config with seekable := (w.status r).seekable }) answer.isOk hStill
      (by simp)) rfl
    cases answer with
    | ok _ => exact hAnswered
    | error e =>
      apply hR.leads_bind (hR.leads_trans hAnswered (hR.destroy hm he r))
      intro _ _
      exact hR.refl _

/-- What is done when the last handle goes asks the host to cancel a transfer first. -/
theorem drop (r : StreamRef) : (r.drop env).Heeds R := by
  intro w
  simp only [StreamRef.drop, Act.leads_get_bind]
  split
  · rename_i hLive
    split
    · rename_i hActive
      apply hR.leads_ask (.abort r hActive) rfl (he.cancel _) (System.has_of_state_ne hLive)
      intro u answer hStill
      exact hR.leads_trans
        (hR.quiet (.answer r (w.stream r).id .cancel answer.isOk hStill (by simp)) rfl)
        (hR.destroy hm he r)
    · exact hR.destroy hm he r _
  · exact hR.refl w

theorem release (r : StreamRef) : (r.release env).Heeds R := by
  intro w
  simp only [StreamRef.release, Act.leads_modify_bind, Act.leads_get_bind]
  have hFewer := hR.quiet (.handles r (· - 1)) (w := w) rfl
  split
  · exact hR.leads_trans hFewer (hR.drop hm he r)
  · exact hFewer

/-- Whoever holds a stream has one handle more for as long as that lasts. -/
theorem leads_holding {act : Act κ α} {r : StreamRef}
    (h : act.Leads R u (w.updateStream r fun s => { s with handles := s.handles + 1 })) :
    (r.holding env act).Leads R u w := by
  simp only [StreamRef.holding, StreamRef.acquire, Act.leads_modify_bind]
  exact hR.leads_after h (hR.release hm he r)

theorem holding {act : Act κ α} (r : StreamRef) (h : act.Heeds R) : (r.holding env act).Heeds R :=
  fun _ => hR.leads_holding hm he (hR.leads_trans (hR.quiet (.handles r (· + 1)) rfl) h)

omit hm in
theorem isForeign (r : StreamRef) : (r.isForeign env).Heeds R := by
  intro w
  simp only [StreamRef.isForeign, Act.leads_get_bind]
  split
  · exact hR.refl w
  · exact hR.leads_bind (he.isCurrent w) fun _ _ => hR.refl _
  · exact hR.refl w

omit hm in
theorem scheduleTeardown (r : StreamRef) : (r.scheduleTeardown env).Heeds R := by
  intro w
  simp only [StreamRef.scheduleTeardown, Act.leads_get_bind]
  cases (w.stream r).binding with
  | free => exact hR.refl w
  | client => exact he.scheduleTeardown _ w
  | worker =>
    simp only [Act.leads_get_bind]
    split
    · rename_i hRunning
      exact hR.quiet (.serve _ (.schedule (w.stream r).id hRunning)) rfl
    · exact hR.refl w

/-- To close a stream down either schedules its teardown or does it at once. -/
theorem closeDown (r : StreamRef) (already : Bool) : (r.closeDown env already).Heeds R := by
  apply hR.heeds_bind (hR.isForeign he r)
  intro foreign
  split
  · split
    · exact hR.heeds_pure ()
    · apply hR.heeds_bind (hR.scheduleTeardown he r)
      intro queued
      split
      · exact hR.heeds_pure ()
      · exact hR.destroy hm he r
  · exact hR.destroy hm he r

/-- A close marks the stream, asks the host, and takes the mark back if that fails. -/
theorem close (r : StreamRef) : (r.close env).Heeds R := by
  intro w
  simp only [StreamRef.close, Act.leads_get_bind]
  split
  · exact hR.refl w
  · rename_i hLive
    have hDown := hR.heeds_bind (hR.closeDown hm he r (w.stream r).status.closing)
      fun _ => hR.heeds_pure (Except.ok (ε := StreamError) ())
    simp only [Act.leads_modify_bind]
    split
    · rename_i hActive
      have hMade : w.Has r := System.has_of_state_ne hLive
      apply hR.leads_ask (.cancel r hActive) rfl (he.cancel _) (by simpa using hMade)
      intro u answer hStill
      cases answer with
      | ok _ =>
        have hAnswered :=
          hR.quiet (.answer r (w.stream r).id .cancel true hStill (by simp)) rfl
        exact hR.leads_trans hAnswered hDown
      | error e => exact hR.quiet (.uncancelled r (w.stream r).id hStill) rfl
    · rename_i hSettled
      exact hR.leads_trans (hR.quiet (.closing r hLive (Bool.eq_false_iff.2 hSettled)) rfl) hDown

omit hm in
/-- A read is registered before the host is asked, and taken back if the host refuses. -/
theorem request {r : StreamRef} {w : System κ} {ranges : List Range}
    (usable : (w.status r).usable = true) (seekable : (w.status r).seekable = true)
    (some_ : ranges ≠ []) (valid : ∀ range ∈ ranges, range.valid = true) (operation : String) :
    (r.request env operation ranges).Leads R w w := by
  have hMade : w.Has r := System.has_of_state_ne (Status.state_ne_of_usable usable)
  simp only [StreamRef.request, Act.leads_get_bind, Act.leads_modify_bind]
  apply hR.leads_ask (.read r ranges usable seekable some_ valid) rfl (he.requestRanges _ _ _)
    ((w.has_updateStatus r r _).2 hMade)
  intro u answer hStill
  cases answer with
  | ok _ => exact hR.quiet (.answer r (w.stream r).id _ true hStill (by simp)) rfl
  | error e => exact hR.quiet (.unread r (w.stream r).id _ ranges hStill) rfl

omit hm in
theorem readRange (r : StreamRef) (first stop : UInt64) :
    (r.readRange env first stop).Heeds R := by
  intro w
  simp only [StreamRef.readRange, Act.leads_get_bind]
  split
  · exact hR.refl w
  · rename_i hOpen
    obtain ⟨hUsable, hSeekable⟩ := Status.of_readBarrier?_eq_none hOpen
    split
    · exact hR.refl w
    · rename_i range hRange
      exact hR.request he hUsable hSeekable (by simp)
        (by simpa using Range.valid_of_ofBounds? hRange) _

omit hm in
theorem readRanges (r : StreamRef) (ranges : List Range) :
    (r.readRanges env ranges).Heeds R := by
  intro w
  simp only [StreamRef.readRanges, Act.leads_get_bind]
  split
  · exact hR.refl w
  · rename_i hOpen
    obtain ⟨hUsable, hSeekable⟩ := Status.of_readBarrier?_eq_none hOpen
    split
    · exact hR.refl w
    · rename_i hSome
      split
      · exact hR.refl w
      · rename_i hValid
        exact hR.request he hUsable hSeekable (by simpa using hSome) (by simpa using hValid) _

omit hm in
theorem write (r : StreamRef) (data : List UInt8) : (r.write env data).Heeds R := by
  intro w
  simp only [StreamRef.write, Act.leads_get_bind]
  split
  · exact hR.refl w
  · rename_i hUsable
    split
    · exact hR.refl w
    · replace hUsable : (w.status r).usable = true := by
        simpa [System.status] using hUsable
      apply hR.leads_ask (.write r data hUsable) rfl (he.write _ _)
        (System.has_of_state_ne (Status.state_ne_of_usable hUsable))
      intro u answer hStill
      have hAnswered :=
        hR.quiet (.answer r (w.stream r).id (.write data) answer.isOk hStill (by simp)) rfl
      cases answer <;> exact hAnswered

omit hm he in
theorem given {kept : Dispatcher κ → Bool} {act : Act κ α}
    (h : ∀ w, kept w.dispatcher = true → act.Leads R w w) : (act.given kept).Heeds R := by
  intro w
  simp only [Act.given, Act.leads_get_bind]
  split
  · rename_i hKept
    exact hR.leads_bind (h w hKept) fun _ _ => hR.refl _
  · exact hR.refl w

omit hm he in
/-- A notification is counted before it is sent, and taken off the count if it is refused. -/
theorem notify {w : System κ} (kept : w.dispatcher.notifierHeld = true) (id : StreamId)
    (event : Event) : (Dispatcher.notify id event).Leads R w w := by
  simp only [Dispatcher.notify, Act.leads_get_bind]
  split
  · exact hR.refuse (.stopped kept)
  · rename_i hOpen
    split
    · rename_i mailbox hSent
      exact hR.quiet (.accept id event mailbox kept (by simpa using hOpen) hSent) rfl
    · exact hR.refuse (.full kept)
    · exact hR.refuse (.stopped kept)

omit hm he in
/-- A job that is handed in gets a ticket, and waits at once or later. -/
theorem beginInvoke {w : System κ} (kept : w.dispatcher.held = true) (job : κ.Job) :
    (Dispatcher.beginInvoke job).Leads R w w := by
  simp only [Dispatcher.beginInvoke, Act.leads_get_bind]
  split
  · exact hR.refl w
  · rename_i hOpen
    have hOpen : w.dispatcher.stopped = false := by simpa using hOpen
    simp only [Dispatcher.drawTicket, Dispatcher.send, Act.leads_modifyGet_bind]
    have hDrawn := hR.quiet (.serve _ (.drawTicket (d := w.dispatcher))) rfl
    have hSent := hR.trans hDrawn (hR.quiet (.serve _
      (.invoke ⟨w.dispatcher.nextTicket⟩ job kept hOpen)) rfl)
    split <;> exact hSent

omit hm he in
theorem beginShutdown {w : System κ} (kept : w.dispatcher.held = true) :
    (Dispatcher.beginShutdown : Act κ (Option Ticket)).Leads R w w := by
  simp only [Dispatcher.beginShutdown, Act.leads_get_bind]
  split
  · exact hR.refl w
  · simp only [Dispatcher.drawTicket, Dispatcher.send, Act.leads_modify_bind,
      Act.leads_modifyGet_bind]
    refine hR.trans (hR.quiet (.serve _ (.stop kept)) rfl) ?_
    refine hR.trans (hR.quiet (.serve _ .drawTicket) rfl) ?_
    exact hR.quiet (.serve _ (.shutdown ⟨w.dispatcher.nextTicket⟩ rfl)) rfl

omit hm he in
theorem poll (ticket : Ticket) : (Dispatcher.poll ticket : Act κ Mailbox.Sent).Heeds R :=
  fun _ => hR.quiet (.serve _ (.poll ticket)) rfl

omit hm he in
theorem pollInvoke (ticket : Ticket) : (Dispatcher.pollInvoke ticket).Heeds R := by
  apply hR.heeds_bind (hR.poll ticket)
  intro sent w
  cases sent with
  | accepted =>
    simp only [Act.leads_get_bind]
    split <;> exact hR.refl w
  | full => exact hR.refl w
  | closed => exact hR.refl w

omit hm he in
theorem pollShutdown (ticket : Ticket) :
    (Dispatcher.pollShutdown ticket : Act κ (Option (Except DispatchError Unit))).Heeds R := by
  apply hR.heeds_bind (hR.poll ticket)
  intro sent w
  split
  · exact hR.refl w
  · simp only [Act.leads_get_bind]
    split <;> exact hR.refl w

/-- The handles of a list of streams are given up one after the other. -/
theorem releaseAll (all : List (StreamId × StreamRef)) :
    (all.foldr (fun (entry : StreamId × StreamRef) rest => (entry.2.release env).after rest)
      (pure ())).Heeds R := by
  induction all with
  | nil => exact hR.heeds_pure ()
  | cons entry rest ih => exact hR.heeds_after (hR.release hm he entry.2) ih

theorem giveUp (keepNotifier : Bool) : (Dispatcher.giveUp env keepNotifier).Heeds R := by
  intro w
  simp only [Dispatcher.giveUp, Act.leads_modify_bind, Act.leads_get_bind]
  have hGiven := hR.quiet (.serve _ (.giveUp (d := w.dispatcher) keepNotifier)) rfl
  split
  · rename_i hIdle
    have hIdle : w.dispatcher.phase.working = false := by
      simpa [System.updateDispatcher] using hIdle
    simp only [Registry.abandon, Act.leads_get_bind, Act.leads_modify_bind]
    exact hR.leads_trans (hR.trans hGiven (hR.quiet (.serve _ (.abandon hIdle)) rfl))
      (hR.releaseAll hm he _)
  · exact hGiven

omit hm he in
/-- An event is applied after the acknowledgement that it may stand for as well. -/
theorem receive {r : StreamRef} (apply : ∀ event, (r.apply env event).Heeds R) (event : Event) :
    (r.receive env event).Heeds R := by
  intro w
  simp only [StreamRef.receive, Act.leads_get_bind]
  split
  · exact hR.leads_bind (apply _ w) fun _ _ => apply _ _
  · exact apply _ w

/-- Every call heeds the relation where those who are called heed it. Taking an event and making
a stream for the worker are seen to by whoever allows them. -/
theorem call {c : Call κ α} (apply : c.reports = true → ∀ (r : StreamRef) event,
      (r.apply env event).Heeds R)
    (createStream : ∀ {w}, w.dispatcher.held = true →
      ∀ config, (Dispatcher.createStream env config).Leads R w w) : (c.run env).Heeds R := by
  cases c with
  | makeSink => exact fun _ => hR.quiet .makeSink rfl
  | abandonSink sink => exact fun _ => hR.quiet (.abandonSink sink) rfl
  | makeHub => exact fun _ => hR.quiet .makeHub rfl
  | attachHub hub sink => exact fun _ => hR.quiet (.hub hub _ (.attach sink) rfl) rfl
  | detachHub hub sink => exact fun _ => hR.quiet (.hub hub _ (.detach sink) rfl) rfl
  | clearHub hub => exact fun _ => hR.quiet (.hub hub _ .clear rfl) rfl
  | fireHub hub event => exact hR.fireHub hm he hub event
  | drawId => exact fun _ => hR.quiet .drawId rfl
  | makeStream id config bound =>
    exact fun _ => hR.quiet (.makeStream id config _ (by cases bound <;> simp)) rfl
  | acquire r => exact hR.acquire r
  | release r => exact hR.release hm he r
  | start r => exact hR.start hm he r
  | attach r sink => exact hR.attach r sink
  | detach r sink => exact hR.detach r sink
  | receive r event => exact hR.receive (apply rfl r) event
  | readRange r first stop => exact hR.readRange he r first stop
  | readRanges r ranges => exact hR.readRanges he r ranges
  | write r data => exact hR.write he r data
  | close r => exact hR.close hm he r
  | destroy r => exact hR.destroy hm he r
  | createStream config => exact hR.given fun _ kept => createStream kept config
  | openUrl url =>
    apply hR.given
    intro w kept
    rw [Dispatcher.openUrl, Act.leads_get_bind]
    exact createStream kept _
  | notify id event => exact hR.given fun _ kept => hR.notify kept id event
  | beginInvoke job => exact hR.given fun _ kept => hR.beginInvoke kept job
  | pollInvoke ticket => exact hR.pollInvoke ticket
  | beginShutdown => exact hR.given fun _ kept => hR.beginShutdown kept
  | pollShutdown ticket => exact hR.pollShutdown ticket
  | giveUp keepNotifier => exact hR.giveUp hm he keepNotifier
  | readEvents label => exact fun _ => hR.quiet (.serve _ (.readEvents label)) rfl

end Upheld

namespace Sustained

variable {look : System κ → κ.Note} {manners : Surroundings κ → Prop} {R : Outcome κ}
  (hR : Sustained look manners R)

include hR

/-- What a client does heeds the relation if those who are called meanwhile heed it. -/
theorem conduct {below : Surroundings κ → Prop}
    (hBelow : ∀ env, below env → manners env ∧ env.Heed R) {a : Act κ α}
    (h : Conduct look below a) : a.Heeds R := by
  have hSteady := hR.toSteady
  induction h with
  | pure a => exact hSteady.heeds_pure a
  | bind _ _ iha ihf => exact hSteady.heeds_bind iha ihf
  | see f => exact fun w => hR.refl w
  | remember f => exact fun _ => hR.quiet (.remember f) rfl
  | note => exact fun _ => hR.quiet .note rfl
  | panic payload => exact fun w => hR.panic w payload
  | contain _ ih => exact fun w => Steady.leads_contain hR.contained (ih w)
  | after _ _ iha ihl => exact hSteady.heeds_after iha ihl
  | call usable c =>
    obtain ⟨hm, he⟩ := hBelow _ usable
    exact hR.call hm he (fun _ => hR.apply hm he) (hR.createStream hm he)

/-- A client that serves heeds the relation, at whatever depth it is called, and so do its
jobs. -/
theorem serves {env : Surroundings κ} (h : env.Serves look manners) :
    (manners env ∧ env.Heed R) ∧ ∀ job, (env.work job).Heeds R := by
  induction h with
  | intro below _ above mannered ih =>
    have ih := fun lower usable => (ih lower usable).1
    refine ⟨⟨mannered, {
      deliver := fun sink origin event => hR.conduct ih (above.deliver sink origin event)
      start := fun id config => hR.conduct ih (above.start id config)
      requestRanges := fun id request ranges =>
        hR.conduct ih (above.requestRanges id request ranges)
      write := fun id data => hR.conduct ih (above.write id data)
      cancel := fun id => hR.conduct ih (above.cancel id)
      isCurrent := hR.conduct ih above.isCurrent
      scheduleTeardown := fun id => hR.conduct ih (above.scheduleTeardown id) }⟩, fun job => ?_⟩
    exact hR.conduct ih (above.work job)

end Sustained
end Outcome
end HostedStreams
