import HostedStreams.Proofs.Steady
import Mathlib.Logic.Relation

/-! What calls are made of. Whatever a call does, it does leg by leg: a step outside passes, a
request to the host together with its answer, something that the client is called for, a pass. What
is known of each leg is known of the call. A request and its answer are one leg because what the
answer takes back is what the request did, and only together do they leave things as they were. So
is what happens when the last handle is gone, because the stream is not marked as closing while the
host is asked to cancel its transfer: only that leg tells that nobody can reach it then. -/
namespace HostedStreams

variable {κ : Client} {α β : Type}

/-- Whether the entry is an answer of the host. -/
def Entry.answers {Note : Type} : Entry Note → Bool
  | .hostAnswer .. => true
  | _ => false

/-- What the host has answered so far. -/
def System.answers (w : System κ) : List (Entry κ.Note) :=
  w.past.filter (·.answers)

/-- Whether the entry is a request to the host or an answer of the host. -/
def Entry.talks {Note : Type} : Entry Note → Bool
  | .hostCall .. | .hostAnswer .. => true
  | _ => false

/-- What streams and the host have said to each other so far. -/
def System.talk (w : System κ) : List (Entry κ.Note) :=
  w.past.filter (·.talks)

/-- The answers of the host are part of the talk. -/
theorem System.answers_of_talk {w v : System κ} (h : v.talk = w.talk) : v.answers = w.answers := by
  have hAmong (u : System κ) : u.answers = u.talk.filter (·.answers) := by
    rw [answers, talk, List.filter_filter]
    congr 1
    funext e
    cases e <;> rfl
  rw [hAmong, h, ← hAmong]

/-- The client does something that it is called for. -/
inductive Surroundings.Does (env : Surroundings κ) (w : System κ) : System κ → Prop
  | deliver (sink : SinkRef) (origin : Origin) (event : Event) :
      Does env w ((env.deliver sink origin event).left w)
  | start (id : StreamId) (config : StreamConfig) : Does env w ((env.host.start id config).left w)
  | requestRanges (id : StreamId) (request : RequestId) (ranges : List Range) :
      Does env w ((env.host.requestRanges id request ranges).left w)
  | write (id : StreamId) (data : List UInt8) : Does env w ((env.host.write id data).left w)
  | cancel (id : StreamId) : Does env w ((env.host.cancel id).left w)
  | isCurrent : Does env w (env.isCurrent.left w)
  | scheduleTeardown (id : StreamId) : Does env w ((env.scheduleTeardown id).left w)
  | work (job : κ.Job) : Does env w ((env.work job).left w)

/-- What the client does is within every relation that the client keeps to. -/
theorem Surroundings.Within.does {R : System κ → System κ → Prop} {env : Surroundings κ}
    (h : env.Within R) {w v : System κ} (does : env.Does w v) : R w v := by
  cases does with
  | deliver sink origin event => exact h.deliver sink origin event w
  | start id config => exact h.start id config w
  | requestRanges id request ranges => exact h.requestRanges id request ranges w
  | write id data => exact h.write id data w
  | cancel id => exact h.cancel id w
  | isCurrent => exact h.isCurrent w
  | scheduleTeardown id => exact h.scheduleTeardown id w
  | work job => exact h.work job w

/-- Whatever the client does, no stream is gone afterwards. -/
def Surroundings.Grow (env : Surroundings κ) : Prop :=
  env.Within fun w v => w.streams.length ≤ v.streams.length

section

variable (look : System κ → κ.Note) (env : Surroundings κ)
  -- Where a stream may hand events to its sinks, and what else is done besides.
  (may : StreamRef → System κ → Prop) (own : System κ → System κ → Prop)

/-- A leg of a call. -/
inductive Leg (w : System κ) : System κ → Prop
  | quiet {v : System κ} (h : Quiet look w v) (silent : v.talk = w.talk) : Leg w v
  | ask {y u x : System κ} {r : StreamRef} {id : StreamId} {call : HostCall} {served : Bool}
      (asked : Quiet look w y) (request : y.past = @Entry.hostCall _ id call r :: w.past)
      (marked : call = .cancel → (y.status r).closing = true)
      (does : env.Does y u)
      (answered : Quiet look u x)
      (answer : x.past = @Entry.hostAnswer _ id call served r :: u.past) :
      Leg w x
  /-- The host panics instead of answering. -/
  | halted {y v : System κ} {r : StreamRef} {id : StreamId} {call : HostCall}
      (asked : Quiet look w y) (request : y.past = @Entry.hostCall _ id call r :: w.past)
      (marked : call = .cancel → (y.status r).closing = true)
      (does : env.Does y v) :
      Leg w v
  /-- The last handle of the stream is gone. -/
  | drop (r : StreamRef) (gone : (w.stream r).handles = 0) (grow : env.Grow)
      (free : (w.status r).state ≠ .destroyed → ∀ x, may r x) :
      Leg w ((r.drop env).left w)
  | does {v : System κ} (h : env.Does w v) : Leg w v
  | fireHub (hub : HubRef) (event : Event) : Leg w ((fire env (.hub hub) event).left w)
  | apply (r : StreamRef) (event : Event) (free : may r w) : Leg w ((r.apply env event).left w)
  | destroy (r : StreamRef) (free : may r w) : Leg w ((r.destroy env).left w)
  | own {v : System κ} (h : own w v) : Leg w v

/-- Any number of legs. -/
abbrev Legs : System κ → System κ → Prop :=
  Relation.ReflTransGen (Leg look env may own)

/-- The relation holds across each leg, if what the client does is within it. -/
structure Conveys (R : System κ → System κ → Prop) : Prop where
  refl : ∀ w, R w w
  trans : ∀ {u v w}, R u v → R v w → R u w
  does : env.Within R
  quiet : ∀ {w v}, Quiet look w v → v.talk = w.talk → R w v
  ask : ∀ {w y u x : System κ} {r : StreamRef} {id : StreamId} {call : HostCall} {served : Bool},
    Quiet look w y → y.past = @Entry.hostCall _ id call r :: w.past →
    (call = .cancel → (y.status r).closing = true) → R y u →
    Quiet look u x → x.past = @Entry.hostAnswer _ id call served r :: u.past → R w x
  halted : ∀ {w y v : System κ} {r : StreamRef} {id : StreamId} {call : HostCall},
    Quiet look w y → y.past = @Entry.hostCall _ id call r :: w.past →
    (call = .cancel → (y.status r).closing = true) → R y v → R w v
  drop : ∀ {r w}, (w.stream r).handles = 0 → env.Grow →
    ((w.status r).state ≠ .destroyed → ∀ x, may r x) → R w ((r.drop env).left w)
  fireHub : ∀ hub event, (fire env (.hub hub) event).Within R
  apply : ∀ {r w} event, may r w → R w ((r.apply env event).left w)
  destroy : ∀ {r w}, may r w → R w ((r.destroy env).left w)
  own : ∀ {w v}, own w v → R w v

/-- The relation holds across each part of each leg, whichever way the host is asked to cancel a
transfer. -/
structure Carries (R : System κ → System κ → Prop) : Prop where
  refl : ∀ w, R w w
  trans : ∀ {u v w}, R u v → R v w → R u w
  does : env.Within R
  quiet : ∀ {w v}, Quiet look w v → v.answers = w.answers → R w v
  ask : ∀ {w y u x : System κ} {r : StreamRef} {id : StreamId} {call : HostCall} {served : Bool},
    Quiet look w y → y.past = @Entry.hostCall _ id call r :: w.past → R y u →
    Quiet look u x → x.past = @Entry.hostAnswer _ id call served r :: u.past → R w x
  fireHub : ∀ hub event, (fire env (.hub hub) event).Within R
  apply : ∀ {r w} event, may r w → R w ((r.apply env event).left w)
  destroy : ∀ {r w}, may r w → R w ((r.destroy env).left w)
  own : ∀ {w v}, own w v → R w v

end

variable {look : System κ → κ.Note} {env : Surroundings κ} {may : StreamRef → System κ → Prop}
  {own : System κ → System κ → Prop}

/-- A stream that has no transfer to cancel is torn down, once. -/
theorem StreamRef.on_drop_of_settled {w : System κ} {r : StreamRef}
    (settled : (w.status r).cancellable = false) (env : Surroundings κ) :
    (r.drop env).on w = (r.destroy env).on w := by
  simp only [drop, Act.on_get_bind]
  split
  · split
    · rename_i hActive
      rw [System.status, hActive] at settled
      cases settled
    · rfl
  · rename_i hTorn
    exact (System.on_destroy_of_torn (Decidable.of_not_not hTorn)).symm

/-- Without a transfer to cancel, the last handle leaves the stream to be torn down. -/
theorem StreamRef.left_drop_of_settled {w : System κ} {r : StreamRef}
    (settled : (w.status r).cancellable = false) (env : Surroundings κ) :
    (r.drop env).left w = (r.destroy env).left w :=
  congrArg Prod.snd (on_drop_of_settled settled env)

/-- The system in which the host is asked to cancel the transfer of a stream without handles. -/
def System.aborting (w : System κ) (r : StreamRef) : System κ :=
  w.record (@Entry.hostCall _ (w.stream r).id .cancel r)

/-- With a transfer in progress, the host is asked to cancel it before the teardown. -/
theorem StreamRef.on_drop_of_cancellable {w : System κ} {r : StreamRef}
    (active : (w.status r).cancellable = true) (env : Surroundings κ) :
    (r.drop env).on w = (env.host.cancel (w.stream r).id >>= fun answer => do
      modify (·.record (@Entry.hostAnswer _ (w.stream r).id .cancel answer.isOk r))
      r.destroy env).on (w.aborting r) := by
  have hLive := Status.state_ne_of_cancellable active
  rw [System.status] at active hLive
  simp only [drop, Act.on_get_bind, if_pos hLive, if_pos active, askHost, bind_assoc, pure_bind,
    Act.on_modify_bind]
  rfl

theorem StreamRef.left_drop_of_cancellable {w : System κ} {r : StreamRef}
    (active : (w.status r).cancellable = true) (env : Surroundings κ) :
    (r.drop env).left w = (env.host.cancel (w.stream r).id >>= fun answer => do
      modify (·.record (@Entry.hostAnswer _ (w.stream r).id .cancel answer.isOk r))
      r.destroy env).left (w.aborting r) :=
  congrArg Prod.snd (on_drop_of_cancellable active env)

section

variable {R : System κ → System κ → Prop} {w v : System κ}

/-- A relation that holds across each leg holds across any number of them. -/
theorem Conveys.legs (hR : Conveys look env may own R) (h : Legs look env may own w v) : R w v := by
  induction h with
  | refl => exact hR.refl _
  | tail _ leg ih =>
    apply hR.trans ih
    cases leg with
    | quiet h silent => exact hR.quiet h silent
    | ask asked request marked does answered answer =>
      exact hR.ask asked request marked (hR.does.does does) answered answer
    | halted asked request marked does => exact hR.halted asked request marked (hR.does.does does)
    | drop r gone grow free => exact hR.drop gone grow free
    | does h => exact hR.does.does h
    | fireHub hub event => exact hR.fireHub hub event _
    | apply r event free => exact hR.apply event free
    | destroy r free => exact hR.destroy free
    | own h => exact hR.own h

namespace Carries

variable (hR : Carries look env may own R)

include hR

/-- An unfinished transfer is cancelled, and the stream is torn down. -/
theorem drop {r : StreamRef} (grow : env.Grow)
    (free : (w.status r).state ≠ .destroyed → ∀ x, may r x) : R w ((r.drop env).left w) := by
  cases active : (w.status r).cancellable with
  | false =>
    rw [StreamRef.left_drop_of_settled active]
    by_cases live : (w.status r).state = .destroyed
    · rw [System.left_destroy_of_torn live]
      exact hR.refl w
    · exact hR.destroy (free live _)
  | true =>
    have hLive := Status.state_ne_of_cancellable active
    have hAsked : Quiet look w (w.aborting r) := .abort r active
    have hDoes := hR.does.cancel (w.stream r).id (w.aborting r)
    have hStill := Nat.lt_of_lt_of_le (System.has_of_state_ne hLive)
      (grow.cancel (w.stream r).id (w.aborting r))
    rw [StreamRef.left_drop_of_cancellable active]
    apply Act.holds_bind
    · exact hR.trans (hR.quiet hAsked rfl) hDoes
    · intro answer _
      have hAnswered : Quiet look _ _ :=
        .answer r (w.stream r).id .cancel answer.isOk hStill (by simp)
      exact hR.trans (hR.ask hAsked rfl hDoes hAnswered rfl) (hR.destroy (free hLive _))

theorem conveys : Conveys look env may own R where
  refl := hR.refl
  trans := hR.trans
  does := hR.does
  quiet h silent := hR.quiet h (System.answers_of_talk silent)
  ask asked request _ := hR.ask asked request
  halted asked request _ does := by
    refine hR.trans (hR.quiet asked ?_) does
    rw [System.answers, request]
    rfl
  drop _ grow free := hR.drop grow free
  fireHub := hR.fireHub
  apply := hR.apply
  destroy := hR.destroy
  own := hR.own

/-- A relation that is carried holds across any number of legs. -/
theorem legs (h : Legs look env may own w v) : R w v :=
  hR.conveys.legs h

end Carries
end

/-- The end of a close of a stream of the worker's. Outside the worker's context it is torn down at
once only if the worker takes no teardowns. -/
theorem StreamRef.left_closeDown_of_worker {w : System κ} {r : StreamRef}
    (hBinding : (w.stream r).binding = .worker) (already : Bool) :
    (r.closeDown env already).left w =
      if w.dispatcher.inContext then (r.destroy env).left w
      else if already then w
      else if w.dispatcher.phase = .running then w.updateDispatcher fun d =>
        { d with teardowns := d.teardowns ++ [(w.stream r).id] }
      else (r.destroy env).left w := by
  simp only [closeDown, isForeign, scheduleTeardown, Act.left_get_bind, bind_assoc, hBinding,
    pure_bind]
  cases w.dispatcher.inContext with
  | true => rfl
  | false =>
    cases already with
    | true => rfl
    | false =>
      simp only [Bool.not_false, if_true, Bool.false_eq_true, if_false, bind_assoc,
        Act.left_get_bind, hBinding]
      by_cases hRunning : w.dispatcher.phase = .running
      · simp only [if_pos hRunning]
        rfl
      · simp only [if_neg hRunning]
        rfl

namespace Legs

/-- A quiet step without a word to the host, or from it, is a leg. -/
theorem quiet {w v : System κ} (h : Quiet look w v) (silent : v.talk = w.talk) :
    Legs look env may own w v :=
  .single (.quiet h silent)

theorem smooth : Smooth (Legs look env may own) where
  refl _ := .refl
  trans := .trans
  doneWith _ sink := quiet (.doneWith sink) rfl

variable {w : System κ} {r : StreamRef}

/-- Asking the host: the request, what the host does, and what is done about its answer. -/
theorem ask {v : System κ} {id : StreamId} {call : HostCall}
    {ask : Host (Act κ) → Act κ (Except HostError α)} {rest : Except HostError α → Act κ β}
    (asked : Quiet look w (v.record (@Entry.hostCall _ id call r))) (same : v.past = w.past)
    (marked : call = .cancel → (v.status r).closing = true)
    (does : ∀ x, env.Does x ((ask env.host).left x)) (grow : env.Grow) (made : v.Has r)
    (hRest : ∀ u answer, u.Has r →
      (∀ {x : System κ}, Quiet look u (x.record (@Entry.hostAnswer _ id call answer.isOk r)) →
        x.past = u.past → Legs look env may own w
          (x.record (@Entry.hostAnswer _ id call answer.isOk r))) →
      Legs look env may own w ((rest answer).left
        (u.record (@Entry.hostAnswer _ id call answer.isOk r)))) :
    Legs look env may own w ((askHost env r id call ask >>= rest).left v) := by
  have request : (v.record (@Entry.hostCall _ id call r)).past =
      @Entry.hostCall _ id call r :: w.past := congrArg _ same
  simp only [askHost, bind_assoc, pure_bind, Act.left_modify_bind]
  apply Act.holds_bind
  · exact .single (.halted asked request marked (does _))
  · intro answer _
    have hGrows := Surroundings.Within.does grow (does (v.record (@Entry.hostCall _ id call r)))
    apply hRest _ answer (Nat.lt_of_lt_of_le made hGrows)
    intro x answered kept
    exact .single (.ask asked request marked (does _) answered (congrArg _ kept))

theorem attach (sink : SinkRef) :
    Legs look env may own w ((r.attach sink : Act κ Bool).left w) := by
  simp only [StreamRef.attach, Act.left_get_bind]
  split
  · exact .refl
  · rename_i hState
    exact quiet (.attach r sink hState) rfl

theorem acquire : Legs look env may own w ((r.acquire : Act κ Unit).left w) :=
  quiet (.handles r (· + 1)) rfl

/-- The request to the host and its answer are one leg, and a refusal is followed by a teardown.
-/
theorem start (grow : env.Grow)
    (hMay : (w.status r).requested = false → (w.status r).state ≠ .destroyed →
      ∀ x, Legs look env may own w x → may r x) :
    Legs look env may own w ((r.start env).left w) := by
  simp only [StreamRef.start, Act.left_get_bind]
  split
  · exact .refl
  · rename_i hNew
    simp only [Bool.or_eq_true, decide_eq_true_eq, not_or, Bool.not_eq_true, ne_eq,
      Decidable.not_not] at hNew
    have hLive : (w.status r).state ≠ .destroyed := by
      rw [System.status, hNew.2]
      simp
    have hMade : w.Has r := System.has_of_state_ne hLive
    simp only [Act.left_modify_bind]
    refine ask (.start r hNew.1 hNew.2) rfl (by simp) (fun _ => .start _ _) grow
      ((w.has_updateStatus r r _).2 hMade) fun u answer hStill answered => ?_
    have hAnswered := answered (.answer r (w.stream r).id
      (.start { (w.stream r).config with seekable := (w.status r).seekable }) answer.isOk hStill
      (by simp)) rfl
    cases answer with
    | ok _ => exact hAnswered
    | error e =>
      exact smooth.related_bind (hAnswered.tail (.destroy r (hMay hNew.1 hLive _ hAnswered)))
        fun _ _ => .refl

/-- Only the last handle of a stream that is not torn down matters. -/
theorem release (grow : env.Grow)
    (hMay : (w.stream r).handles ≤ 1 → (w.status r).state ≠ .destroyed → ∀ x, may r x) :
    Legs look env may own w ((r.release env).left w) := by
  have hFewer : Legs look env may own w
      (w.updateStream r fun s => { s with handles := s.handles - 1 }) :=
    quiet (.handles r (· - 1)) rfl
  simp only [StreamRef.release, Act.left_modify_bind, Act.left_get_bind]
  split
  · rename_i hGone
    refine hFewer.tail (.drop r hGone grow fun live => ?_)
    rw [System.status_handles w r r (· - 1)] at live
    refine hMay ?_ live
    rw [System.stream_updateStream, if_pos ⟨rfl, System.has_of_state_ne live⟩] at hGone
    exact Nat.le_of_sub_eq_zero hGone
  · exact hFewer

theorem holding {act : Act κ α} (grow : env.Grow)
    (h : Legs look env may own w
      (act.left (w.updateStream r fun s => { s with handles := s.handles + 1 })))
    (hMay : ∀ x, may r x) : Legs look env may own w ((r.holding env act).left w) := by
  simp only [StreamRef.holding, StreamRef.acquire, Act.left_modify_bind, Act.left_after]
  exact h.trans (release grow fun _ _ => hMay)

/-- An event that comes is one leg or two, with the acknowledgement first. -/
theorem receive (event : Event) (hMay : ∀ x, Legs look env may own w x → may r x) :
    Legs look env may own w ((r.receive env event).left w) := by
  simp only [StreamRef.receive, Act.left_get_bind]
  split
  · have hFirst : Legs look env may own w ((r.apply env .created).left w) :=
      .single (.apply r .created (hMay w .refl))
    exact smooth.related_bind hFirst fun _ _ => .single (.apply r event (hMay _ hFirst))
  · exact .single (.apply r event (hMay w .refl))

theorem isForeign : Legs look env may own w ((r.isForeign env).left w) := by
  simp only [StreamRef.isForeign, Act.left_get_bind]
  split
  · exact .refl
  · exact smooth.related_bind (.single (.does .isCurrent)) fun _ _ => .refl
  · exact .refl

/-- A teardown that is scheduled is one quiet leg. -/
theorem scheduleTeardown : Legs look env may own w ((r.scheduleTeardown env).left w) := by
  simp only [StreamRef.scheduleTeardown, Act.left_get_bind]
  cases (w.stream r).binding with
  | free => exact .refl
  | client => exact .single (.does (.scheduleTeardown _))
  | worker =>
    simp only [Act.left_get_bind]
    split
    · rename_i hRunning
      exact quiet (.serve _ (.schedule (w.stream r).id hRunning)) rfl
    · exact .refl

/-- A stream of the worker's is torn down at once only inside the worker's context, or where that
takes no teardowns. -/
theorem closeDown (already : Bool)
    (hMay : ∀ y, Legs look env may own w y → ((w.stream r).binding = .worker →
      w.dispatcher.inContext = true ∨ w.dispatcher.phase ≠ .running) → may r y) :
    Legs look env may own w ((r.closeDown env already).left w) := by
  have hDestroy {y : System κ} (hy : Legs look env may own w y) (free : may r y) :
      Legs look env may own w ((r.destroy env).left y) := hy.tail (.destroy r free)
  by_cases hBinding : (w.stream r).binding = .worker
  · rw [StreamRef.left_closeDown_of_worker hBinding]
    split
    · rename_i hInside
      exact hDestroy .refl (hMay w .refl fun _ => .inl hInside)
    · split
      · exact .refl
      · split
        · rename_i hRunning
          exact quiet (.serve _ (.schedule (w.stream r).id hRunning)) rfl
        · rename_i hEnded
          exact hDestroy .refl (hMay w .refl fun _ => .inr hEnded)
  · have free (y : System κ) (hy : Legs look env may own w y) : may r y :=
      hMay y hy fun h => absurd h hBinding
    apply Act.holds_bind isForeign
    intro foreign _
    have hLooked : Legs look env may own w ((r.isForeign env).left w) := isForeign
    split
    · split
      · exact hLooked
      · apply Act.holds_bind (hLooked.trans scheduleTeardown)
        intro queued _
        have hQueued : Legs look env may own w
            ((r.scheduleTeardown env).left ((r.isForeign env).left w)) :=
          hLooked.trans scheduleTeardown
        split
        · exact hQueued
        · exact hDestroy hQueued (free _ hQueued)
    · exact hDestroy hLooked (free _ hLooked)

/-- A close asks the host to cancel, in one leg, and tears down in another one. -/
theorem close (grow : env.Grow)
    (hMay : (w.status r).state ≠ .destroyed → ∀ x y, Legs look env may own w x →
      Legs look env may own x y → ((x.stream r).binding = .worker →
        x.dispatcher.inContext = true ∨ x.dispatcher.phase ≠ .running) → may r y) :
    Legs look env may own w ((r.close env).left w) := by
  have hDown (live : (w.status r).state ≠ .destroyed) {x : System κ}
      (hx : Legs look env may own w x) (already : Bool) : Legs look env may own w
        (Act.left (do r.closeDown env already; return Except.ok (ε := StreamError) ()) x) := by
    rw [Act.left_bind_pure]
    exact hx.trans (closeDown already fun y hy free => hMay live x y hx hy free)
  simp only [StreamRef.close, Act.left_get_bind]
  split
  · exact .refl
  · rename_i hLive
    simp only [Act.left_modify_bind]
    split
    · rename_i hActive
      have hMade : w.Has r := System.has_of_state_ne hLive
      refine ask (.cancel r hActive) rfl (fun _ => by simp [System.status_updateStatus, hMade])
        (fun _ => .cancel _) grow (by simpa using hMade) fun u answer hStill answered => ?_
      cases answer with
      | ok _ =>
        exact hDown hLive (answered (.answer r (w.stream r).id .cancel true hStill (by simp)) rfl) _
      | error e => exact answered (.uncancelled r (w.stream r).id hStill) rfl
    · rename_i hSettled
      exact hDown hLive (quiet (.closing r hLive (Bool.eq_false_iff.2 hSettled)) rfl) _

/-- A read is registered, asked for and, if refused, forgotten in a single leg. -/
theorem request {ranges : List Range} (usable : (w.status r).usable = true)
    (seekable : (w.status r).seekable = true) (some_ : ranges ≠ [])
    (valid : ∀ range ∈ ranges, range.valid = true) (operation : String) (grow : env.Grow) :
    Legs look env may own w ((r.request env operation ranges).left w) := by
  have hMade : w.Has r := System.has_of_state_ne (Status.state_ne_of_usable usable)
  simp only [StreamRef.request, Act.left_get_bind, Act.left_modify_bind]
  refine ask (.read r ranges usable seekable some_ valid) rfl (by simp)
    (fun _ => .requestRanges _ _ _) grow ((w.has_updateStatus r r _).2 hMade)
    fun u answer hStill answered => ?_
  cases answer with
  | ok _ => exact answered (.answer r (w.stream r).id _ true hStill (by simp)) rfl
  | error e => exact answered (.unread r (w.stream r).id _ ranges hStill) rfl

theorem readRange (first stop : UInt64) (grow : env.Grow) :
    Legs look env may own w ((r.readRange env first stop).left w) := by
  simp only [StreamRef.readRange, Act.left_get_bind]
  split
  · exact .refl
  · rename_i hOpen
    obtain ⟨hUsable, hSeekable⟩ := Status.of_readBarrier?_eq_none hOpen
    split
    · exact .refl
    · rename_i range hRange
      exact request hUsable hSeekable (by simp) (by simpa using Range.valid_of_ofBounds? hRange) _
        grow

theorem readRanges (ranges : List Range) (grow : env.Grow) :
    Legs look env may own w ((r.readRanges env ranges).left w) := by
  simp only [StreamRef.readRanges, Act.left_get_bind]
  split
  · exact .refl
  · rename_i hOpen
    obtain ⟨hUsable, hSeekable⟩ := Status.of_readBarrier?_eq_none hOpen
    split
    · exact .refl
    · rename_i hSome
      split
      · exact .refl
      · rename_i hValid
        exact request hUsable hSeekable (by simpa using hSome) (by simpa using hValid) _ grow

theorem write (data : List UInt8) (grow : env.Grow) :
    Legs look env may own w ((r.write env data).left w) := by
  simp only [StreamRef.write, Act.left_get_bind]
  split
  · exact .refl
  · rename_i hUsable
    split
    · exact .refl
    · replace hUsable : (w.status r).usable = true := by
        simpa [System.status] using hUsable
      refine ask (.write r data hUsable) rfl (by simp) (fun _ => .write _ _) grow
        (System.has_of_state_ne (Status.state_ne_of_usable hUsable))
        fun u answer hStill answered => ?_
      have hAnswered :=
        answered (.answer r (w.stream r).id (.write data) answer.isOk hStill (by simp)) rfl
      cases answer <;> exact hAnswered

theorem given {kept : Dispatcher κ → Bool} {act : Act κ α}
    (h : kept w.dispatcher = true → Legs look env may own w (act.left w)) :
    Legs look env may own w ((act.given kept).left w) := by
  simp only [Act.given, Act.left_get_bind]
  split
  · rename_i hKept
    exact smooth.related_bind (h hKept) fun _ _ => .refl
  · exact .refl

theorem notify (kept : w.dispatcher.notifierHeld = true) (id : StreamId) (event : Event) :
    Legs look env may own w ((Dispatcher.notify id event).left w) := by
  simp only [Dispatcher.notify, Act.left_get_bind]
  split
  · exact quiet (.refuse id event _ _) rfl
  · rename_i hOpen
    split
    · rename_i mailbox hSent
      exact quiet (.accept id event mailbox kept (by simpa using hOpen) hSent) rfl
    · exact quiet (.refuse id event _ _) rfl
    · exact quiet (.refuse id event _ _) rfl

theorem beginInvoke (kept : w.dispatcher.held = true) (job : κ.Job) :
    Legs look env may own w ((Dispatcher.beginInvoke job).left w) := by
  simp only [Dispatcher.beginInvoke, Act.left_get_bind]
  split
  · exact .refl
  · rename_i hOpen
    have hOpen : w.dispatcher.stopped = false := by simpa using hOpen
    simp only [Dispatcher.drawTicket, Dispatcher.send, Act.left_modifyGet_bind]
    have hDrawn : Legs look env may own w (w.updateDispatcher fun d =>
        { d with nextTicket := d.nextTicket + 1 }) := quiet (.serve _ .drawTicket) rfl
    have hSent := hDrawn.trans
      (quiet (.serve _ (.invoke ⟨w.dispatcher.nextTicket⟩ job kept hOpen)) rfl)
    split <;> exact hSent

theorem beginShutdown (kept : w.dispatcher.held = true) :
    Legs look env may own w ((Dispatcher.beginShutdown : Act κ (Option Ticket)).left w) := by
  simp only [Dispatcher.beginShutdown, Act.left_get_bind]
  split
  · exact .refl
  · simp only [Dispatcher.drawTicket, Dispatcher.send, Act.left_modify_bind,
      Act.left_modifyGet_bind]
    have hStopped : Legs look env may own w
        (w.updateDispatcher fun d => { d with stopped := true }) :=
      quiet (.serve _ (.stop kept)) rfl
    have hDrawn := hStopped.trans (quiet (.serve _ .drawTicket) rfl)
    exact hDrawn.trans (quiet (.serve _ (.shutdown ⟨w.dispatcher.nextTicket⟩ rfl)) rfl)

theorem poll (ticket : Ticket) :
    Legs look env may own w ((Dispatcher.poll ticket : Act κ Mailbox.Sent).left w) :=
  quiet (.serve _ (.poll ticket)) rfl

theorem pollInvoke (ticket : Ticket) :
    Legs look env may own w ((Dispatcher.pollInvoke ticket).left w) := by
  apply smooth.related_bind (poll ticket)
  intro sent _
  cases sent with
  | accepted =>
    simp only [Act.left_get_bind]
    split <;> exact .refl
  | full => exact .refl
  | closed => exact .refl

theorem pollShutdown (ticket : Ticket) : Legs look env may own w
    ((Dispatcher.pollShutdown ticket : Act κ (Option (Except DispatchError Unit))).left w) := by
  apply smooth.related_bind (poll ticket)
  intro sent _
  split
  · exact .refl
  · simp only [Act.left_get_bind]
    split <;> exact .refl

/-- The handles of a list of streams are given up one after the other. -/
theorem releaseAll (grow : env.Grow) (all : List (StreamId × StreamRef)) {u : System κ}
    (h : Legs look env may own w u)
    (hMay : ∀ entry ∈ all, ∀ x, may entry.2 x) :
    Legs look env may own w ((all.foldr (fun (entry : StreamId × StreamRef) rest =>
      (entry.2.release env).after rest) (pure ())).left u) := by
  induction all generalizing u with
  | nil => exact h
  | cons entry rest ih =>
    simp only [List.foldr_cons, Act.left_after]
    apply ih (h.trans (release grow fun _ _ => hMay entry List.mem_cons_self))
    exact fun other hOther => hMay other (List.mem_cons_of_mem _ hOther)

/-- Whoever gives up a dispatcher that does not work may give up the registry with it. -/
theorem giveUp (grow : env.Grow) (keepNotifier : Bool)
    (hMay : w.dispatcher.phase.working = false → ∀ entry ∈ w.dispatcher.registry,
      ∀ x, may entry.2 x) :
    Legs look env may own w ((Dispatcher.giveUp env keepNotifier).left w) := by
  have hGiven : Legs look env may own w (w.updateDispatcher fun d =>
      { d with held := false, notifierHeld := d.notifierHeld && keepNotifier }) :=
    quiet (.serve _ (.giveUp keepNotifier)) rfl
  simp only [Dispatcher.giveUp, Act.left_modify_bind, Act.left_get_bind]
  split
  · rename_i hIdle
    have hIdle : w.dispatcher.phase.working = false := by
      simpa [System.updateDispatcher] using hIdle
    simp only [Registry.abandon, Act.left_get_bind, Act.left_modify_bind]
    exact releaseAll grow _ (hGiven.trans (quiet (.serve _ (.abandon hIdle)) rfl)) (hMay hIdle)
  · exact hGiven

end Legs

/-- What has to be known of a stream for the call to hand events to its sinks only where that may
be done. The making of a stream for the worker is seen to by itself. -/
def Call.Free (look : System κ → κ.Note) (env : Surroundings κ) (may : StreamRef → System κ → Prop)
    (own : System κ → System κ → Prop) (w : System κ) : Call κ α → Prop
  | .release r => (w.stream r).handles ≤ 1 → (w.status r).state ≠ .destroyed → ∀ x, may r x
  | .start r => (w.status r).requested = false → (w.status r).state ≠ .destroyed →
      ∀ x, Legs look env may own w x → may r x
  | .receive r _ | .destroy r => ∀ x, Legs look env may own w x → may r x
  | .close r => (w.status r).state ≠ .destroyed → ∀ x y, Legs look env may own w x →
      Legs look env may own x y → ((x.stream r).binding = .worker →
        x.dispatcher.inContext = true ∨ x.dispatcher.phase ≠ .running) → may r y
  | .giveUp _ => w.dispatcher.phase.working = false → ∀ entry ∈ w.dispatcher.registry,
      ∀ x, may entry.2 x
  | .createStream _ | .openUrl _ => w.dispatcher.held = true → ∀ config,
      Legs look env may own w ((Dispatcher.createStream env config).left w)
  | _ => True

/-- Every call is made of legs. -/
theorem Call.legs {w : System κ} (grow : env.Grow) (c : Call κ α)
    (free : c.Free look env may own w) : Legs look env may own w ((c.run env).left w) := by
  cases c with
  | makeSink => exact Legs.quiet .makeSink rfl
  | abandonSink sink => exact Legs.quiet (.abandonSink sink) rfl
  | makeHub => exact Legs.quiet .makeHub rfl
  | attachHub hub sink => exact Legs.quiet (.hub hub _ (.attach sink) rfl) rfl
  | detachHub hub sink => exact Legs.quiet (.hub hub _ (.detach sink) rfl) rfl
  | clearHub hub => exact Legs.quiet (.hub hub _ .clear rfl) rfl
  | fireHub hub event => exact .single (.fireHub hub event)
  | drawId => exact Legs.quiet .drawId rfl
  | makeStream id config bound =>
    exact Legs.quiet (.makeStream id config _ (by cases bound <;> simp)) rfl
  | acquire r => exact Legs.acquire
  | release r => exact Legs.release grow free
  | start r => exact Legs.start grow free
  | attach r sink => exact Legs.attach sink
  | detach r sink => exact Legs.quiet (.detach r sink) rfl
  | receive r event => exact Legs.receive event free
  | readRange r first stop => exact Legs.readRange first stop grow
  | readRanges r ranges => exact Legs.readRanges ranges grow
  | write r data => exact Legs.write data grow
  | close r => exact Legs.close grow free
  | destroy r => exact .single (.destroy r (free w .refl))
  | createStream config => exact Legs.given fun kept => free kept config
  | openUrl url =>
    apply Legs.given
    intro kept
    rw [Dispatcher.openUrl, Act.left_get_bind]
    exact free kept _
  | notify id event => exact Legs.given fun kept => Legs.notify kept id event
  | beginInvoke job => exact Legs.given fun kept => Legs.beginInvoke kept job
  | pollInvoke ticket => exact Legs.pollInvoke ticket
  | beginShutdown => exact Legs.given fun kept => Legs.beginShutdown kept
  | pollShutdown ticket => exact Legs.pollShutdown ticket
  | giveUp keepNotifier => exact Legs.giveUp grow keepNotifier free
  | readEvents label => exact Legs.quiet (.serve _ (.readEvents label)) rfl

/-- What changes leaves the queue of teardowns and the worker's context as they are. -/
structure Dispatcher.Keeps (d e : Dispatcher κ) : Prop where
  teardowns : e.teardowns = d.teardowns
  inContext : e.inContext = d.inContext

namespace Legs

/-! What the dispatcher does where any stream may hand events to its sinks. -/

section

variable (grow : env.Grow) (free : ∀ r x, may r x)
  (hBook : ∀ {w : System κ} {f : Dispatcher κ → Dispatcher κ},
    w.dispatcher.Keeps (f w.dispatcher) → own w (w.updateDispatcher f))

include grow free in
/-- Every call is made of legs if the making of a stream for the worker is. -/
theorem within_call_of
    (made : ∀ {w : System κ} (config : StreamConfig), w.dispatcher.held = true →
      Legs look env may own w ((Dispatcher.createStream env config).left w)) (c : Call κ α) :
    (c.run env).Within (Legs look env may own) := by
  intro w
  apply c.legs grow
  cases c with
  | release r => exact fun _ _ _ => free _ _
  | start r => exact fun _ _ _ _ => free _ _
  | receive r event => exact fun _ _ => free _ _
  | destroy r => exact fun _ _ => free _ _
  | close r => exact fun _ _ _ _ _ _ => free _ _
  | giveUp keepNotifier => exact fun _ _ _ _ => free _ _
  | createStream | openUrl => exact fun held config => made config held
  | _ => trivial

include hBook in
/-- Whatever the dispatcher keeps beside its queue of teardowns is kept in a leg. -/
theorem within_books {f : Dispatcher κ → Dispatcher κ} (keeps : ∀ d : Dispatcher κ, d.Keeps (f d)) :
    (modify (·.updateDispatcher f) : Act κ Unit).Within (Legs look env may own) :=
  fun _ => .single (.own (hBook (keeps _)))

include grow free in
theorem within_release (r : StreamRef) : (r.release env).Within (Legs look env may own) :=
  fun _ => release grow fun _ _ _ => free _ _

include free in
theorem within_destroy (r : StreamRef) : (r.destroy env).Within (Legs look env may own) :=
  fun _ => .single (.destroy r (free _ _))

include hBook in
theorem within_enroll (id : StreamId) (r : StreamRef) :
    (Registry.enroll id r : Act κ Unit).Within (Legs look env may own) :=
  smooth.within_bind (fun _ => acquire) fun _ => within_books hBook fun _ => ⟨rfl, rfl⟩

include hBook in
theorem within_remove (id : StreamId) :
    (Registry.remove id : Act κ (Option StreamRef)).Within (Legs look env may own) := by
  intro w
  simp only [Registry.remove, Act.left_get_bind]
  split
  · exact .refl
  · exact .single (.own (hBook ⟨rfl, rfl⟩))

include hBook in
theorem within_contained {act : Act κ α} (h : act.Within (Legs look env may own)) :
    (Worker.contained act).Within (Legs look env may own) := by
  apply smooth.within_bind (fun w => by rw [Act.left_contain]; exact h w)
  intro ended
  cases ended with
  | ok _ => exact smooth.within_pure ()
  | error _ => exact within_books hBook fun _ => ⟨rfl, rfl⟩

include grow free hBook

theorem within_forget (id : StreamId) :
    (Registry.forget env id).Within (Legs look env may own) := by
  apply smooth.within_bind (within_remove hBook id)
  intro found
  cases found with
  | none => exact smooth.within_pure ()
  | some r => exact within_release grow free r

variable (hEnlist : ∀ {w : System κ} (id : StreamId) (config : StreamConfig), own w { w with
  streams := w.streams ++
    [{ id, config, binding := .worker, status := { seekable := config.seekable } }] })

include hEnlist

/-- A stream for the worker is made in one leg, registered in another one, and started. -/
theorem within_createStream (config : StreamConfig) :
    (Dispatcher.createStream env config).Within (Legs look env may own) := by
  intro w
  simp only [Dispatcher.createStream, Act.left_get_bind]
  split
  · exact .refl
  · refine smooth.within_bind (fun _ => quiet .drawId rfl) (fun id => ?_) w
    refine smooth.within_bind (fun _ => .single (.own (hEnlist id config))) fun r => ?_
    refine smooth.within_bind (within_enroll hBook id r) fun _ => ?_
    refine smooth.within_bind ?_ fun started => ?_
    · refine smooth.within_tryCatch (fun _ => start grow fun _ _ _ _ => free _ _) fun _ => ?_
      exact smooth.within_bind (within_release grow free r) fun _ _ => .refl
    · cases started with
      | ok _ => exact smooth.within_pure _
      | error e =>
        refine smooth.within_bind (within_forget grow free hBook id) fun _ => ?_
        exact smooth.within_bind (within_release grow free r) fun _ => smooth.within_pure _

/-- Every call is made of legs where any stream may hand events to its sinks. -/
theorem within_call (c : Call κ α) : (c.run env).Within (Legs look env may own) :=
  within_call_of grow free (fun config _ => within_createStream grow free hBook hEnlist config _) c

end

end Legs

end HostedStreams
