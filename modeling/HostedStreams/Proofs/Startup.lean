import HostedStreams.Proofs.Conduct
import HostedStreams.Proofs.Overrides
import HostedStreams.Settings.Codec

/-! What it takes to start a dispatcher. Validation knows the least capacity that a
queue can be made with, and not the largest one. -/
namespace HostedStreams

variable {κ : Client}

namespace Settings

/-- Settings that were loaded were validated. -/
theorem validate_of_load {document : String} {s : Settings} (h : load document = .ok s) :
    s.validate = .ok () := by
  unfold load at h
  split at h
  · cases h
  · rename_i written _
    cases hValid : written.validate with
    | error e =>
      rw [hValid] at h
      cases h
    | ok =>
      rw [hValid] at h
      cases h
      exact hValid

/-- Settings that were found good, in whichever way they came about. -/
inductive Accepted : Settings → Prop
  | validated {s : Settings} (h : s.validate = .ok ()) : Accepted s
  | loaded {document : String} {s : Settings} (h : load document = .ok s) : Accepted s
  | overridden {lookup : String → Option String} {s t : Settings}
      (h : s.applyEnvironment lookup = (.ok (), t)) : Accepted t

/-- Settings that were found good were validated. -/
theorem Accepted.validate {s : Settings} (h : s.Accepted) : s.validate = .ok () := by
  cases h with
  | validated h => exact h
  | loaded h => exact validate_of_load h
  | overridden h => exact validate_of_applyEnvironment h

end Settings

/-- How a start ends where something can run the worker, by the capacity alone. -/
theorem Dispatcher.on_start {s : Settings} (positive : s.dispatch.queueCapacity ≠ 0)
    (w : System κ) :
    (Dispatcher.start s true).on w =
      if s.dispatch.queueCapacity.toNat ≤ maxCapacity then
        (.ok (.ok ()), w.updateDispatcher fun _ =>
          { phase := .running, mailbox := { capacity := s.dispatch.queueCapacity.toNat }
            defaults := s.streams, held := true, notifierHeld := true })
      else
        (.error (.panic (.text
          "a semaphore may not have more than MAX_PERMITS permits (2305843009213693951)")), w) := by
  have hPositive : s.dispatch.queueCapacity.toNat ≠ 0 := fun h =>
    positive (UInt64.toNat_inj.mp h)
  unfold Dispatcher.start
  dsimp only
  rw [if_neg hPositive, if_neg (by decide)]
  by_cases hFits : s.dispatch.queueCapacity.toNat ≤ maxCapacity
  · rw [if_neg (Nat.not_lt.mpr hFits), if_pos hFits]
    rfl
  · rw [if_pos (Nat.lt_of_not_le hFits), if_neg hFits]
    rfl

/-- Where something can run the worker, settings that were found good start a dispatcher, with
an empty queue of the capacity they name, as long as a queue can have that capacity at all.
Beyond that bound, which validation does not know, the start panics and changes nothing. -/
theorem starts_of_accepted {s : Settings} (accepted : s.Accepted) (w : System κ) :
    (s.dispatch.queueCapacity.toNat ≤ Dispatcher.maxCapacity →
      (Dispatcher.start s true).Ends w fun answer v =>
        answer = .ok () ∧ v.dispatcher.phase = .running ∧ v.dispatcher.stopped = false ∧
          v.dispatcher.mailbox = { capacity := s.dispatch.queueCapacity.toNat }) ∧
    (Dispatcher.maxCapacity < s.dispatch.queueCapacity.toNat →
      (Dispatcher.start s true).on w =
        (.error (.panic (.text
          "a semaphore may not have more than MAX_PERMITS permits (2305843009213693951)")),
        w)) := by
  have hPositive := UInt64.pos_iff_ne_zero.1 (Settings.validate_ok_iff.mp accepted.validate).1
  have hStart := Dispatcher.on_start hPositive w
  constructor
  · intro fits
    rw [if_pos fits] at hStart
    exact ⟨_, _, hStart, rfl, rfl, rfl, rfl⟩
  · intro exceeds
    rwa [if_neg (Nat.not_le.mpr exceeds)] at hStart

/-- Settings whose queue is one longer than a queue can be. -/
def Settings.immense : Settings :=
  { dispatch := { queueCapacity := 2305843009213693952 } }

/-- The default settings start, and `immense` ones, which validation lets through, do not. -/
theorem starts_of_accepted_immense :
    ((Dispatcher.start {} true).Ends ({ client := () } : System Client.plain) fun answer v =>
      answer = .ok () ∧ v.dispatcher.phase = .running ∧ v.dispatcher.stopped = false ∧
        v.dispatcher.mailbox = { capacity := 256 }) ∧
    (Dispatcher.start .immense true).on ({ client := () } : System Client.plain) =
      (.error (.panic (.text
        "a semaphore may not have more than MAX_PERMITS permits (2305843009213693951)")),
        { client := () }) :=
  ⟨(starts_of_accepted (.validated (by rfl)) _).1 (by decide),
    (starts_of_accepted (s := .immense) (.validated (by rfl)) _).2 (by decide)⟩

/-- Not all settings that are found good can be started with: nothing keeps a variable from
making the queue longer than a queue can be. -/
theorem not_starts_immense :
    ¬ ∀ s : Settings, s.Accepted → ∀ w : System Client.plain,
      ∃ v, (Dispatcher.start s true).on w = (.ok (.ok ()), v) := by
  intro starts
  have hOverridden : Settings.applyEnvironment (fun name =>
      if name = "HOSTSTREAM_QUEUE_CAPACITY" then some "2305843009213693952" else none) {} =
      (.ok (), .immense) := by rfl
  obtain ⟨v, hStart⟩ := starts _ (.overridden hOverridden) { client := () }
  cases hStart

end HostedStreams
