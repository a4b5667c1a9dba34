import HostedStreams.Proofs.Lives
import Mathlib.Computability.RegularExpressions

/-! The order in which a stream fires events. The states form an automaton: every pass
takes the stream into the next state, nothing else but an unfired change of its other
parts happens to it, and the words that the automaton reads make up a regular language. -/
namespace HostedStreams

variable {κ : Client}

/-- The state in which a stream fires events of the kind. -/
def EventKind.firedIn : EventKind → StreamState
  | .created => .opening
  | .failedOpen => .failedOpen
  | .opened | .dataArrived => .opened
  | .completed => .completed
  | .destroyed => .destroyed

/-- What matches the expression, or nothing. -/
def perhaps (P : RegularExpression EventKind) : RegularExpression EventKind :=
  1 + P

/-- The course of a transfer: it is created, then it fails to open, or it is opened,
receives any amount of data and completes. It can end short of each of these. -/
def transferCourse : RegularExpression EventKind :=
  perhaps (.char .created *
    perhaps (.char .failedOpen +
      .char .opened * (RegularExpression.char .dataArrived).star * perhaps (.char .completed)))

/-- The order of a stream's events: those of its transfer, and the teardown as the end. -/
def lifeCourse : RegularExpression EventKind :=
  transferCourse * perhaps (.char .destroyed)

namespace System

/-- The passes that the stream has started, in order, and how it stood at the start of each. -/
def passes (w : System κ) (r : StreamRef) : List (Event × Standing) :=
  w.journal.filterMap fun
    | .pass o event standing => if o = .stream r then some (event, standing) else none
    | _ => none

end System

/-- What is promised of a stream's passes. -/
structure Orderly (passes : List (Event × Standing)) : Prop where
  /-- The kinds of the events are the beginning of a course of life. -/
  course : ∃ word ∈ lifeCourse.matches', passes.map (·.1.kind) <+: word
  /-- Each event is fired in the state that goes with it. -/
  standing : ∀ pass ∈ passes, pass.2 = .state pass.1.kind.firedIn
  /-- Data and completion come only to a stream that was opened, once. -/
  opened : ∀ before kind after, passes.map (·.1.kind) = before ++ kind :: after →
    kind = .completed ∨ kind = .dataArrived → before.count .opened = 1
  /-- Nothing follows the teardown. -/
  final : ∀ before after, passes.map (·.1.kind) = before ++ .destroyed :: after → after = []
  /-- There is one teardown at most. -/
  once : (passes.map (·.1.kind)).count .destroyed ≤ 1

/-- What matches two expressions in a row is a match of both in a row. -/
theorem append_mem_matches {α : Type} {P Q : RegularExpression α} {l m : List α}
    (hl : l ∈ P.matches') (hm : m ∈ Q.matches') : l ++ m ∈ (P * Q).matches' :=
  Language.append_mem_mul hl hm

section

variable {P : RegularExpression EventKind} {l : List EventKind}

theorem nil_mem_perhaps : [] ∈ (perhaps P).matches' :=
  .inl rfl

theorem mem_perhaps (h : l ∈ P.matches') : l ∈ (perhaps P).matches' :=
  .inr h

/-- Any number of events of a kind match as often as one likes. -/
theorem replicate_mem_star (n : Nat) (kind : EventKind) :
    List.replicate n kind ∈ (RegularExpression.char kind).star.matches' := by
  rw [RegularExpression.matches'_star, Language.mem_kstar]
  refine ⟨List.replicate n [kind], ?_, ?_⟩
  · simp [List.flatten_replicate_singleton]
  · intro word hWord
    rw [List.eq_of_mem_replicate hWord]
    exact rfl

end

/-- What a stream in the given state has fired, kind by kind. -/
inductive Course : List EventKind → StreamState → Prop
  | made : Course [] .created
  | created {l : List EventKind} : Course l .created → Course (l ++ [.created]) .opening
  | failedOpen {l : List EventKind} : Course l .opening → Course (l ++ [.failedOpen]) .failedOpen
  | opened {l : List EventKind} : Course l .opening → Course (l ++ [.opened]) .opened
  | dataArrived {l : List EventKind} : Course l .opened → Course (l ++ [.dataArrived]) .opened
  | completed {l : List EventKind} : Course l .opened → Course (l ++ [.completed]) .completed
  | destroyed {l : List EventKind} {s : StreamState} :
      Course l s → s ≠ .destroyed → Course (l ++ [.destroyed]) .destroyed

namespace Course

theorem eq_nil {l : List EventKind} (h : Course l .created) : l = [] := by
  cases h
  rfl

theorem eq_created {l : List EventKind} (h : Course l .opening) : l = [.created] := by
  cases h with
  | created h => rw [h.eq_nil]; rfl

theorem eq_opened {l : List EventKind} (h : Course l .opened) :
    ∃ n, l = [.created] ++ ([.opened] ++ List.replicate n .dataArrived) := by
  generalize hState : StreamState.opened = s at h
  induction h with
  | opened h => exact ⟨0, by rw [h.eq_created]; rfl⟩
  | dataArrived h ih =>
    obtain ⟨n, rfl⟩ := ih hState
    exact ⟨n + 1, by rw [List.replicate_succ']; simp⟩
  | _ => cases hState

/-- A stream that is not torn down has fired the events of a transfer. -/
theorem mem_transferCourse {l : List EventKind} {s : StreamState} (h : Course l s)
    (live : s ≠ .destroyed) : l ∈ transferCourse.matches' := by
  have hCreated : [EventKind.created] ∈ (RegularExpression.char EventKind.created).matches' := rfl
  have hOpened (n : Nat) : [EventKind.opened] ++ List.replicate n .dataArrived ∈
      (RegularExpression.char EventKind.opened *
        (RegularExpression.char EventKind.dataArrived).star).matches' :=
    append_mem_matches rfl (replicate_mem_star n _)
  cases s with
  | created =>
    rw [h.eq_nil]
    exact nil_mem_perhaps
  | opening =>
    rw [h.eq_created]
    exact mem_perhaps (append_mem_matches hCreated nil_mem_perhaps)
  | failedOpen =>
    cases h with
    | failedOpen h =>
      rw [h.eq_created]
      exact mem_perhaps (append_mem_matches hCreated (mem_perhaps (.inl rfl)))
  | opened =>
    obtain ⟨n, rfl⟩ := h.eq_opened
    have hPart := append_mem_matches (hOpened n) (nil_mem_perhaps (P := .char .completed))
    rw [List.append_nil] at hPart
    exact mem_perhaps (append_mem_matches hCreated (mem_perhaps (.inr hPart)))
  | completed =>
    cases h with
    | completed h =>
      obtain ⟨n, rfl⟩ := h.eq_opened
      have hPart := append_mem_matches (hOpened n) (mem_perhaps (P := .char .completed) rfl)
      rw [List.append_assoc]
      exact mem_perhaps (append_mem_matches hCreated (mem_perhaps (.inr hPart)))
  | destroyed => exact absurd rfl live

/-- In whichever state a stream is, what it has fired is the course of a life. -/
theorem mem_lifeCourse {l : List EventKind} {s : StreamState} (h : Course l s) :
    l ∈ lifeCourse.matches' := by
  by_cases live : s = .destroyed
  · subst live
    cases h with
    | destroyed h live => exact append_mem_matches (h.mem_transferCourse live) (mem_perhaps rfl)
  · rw [← List.append_nil l]
    exact append_mem_matches (h.mem_transferCourse live) nil_mem_perhaps

/-- A stream that is opened or completed was opened once. -/
theorem count_opened {l : List EventKind} {s : StreamState} (h : Course l s)
    (hState : s = .opened ∨ s = .completed) : l.count .opened = 1 := by
  have hOpened {l : List EventKind} (h : Course l .opened) : l.count .opened = 1 := by
    obtain ⟨n, rfl⟩ := h.eq_opened
    simp [List.count_replicate]
  rcases hState with rfl | rfl
  · exact hOpened h
  · cases h with
    | completed h => simpa using hOpened h

/-- As long as a stream lives it has not fired the end. -/
theorem not_mem_destroyed {l : List EventKind} {s : StreamState} (h : Course l s)
    (live : s ≠ .destroyed) : .destroyed ∉ l := by
  induction h with
  | made => simp
  | destroyed => exact absurd rfl live
  | _ _ ih => simpa using ih (by simp)

/-- A place in a list with a new end is the new end, or a place that was there. -/
theorem eq_append_cons_of_concat {l before after : List EventKind} {new kind : EventKind}
    (h : l ++ [new] = before ++ kind :: after) :
    (after = [] ∧ before = l ∧ kind = new) ∨ ∃ rest, l = before ++ kind :: rest := by
  rcases List.eq_nil_or_concat after with rfl | ⟨rest, last, rfl⟩
  · obtain ⟨rfl, hLast⟩ := List.append_inj' h rfl
    exact .inl ⟨rfl, rfl, (List.cons.inj hLast).1.symm⟩
  · rw [List.concat_eq_append, ← List.cons_append, ← List.append_assoc] at h
    exact .inr ⟨rest, (List.append_inj' h rfl).1⟩

/-- A stream opens before it receives data or completes. -/
theorem opened_before {l : List EventKind} {s : StreamState} (h : Course l s)
    {before after : List EventKind} {kind : EventKind} (hPlace : l = before ++ kind :: after)
    (hKind : kind = .completed ∨ kind = .dataArrived) : before.count .opened = 1 := by
  induction h generalizing after with
  | made => simp at hPlace
  | dataArrived h ih | completed h ih =>
    rcases eq_append_cons_of_concat hPlace with ⟨-, rfl, -⟩ | ⟨rest, hOld⟩
    · exact h.count_opened (.inl rfl)
    · exact ih hOld
  | created _ ih | failedOpen _ ih | opened _ ih | destroyed _ _ ih =>
    rcases eq_append_cons_of_concat hPlace with ⟨-, -, rfl⟩ | ⟨rest, hOld⟩
    · simp at hKind
    · exact ih hOld

/-- Nothing is fired after the end. -/
theorem final {l : List EventKind} {s : StreamState} (h : Course l s)
    {before after : List EventKind} (hPlace : l = before ++ .destroyed :: after) : after = [] := by
  by_cases live : s = .destroyed
  · subst live
    cases h with
    | destroyed h live =>
      rcases eq_append_cons_of_concat hPlace with ⟨hAfter, -, -⟩ | ⟨rest, hOld⟩
      · exact hAfter
      · exact absurd (hOld ▸ by simp) (h.not_mem_destroyed live)
  · exact absurd (hPlace ▸ by simp) (h.not_mem_destroyed live)

/-- The end is fired once, by the time the stream is torn down. -/
theorem count_destroyed {l : List EventKind} {s : StreamState} (h : Course l s) :
    l.count .destroyed = if s = .destroyed then 1 else 0 := by
  split
  · rename_i hState
    subst hState
    cases h with
    | destroyed h live =>
      rw [List.count_append, List.count_eq_zero.2 (h.not_mem_destroyed live)]
      rfl
  · rename_i live
    exact List.count_eq_zero.2 (h.not_mem_destroyed live)

end Course

/-- The pass that a deed is. -/
def Deed.pass? : Deed → Option (Event × Standing)
  | .pass event standing => some (event, standing)
  | _ => none

namespace Life

/-- The passes of a life, in order. -/
def passes (l : Life) : List (Event × Standing) :=
  (l.deeds.filterMap Deed.pass?).reverse

/-- What the stream has fired leads to the state in which it is, pass by pass. -/
structure Coursed (l : Life) : Prop where
  course : Course (l.passes.map (·.1.kind)) l.status.state
  standing : ∀ pass ∈ l.passes, pass.2 = .state pass.1.kind.firedIn

/-- One more pass. -/
theorem Coursed.pass {l : Life} (h : l.Coursed) {event : Event} {t : Status}
    (hCourse : Course (l.passes.map (·.1.kind) ++ [event.kind]) t.state)
    (hStanding : t.state = event.kind.firedIn) :
    Coursed ⟨t, .pass event (.state t.state) :: l.deeds⟩ := by
  have hPasses : passes ⟨t, .pass event (.state t.state) :: l.deeds⟩ =
      l.passes ++ [(event, .state t.state)] := by
    simp [passes, Deed.pass?]
  constructor
  · rw [hPasses]
    simpa using hCourse
  · intro pass hPass
    rw [hPasses] at hPass
    rcases List.mem_append.1 hPass with hOld | hNew
    · exact h.standing pass hOld
    · obtain rfl := List.mem_singleton.1 hNew
      rw [hStanding]

/-- A move that is no pass and leaves the state alone. -/
theorem Coursed.same {l m : Life} (h : l.Coursed) (hPasses : m.passes = l.passes)
    (hState : m.status.state = l.status.state) : m.Coursed :=
  ⟨by rw [hPasses, hState]; exact h.course, by rw [hPasses]; exact h.standing⟩

/-- Every pass of a move takes the stream into the next state. -/
theorem Coursed.move {l m : Life} (h : l.Coursed) (move : l.Move m) : m.Coursed := by
  cases move with
  | take takes =>
    have hCourse := h.course
    cases takes with
    | created state => exact h.pass (.created (state ▸ hCourse)) rfl
    | opened p state => exact h.pass (.opened (state ▸ hCourse)) rfl
    | failedOpen p state => exact h.pass (.failedOpen (state ▸ hCourse)) rfl
    | dataArrived p state =>
      rw [state] at hCourse
      exact h.pass (by simpa [state] using .dataArrived hCourse) state
    | completed p state => exact h.pass (.completed (state ▸ hCourse)) rfl
  | tearDown live => exact h.pass (.destroyed h.course live) rfl
  | _ => exact h.same rfl rfl

/-- Every life follows its course. -/
theorem Lived.coursed {l : Life} (h : l.Lived) : l.Coursed := by
  induction h with
  | born seekable => exact ⟨.made, by simp [passes]⟩
  | move _ move ih => exact ih.move move

/-- What is promised of the passes follows from the course. -/
theorem Coursed.orderly {l : Life} (h : l.Coursed) : Orderly l.passes where
  course := ⟨_, h.course.mem_lifeCourse, List.prefix_rfl⟩
  standing := h.standing
  opened _ _ _ := h.course.opened_before
  final _ _ := h.course.final
  once := by
    rw [h.course.count_destroyed]
    split <;> simp

end Life

/-- The passes can be read off the deeds. -/
theorem System.passes_eq (w : System κ) (r : StreamRef) : w.passes r = (w.life r).passes := by
  simp only [passes, Life.passes, life, journal, List.filterMap_reverse, List.filterMap_filterMap]
  congr 2
  funext e
  cases e <;> simp only [Entry.deed?, Option.bind_none]
  all_goals split <;> rfl

/-- Streams that live fire in order, and those that were never made fire nothing. -/
theorem System.AllLived.orderly {w : System κ} (h : w.AllLived) (r : StreamRef) :
    Orderly (w.passes r) := by
  rw [w.passes_eq]
  by_cases made : w.Has r
  · exact ((h r).1 made).coursed.orderly
  · have hNone : (w.life r).passes = [] := by simp [Life.passes, (h r).2 made]
    rw [hNone]
    exact (Life.Lived.born false).coursed.orderly

/-- Whatever clients do, at any depth of calls inside calls, every stream fires its events
in the order of a course of life, and each in the state that goes with it. -/
theorem passes_orderly :
    Always (κ := κ) Surroundings.any fun w => ∀ r, Orderly (w.passes r) :=
  (Always.lived _).mono fun _ => System.AllLived.orderly

/-- A transfer from its start to its end. -/
def transfer : List ((α : Type) × Call Client.plain α) :=
  [⟨_, .makeStream (.drawn 0) { url := "" } false⟩, ⟨_, .start ⟨0⟩⟩, ⟨_, .receive ⟨0⟩ .created⟩,
    ⟨_, .receive ⟨0⟩ (.opened {})⟩, ⟨_, .receive ⟨0⟩ (.dataArrived ⟨0, [1], none⟩)⟩,
    ⟨_, .receive ⟨0⟩ (.completed ⟨true⟩)⟩, ⟨_, .close ⟨0⟩⟩]

/-- Such a transfer fires all of its events, one pass each. -/
theorem passes_orderly_transfer :
    ((Surroundings.obliging.played transfer).passes ⟨0⟩).map (·.1.kind) =
      [.created, .opened, .dataArrived, .completed, .destroyed] ∧
    Orderly ((Surroundings.obliging.played transfer).passes ⟨0⟩) :=
  ⟨by decide +kernel, (passes_orderly _ _ (Surroundings.reached_played
    (Surroundings.serves_obliging trivial) transfer)).1 ⟨0⟩⟩

end HostedStreams
