import HostedStreams.Proofs.Ebb
import HostedStreams.Proofs.Launched
import HostedStreams.Proofs.Passes

/-! What streams and the host say to each other. A stream that was asked for speaks a regular
language: it is opened, then read, written and closed in vain any number of times, and in the end
closed once, if at all. Here is what each move of a life adds to what was said, as long as nobody
asks to cancel the transfer. -/
namespace HostedStreams

/-- A request to the host by its kind, or what the host says to being asked to cancel. -/
inductive Exchange where
  | start
  | requestRanges
  | write
  | cancel
  | refused
  | agreed
  deriving DecidableEq

def HostCall.exchange : HostCall → Exchange
  | .start _ => .start
  | .requestRanges .. => .requestRanges
  | .write _ => .write
  | .cancel => .cancel

/-- Whether data is asked for or handed over. -/
def HostCall.transfers : HostCall → Bool
  | .requestRanges .. | .write _ => true
  | .start _ | .cancel => false

/-- Whether the event is the end of the transfer or of the stream. -/
def Event.final : Event → Bool
  | .completed _ | .failedOpen _ | .destroyed => true
  | _ => false

/-- What is said by the deed, if anything is. -/
def Deed.exchange? : Deed → Option Exchange
  | .asked call => some call.exchange
  | .answered .cancel served => some (if served then .agreed else .refused)
  | .answered .. | .pass .. => none

/-- What the stream and the host said to each other, in order. -/
def Life.exchanges (l : Life) : List Exchange :=
  (l.deeds.filterMap (·.exchange?)).reverse

def System.exchanges (w : System κ) (r : StreamRef) : List Exchange :=
  (w.life r).exchanges

/-- What a stream may say any number of times: it reads, writes, or is closed in vain. -/
def serviceStep : RegularExpression Exchange :=
  .char .requestRanges + .char .write + .char .cancel * .char .refused

/-- What is said in the service of a stream: the transfer is asked for, then come reads, writes and
closes that the host refuses, and at last one close, if any, that it agrees to or never answers. -/
def serviceCourse : RegularExpression Exchange :=
  .char .start * serviceStep.star * (1 + .char .cancel * (1 + .char .agreed))

/-- What was said, and whether the stream may go on asking. -/
inductive Dialogue : List Exchange → Bool → Prop
  | start : Dialogue [.start] true
  | requestRanges {l : List Exchange} : Dialogue l true → Dialogue (l ++ [.requestRanges]) true
  | write {l : List Exchange} : Dialogue l true → Dialogue (l ++ [.write]) true
  | refused {l : List Exchange} : Dialogue l true → Dialogue (l ++ [.cancel, .refused]) true
  | cancel {l : List Exchange} : Dialogue l true → Dialogue (l ++ [.cancel]) false
  | agreed {l : List Exchange} : Dialogue l true → Dialogue (l ++ [.cancel, .agreed]) false

namespace Dialogue

/-- What may be repeated may be said once more. -/
theorem append_mem_star {P Q : RegularExpression Exchange} {l m : List Exchange}
    (hl : l ∈ (P * Q.star).matches') (hm : m ∈ Q.matches') : l ++ m ∈ (P * Q.star).matches' := by
  obtain ⟨first, hFirst, rest, hRest, rfl⟩ := hl
  have hAll : rest ++ m ∈ KStar.kstar Q.matches' * KStar.kstar Q.matches' :=
    Language.append_mem_mul hRest (le_kstar (a := Q.matches') hm)
  rw [kstar_mul_kstar] at hAll
  exact ⟨first, hFirst, rest ++ m, hAll, (List.append_assoc ..).symm⟩

/-- As long as the stream may go on asking, no close was left open. -/
theorem mem_ongoing {l : List Exchange} (h : Dialogue l true) :
    l ∈ (RegularExpression.char Exchange.start * serviceStep.star).matches' := by
  generalize hMore : true = more at h
  induction h with
  | start => exact ⟨_, rfl, [], Language.nil_mem_kstar _, rfl⟩
  | requestRanges _ ih => exact append_mem_star (ih hMore) (.inl (.inl rfl))
  | write _ ih => exact append_mem_star (ih hMore) (.inl (.inr rfl))
  | refused _ ih => exact append_mem_star (ih hMore) (.inr ⟨_, rfl, _, rfl, rfl⟩)
  | cancel | agreed => cases hMore

/-- The host answers a close. -/
theorem answered {l : List Exchange} (h : Dialogue l true) (served : Bool) :
    Dialogue (l ++ [.cancel] ++ [if served then .agreed else .refused]) (!served) := by
  rw [List.append_assoc]
  cases served with
  | true => exact h.agreed
  | false => exact h.refused

/-- A dialogue is said in the service of a stream. -/
theorem mem_serviceCourse {l : List Exchange} {more : Bool} (h : Dialogue l more) :
    l ∈ serviceCourse.matches' := by
  cases more with
  | true =>
    rw [← List.append_nil l]
    exact append_mem_matches h.mem_ongoing (.inl rfl)
  | false =>
    cases h with
    | cancel h =>
      exact append_mem_matches h.mem_ongoing (.inr ⟨_, rfl, [], .inl rfl, rfl⟩)
    | agreed h =>
      exact append_mem_matches h.mem_ongoing (.inr ⟨_, rfl, _, .inr rfl, rfl⟩)

end Dialogue

namespace Life

variable {l m : Life}

/-- A deed adds what is said by it, if anything is. -/
theorem exchanges_of_deeds {d : Deed} (h : m.deeds = d :: l.deeds) :
    m.exchanges = l.exchanges ++ d.exchange?.toList := by
  rw [exchanges, exchanges, h, List.filterMap_cons]
  cases d.exchange? <;> simp

/-- The stream has said nothing that it should not have, and it may go on unless it is spent. -/
structure Civil (l : Life) : Prop where
  fresh : l.status.requested = false → l.status.state = .created → l.exchanges = []
  asked : l.status.requested = true →
    ∃ more, Dialogue l.exchanges more ∧ (more = true ∨ l.status.Spent)

/-- What becomes of what a stream has said: it stays civil, and falls silent once it is spent. -/
structure Proceeds (l m : Life) : Prop where
  civil : l.Civil → m.Civil
  requested : l.status.requested = true → m.status.requested = true
  spent : l.status.requested = true → l.status.Spent →
    m.status.Spent ∧ m.exchanges = l.exchanges

theorem Proceeds.refl (l : Life) : l.Proceeds l :=
  ⟨id, id, fun _ spent => ⟨spent, rfl⟩⟩

/-- A stream that is made has said nothing. -/
theorem Civil.born (seekable : Bool) : Civil ⟨{ seekable }, []⟩ :=
  ⟨fun _ _ => rfl, fun asked => by cases asked⟩

/-- As long as a stream is asked for and not spent, its dialogue goes on. -/
theorem Civil.ongoing (h : l.Civil) (asked : l.status.requested = true)
    (unspent : ¬ l.status.Spent) : Dialogue l.exchanges true := by
  obtain ⟨more, hDialogue, hMore⟩ := h.asked asked
  rwa [hMore.resolve_right unspent] at hDialogue

/-- Nothing is said. -/
theorem Proceeds.of_silent (silent : m.exchanges = l.exchanges)
    (requested : m.status.requested = l.status.requested)
    (spent : l.status.Spent → m.status.Spent)
    (created : m.status.state = .created → l.status.state = .created) : l.Proceeds m where
  civil h := by
    refine ⟨fun new state => ?_, fun asked => ?_⟩
    · rw [silent]
      exact h.fresh (requested ▸ new) (created state)
    · rw [silent]
      exact (h.asked (requested ▸ asked)).imp fun _ hMore => hMore.imp_right (·.imp_right spent)
  requested asked := requested.trans asked
  spent _ hSpent := ⟨spent hSpent, silent⟩

/-- A stream that can be used is read or written. -/
theorem Proceeds.of_usable (usable : l.status.usable = true)
    (requested : m.status.requested = l.status.requested)
    (state : m.status.state = l.status.state)
    (said : Dialogue l.exchanges true → Dialogue m.exchanges true) : l.Proceeds m := by
  have hUnspent := Status.not_spent_of_usable usable
  refine ⟨fun h => ⟨fun _ hState => ?_, fun asked => ?_⟩, fun asked => requested.trans asked,
    fun _ spent => absurd spent hUnspent⟩
  · rw [state, (Status.state_of_usable usable).1] at hState
    cases hState
  · exact ⟨true, said (h.ongoing (requested ▸ asked) hUnspent), .inl rfl⟩

/-- A move without a word leaves the stream civil. -/
theorem Move.proceeds_of_silent (h : l.Move m) (silent : m.exchanges = l.exchanges) :
    l.Proceeds m := by
  -- A deed in which something is said would show in the exchanges.
  have loud {e : Exchange} {s : Status} {d : Deed} (hd : d.exchange? = some e)
      (hSilent : exchanges ⟨s, d :: l.deeds⟩ = l.exchanges) : False := by
    rw [exchanges_of_deeds (m := ⟨s, d :: l.deeds⟩) rfl, hd] at hSilent
    simp at hSilent
  cases h with
  | take takes free =>
    refine .of_silent silent takes.requested (fun spent => absurd spent (takes.not_spent free))
      fun state => ?_
    cases takes <;> simp_all [Status.applyOpened, Status.applyFailedOpen, Status.applyCompleted]
  | tearDown => exact .of_silent silent rfl (fun _ => .inr rfl) fun state => by cases state
  | closing => exact .of_silent silent rfl (fun _ => .inl rfl) id
  | unread | answer => exact .of_silent silent rfl id id
  | start | cancel | read | write | abort | uncancelled => exact (loud rfl silent).elim

/-- A move that asks for something other than a close leaves the stream civil. -/
theorem Move.proceeds_of_asked (h : l.Move m) {call : HostCall}
    (asks : m.deeds = .asked call :: l.deeds) (other : call ≠ .cancel) : l.Proceeds m := by
  have said := exchanges_of_deeds asks
  cases h with
  | start config first state =>
    obtain rfl : .start config = call := Deed.asked.inj (List.cons.inj asks).1
    refine ⟨fun h => ⟨fun new _ => absurd new (by simp), fun _ => ⟨true, ?_, .inl rfl⟩⟩,
      fun _ => rfl, fun asked => ?_⟩
    · rw [said, h.fresh first state]
      exact .start
    · rw [first] at asked
      cases asked
  | read ranges usable =>
    obtain rfl : .requestRanges _ ranges = call := Deed.asked.inj (List.cons.inj asks).1
    exact .of_usable usable rfl rfl fun h => said ▸ h.requestRanges
  | write data usable =>
    obtain rfl : .write data = call := Deed.asked.inj (List.cons.inj asks).1
    exact .of_usable usable rfl rfl fun h => said ▸ h.write
  | cancel | abort => exact absurd (Deed.asked.inj (List.cons.inj asks).1).symm other
  | closing => exact absurd asks (by simp)
  | _ => cases (List.cons.inj asks).1

/-- A host that agrees changes nothing. -/
theorem Move.status_of_agreed (h : l.Move m)
    (answer : m.deeds = .answered .cancel true :: l.deeds) : m.status = l.status := by
  cases h with
  | answer => rfl
  | closing => exact absurd answer (by simp)
  | _ => cases answer

/-! What every single request keeps to, in whatever order things reach the stream. -/

/-- What a stream keeps to when it asks for something. -/
structure Restrained (l : Life) : Prop where
  /-- The transfer is asked for once, if at all. -/
  once : l.asked.countP (·.starts) = l.status.requested.toNat
  /-- As the host is asked to read or to write, the stream is opened and not closing. -/
  usable : ∀ call rest, l.deeds = .asked call :: rest → call.transfers = true →
    l.status.requested = true → l.status.state = .opened ∧ l.status.closing = false
  /-- Nothing is asked for after the end of the transfer or of the stream. -/
  final : ∀ later event standing earlier, l.deeds = later ++ .pass event standing :: earlier →
    event.final = true → ∀ call, .asked call ∉ later
  ended : ∀ event standing, .pass event standing ∈ l.deeds → event.final = true →
    l.status.state.terminal = true

/-- A stream that has done nothing. -/
theorem Restrained.idle {s : Status} (new : s.requested = false) : Restrained ⟨s, []⟩ where
  once := by simp [asked, new]
  usable _ _ h := by cases h
  final later _ _ _ h := by simp at h
  ended _ _ h := by cases h

/-- A move adds one deed at most. -/
theorem Move.deeds (h : l.Move m) : m.deeds = l.deeds ∨ ∃ d, m.deeds = d :: l.deeds := by
  cases h with
  | closing => exact .inl rfl
  | _ => exact .inr ⟨_, rfl⟩

/-- From an end there is no way back, and nothing to ask for. -/
theorem Move.terminal (h : l.Move m) (terminal : l.status.state.terminal = true) :
    m.status.state.terminal = true ∧ ∀ call, m.deeds ≠ .asked call :: l.deeds := by
  have hSettled : l.status.cancellable = false := by simp [Status.cancellable, terminal]
  have hState {s : StreamState} (state : l.status.state = s) (going : s.terminal = false) :
      False := by
    rw [state, going] at terminal
    cases terminal
  cases h with
  | take takes => cases takes <;> rename_i state <;> exact (hState state rfl).elim
  | start config first state => exact (hState state rfl).elim
  | cancel active | abort active =>
    rw [active] at hSettled
    cases hSettled
  | read ranges usable | write data usable =>
    exact (hState (Status.state_of_usable usable).1 rfl).elim
  | tearDown => exact ⟨rfl, fun _ => by simp⟩
  | closing | uncancelled | unread | answer => exact ⟨terminal, fun _ => by simp⟩

/-- Events that end the transfer are fired in a state that ends it. -/
theorem Move.terminal_of_pass (h : l.Move m) {event : Event} {standing : Standing}
    (pass : m.deeds = .pass event standing :: l.deeds) (final : event.final = true) :
    m.status.state.terminal = true := by
  cases h with
  | take takes =>
    obtain ⟨rfl, -⟩ := Deed.pass.inj (List.cons.inj pass).1
    cases takes <;> first | rfl | cases final
  | tearDown => rfl
  | closing => exact absurd pass (by simp)
  | _ => cases (List.cons.inj pass).1

/-- Data is asked for, or handed over, only by a stream that is opened and not closing. -/
theorem Move.usable (h : l.Move m) {call : HostCall} (asks : m.deeds = .asked call :: l.deeds)
    (transfers : call.transfers = true) : m.status.state = .opened ∧ m.status.closing = false := by
  cases h with
  | read ranges usable | write data usable => exact Status.state_of_usable usable
  | start | cancel | abort =>
    obtain rfl := Deed.asked.inj (List.cons.inj asks).1
    cases transfers
  | closing => exact absurd asks (by simp)
  | _ => cases (List.cons.inj asks).1

/-- Only a stream that has nothing to cancel starts to close without a word. -/
theorem Move.settled (h : l.Move m) (same : m.deeds = l.deeds) :
    l.status.cancellable = false ∧ m.status.requested = l.status.requested := by
  cases h with
  | closing live settled => exact ⟨settled, rfl⟩
  | _ => exact absurd same (List.cons_ne_self _ _)

/-- The transfer is asked for where it was not before. -/
theorem Move.once (h : l.Move m) (once : l.asked.countP (·.starts) = l.status.requested.toNat) :
    m.asked.countP (·.starts) = m.status.requested.toNat := by
  cases h with
  | take takes => rw [takes.requested]; exact once
  | start config first =>
    change (HostCall.start config :: l.asked).countP (·.starts) = 1
    rw [List.countP_cons_of_pos rfl, once, first]
    rfl
  | _ => simpa [asked, Deed.asked?, HostCall.starts, Status.register, Status.withdraw,
      Status.tornDown] using once

/-- A move keeps to the restraint. -/
theorem Restrained.move (h : l.Restrained) (hMove : l.Move m) : m.Restrained where
  once := hMove.once h.once
  usable call rest asks transfers asked := by
    rcases hMove.deeds with hSame | ⟨d, hNew⟩
    · obtain ⟨hSettled, hAsked⟩ := hMove.settled hSame
      have hAsked : l.status.requested = true := hAsked.symm.trans asked
      obtain ⟨hOpened, hFree⟩ := h.usable call rest (hSame ▸ asks) transfers hAsked
      simp [Status.cancellable, hAsked, hFree, hOpened, StreamState.terminal] at hSettled
    · obtain ⟨rfl, rfl⟩ := List.cons.inj (hNew.symm.trans asks)
      exact hMove.usable hNew transfers
  final later event standing earlier hDeeds hFinal call hMem := by
    rcases hMove.deeds with hSame | ⟨d, hNew⟩
    · exact h.final later event standing earlier (hSame ▸ hDeeds) hFinal call hMem
    · cases later with
      | nil => cases hMem
      | cons first rest =>
        obtain ⟨rfl, hOld⟩ := List.cons.inj (hNew.symm.trans hDeeds)
        rcases List.mem_cons.1 hMem with hFirst | hRest
        · have hEnded := h.ended event standing (by rw [hOld]; simp) hFinal
          exact (hMove.terminal hEnded).2 call (hFirst ▸ hNew)
        · exact h.final rest event standing earlier hOld hFinal call hRest
  ended event standing hMem hFinal := by
    rcases hMove.deeds with hSame | ⟨d, hNew⟩
    · exact (hMove.terminal (h.ended event standing (hSame ▸ hMem) hFinal)).1
    · rw [hNew] at hMem
      rcases List.mem_cons.1 hMem with rfl | hOld
      · exact hMove.terminal_of_pass hNew hFinal
      · exact (hMove.terminal (h.ended event standing hOld hFinal)).1

/-- Every life is restrained. -/
theorem Lived.restrained (h : l.Lived) : l.Restrained := by
  induction h with
  | born seekable => exact .idle rfl
  | move _ move ih => exact ih.move move

end Life

/-- Streams that were never made are restrained too. -/
theorem System.AllLived.restrained {κ : Client} {w : System κ} (h : w.AllLived) (r : StreamRef) :
    (w.life r).Restrained := by
  by_cases made : w.Has r
  · exact ((h r).1 made).restrained
  · have hLife : w.life r = ⟨Stream.absent.status, []⟩ := by
      rw [← (h r).2 made, ← stream_of_not_has made]
      rfl
    rw [hLife]
    exact .idle rfl

end HostedStreams
