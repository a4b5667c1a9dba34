import HostedStreams.Proofs.Veil

/-! What clients do that go by what the library tells. Whatever they call, and whoever is called
because of that, the mark and the handles of a stream that is torn down make no difference. -/
namespace HostedStreams

variable {κ : Client} {α : Type} {r : StreamRef} {env : Surroundings κ}

namespace Act.Blind

/-- A stream that is made comes behind all others in both systems. -/
theorem makeStream (id : StreamId) (config : StreamConfig) (binding : Binding) :
    Blind r (HostedStreams.makeStream id config binding : Act κ StreamRef) :=
  seeing fun h =>
    ⟨congrArg (fun n => Except.ok (StreamRef.mk n)) h.length.symm, h.append _⟩

theorem drawId : Blind r (HostedStreams.drawId : Act κ StreamId) :=
  apart (fun _ _ => rfl) fun _ => rfl

/-- What only somebody can do who keeps part of the dispatcher. -/
theorem given {kept : Dispatcher κ → Bool} {act : Act κ α} (h : Blind r act) :
    Blind r (act.given kept) := by
  refine seeing fun veiled => ?_
  rw [veiled.dispatcher]
  split
  · exact (bind h fun _ => pure _) _ _ veiled
  · exact pure _ _ _ veiled

/-! What is done about the dispatcher's queue. -/

theorem drawTicket : Blind r (Dispatcher.drawTicket : Act κ Ticket) :=
  apart (fun _ _ => rfl) fun _ => rfl

theorem send (ticket : Ticket) (command : Command κ.Job) :
    Blind r (Dispatcher.send ticket command) :=
  apart (fun _ _ => rfl) fun _ => rfl

theorem poll (ticket : Ticket) : Blind r (Dispatcher.poll ticket : Act κ Mailbox.Sent) :=
  apart (fun _ _ => rfl) fun _ => rfl

theorem notify (id : StreamId) (event : Event) :
    Blind r (Dispatcher.notify id event : Act κ (Except DispatchError Unit)) := by
  have hRefuse (reason : DispatchError) (label : String) :
      Blind r (Dispatcher.refuse id event reason label : Act κ _) :=
    bind (changing fun h => (h.record _).updateDispatcher _) fun _ => pure _
  refine seeing fun h => ?_
  rw [h.dispatcher]
  dsimp only
  split
  · exact hRefuse _ _ _ _ h
  · split
    · exact (bind (changing fun h => (h.record _).updateDispatcher _) fun _ => pure _) _ _ h
    · exact hRefuse _ _ _ _ h
    · exact hRefuse _ _ _ _ h

theorem beginInvoke (job : κ.Job) : Blind r (Dispatcher.beginInvoke job) := by
  refine seeing fun h => ?_
  rw [h.dispatcher]
  split
  · exact pure _ _ _ h
  · refine (bind drawTicket fun ticket => bind (send ticket _) fun sent => ?_) _ _ h
    cases sent <;> exact pure _

theorem pollInvoke (ticket : Ticket) :
    Blind r (Dispatcher.pollInvoke ticket : Act κ (Option (Except DispatchError κ.Value))) := by
  refine bind (poll ticket) fun sent => ?_
  cases sent with
  | closed | full => exact pure _
  | accepted =>
    refine seeing fun h => ?_
    rw [h.dispatcher]
    dsimp only
    split <;> exact pure _ _ _ h

theorem beginShutdown : Blind r (Dispatcher.beginShutdown : Act κ (Option Ticket)) := by
  refine seeing fun h => ?_
  rw [h.dispatcher]
  split
  · exact pure _ _ _ h
  · exact (bind (books _) fun _ => bind drawTicket fun ticket =>
      bind (send ticket _) fun _ => pure _) _ _ h

theorem pollShutdown (ticket : Ticket) :
    Blind r (Dispatcher.pollShutdown ticket : Act κ (Option (Except DispatchError Unit))) := by
  refine bind (poll ticket) fun sent => ?_
  split
  · exact pure _
  · refine seeing fun h => ?_
    rw [h.dispatcher]
    split <;> exact pure _ _ _ h

/-! What is done about the registry. -/

theorem enroll (id : StreamId) (q : StreamRef) : Blind r (Registry.enroll id q : Act κ Unit) :=
  bind (acquire q) fun _ => books _

theorem remove (id : StreamId) : Blind r (Registry.remove id : Act κ (Option StreamRef)) := by
  refine seeing fun h => ?_
  rw [h.dispatcher]
  split
  · exact pure _ _ _ h
  · exact (bind (books _) fun _ => pure _) _ _ h

section

variable (he : env.Blind r)

include he

theorem forget (id : StreamId) : Blind r (Registry.forget env id) := by
  refine bind (remove id) fun found => ?_
  cases found with
  | none => exact pure _
  | some q => exact release he q

theorem abandon : Blind r (Registry.abandon env) := by
  have hAll (all : List (StreamId × StreamRef)) : Blind r
      (all.foldr (fun (entry : StreamId × StreamRef) rest => (entry.2.release env).after rest)
        (Pure.pure ()) : Act κ Unit) := by
    induction all with
    | nil => exact pure _
    | cons entry rest ih => exact after (release he entry.2) ih
  refine seeing fun h => ?_
  rw [h.dispatcher]
  exact (bind (books _) fun _ => hAll _) _ _ h

theorem createStream (config : StreamConfig) : Blind r (Dispatcher.createStream env config) := by
  refine seeing fun h => ?_
  rw [h.dispatcher]
  split
  · exact pure _ _ _ h
  · refine (bind drawId fun id => bind (makeStream id config .worker) fun q =>
      bind (enroll id q) fun _ => bind (tryCatch (start he q) fun halted =>
        bind (release he q) fun _ => halt halted) fun answer => ?_) _ _ h
    cases answer with
    | ok _ => exact pure _
    | error e => exact bind (forget he id) fun _ => bind (release he q) fun _ => pure _

theorem giveUp (keepNotifier : Bool) : Blind r (Dispatcher.giveUp env keepNotifier) := by
  refine bind (books _) fun _ => seeing fun h => ?_
  rw [h.dispatcher]
  split
  · exact abandon he _ _ h
  · exact pure _ _ _ h

/-! Reading and writing. -/

theorem readRange (q : StreamRef) (first stop : UInt64) :
    Blind r (q.readRange env first stop) := by
  by_cases other : q = r
  · subst other
    refine idle (x := .ok (.error (.notOpen "read_range"))) fun {w} torn => ?_
    have hBarrier : (w.status q).readBarrier? "read_range" = some (.notOpen "read_range") := by
      simp [Status.readBarrier?, Status.usable, torn.2]
    simp only [StreamRef.readRange, Act.on_get_bind, hBarrier]
    rfl
  · refine seeing fun h => ?_
    rw [h.status other]
    split
    · exact pure _ _ _ h
    · split
      · exact pure _ _ _ h
      · exact request he other _ _ _ _ h

theorem readRanges (q : StreamRef) (ranges : List Range) : Blind r (q.readRanges env ranges) := by
  by_cases other : q = r
  · subst other
    refine idle (x := .ok (.error (.notOpen "read_ranges"))) fun {w} torn => ?_
    have hBarrier : (w.status q).readBarrier? "read_ranges" = some (.notOpen "read_ranges") := by
      simp [Status.readBarrier?, Status.usable, torn.2]
    simp only [StreamRef.readRanges, Act.on_get_bind, hBarrier]
    rfl
  · refine seeing fun h => ?_
    rw [h.status other]
    split
    · exact pure _ _ _ h
    · split
      · exact pure _ _ _ h
      · split
        · exact pure _ _ _ h
        · exact request he other _ _ _ _ h

theorem write (q : StreamRef) (data : List UInt8) : Blind r (q.write env data) := by
  by_cases other : q = r
  · subst other
    refine idle (x := .ok (.error (.notOpen "write"))) fun {w} torn => ?_
    have hUsable : (w.stream q).status.usable = false := Status.Spent.usable (.inr torn.2)
    simp only [StreamRef.write, Act.on_get_bind, hUsable]
    rfl
  · refine seeing fun h => ?_
    rw [h.stream other]
    dsimp only
    split
    · exact pure _ _ _ h
    · split
      · exact pure _ _ _ h
      · refine (bind (askHost _ _ _ (he.write _ data)) fun answer => ?_) _ _ h
        cases answer <;> exact pure _

/-- No call tells the two systems apart. -/
theorem call (c : Call κ α) : Blind r (c.run env) := by
  cases c with
  | makeSink => exact apart (fun _ _ => rfl) fun _ => rfl
  | abandonSink sink => exact changing (·.updateSink sink _)
  | makeHub => exact apart (fun _ _ => rfl) fun _ => rfl
  | attachHub hub sink => exact listing _ (Source.attach · sink)
  | detachHub hub sink => exact listing _ (Source.detach · sink)
  | clearHub hub => exact clear _
  | fireHub hub event => exact fire he _ event
  | drawId => exact drawId
  | makeStream id config bound => exact makeStream id config _
  | acquire q => exact acquire q
  | release q => exact release he q
  | start q => exact start he q
  | attach q sink => exact attach q sink
  | detach q sink => exact detach q sink
  | receive q event => exact receive he q event
  | readRange q first stop => exact readRange he q first stop
  | readRanges q ranges => exact readRanges he q ranges
  | write q data => exact write he q data
  | close q => exact close he q
  | destroy q => exact destroy he q
  | createStream config => exact given (createStream he config)
  | openUrl url =>
    refine given (seeing fun h => ?_)
    rw [h.dispatcher]
    exact createStream he _ _ _ h
  | notify id event => exact given (notify id event)
  | beginInvoke job => exact given (beginInvoke job)
  | pollInvoke ticket => exact pollInvoke ticket
  | beginShutdown => exact given beginShutdown
  | pollShutdown ticket => exact pollShutdown ticket
  | giveUp keepNotifier => exact giveUp he keepNotifier
  | readEvents label => exact apart (fun _ _ => rfl) fun _ => rfl

end
end Act.Blind

section

-- What a client writes down when it looks around.
variable (look : System κ → κ.Note)

/-- What a client does that goes by what the library tells: the mark and the handles of the stream
once that is torn down are not among what it sees. Otherwise it does what clients do, and makes
calls in surroundings out of `below`. -/
inductive Modest (r : StreamRef) (below : Surroundings κ → Prop) : {α : Type} → Act κ α → Prop
  | pure {α : Type} (a : α) : Modest r below (pure a)
  | bind {α β : Type} {a : Act κ α} {f : α → Act κ β} :
      Modest r below a → (∀ x, Modest r below (f x)) → Modest r below (a >>= f)
  | see {α : Type} (f : System κ → α) (told : ∀ {w v}, w.Veiled r v → f v = f w) :
      Modest r below (do return f (← get))
  | remember (f : κ.State → κ.State) : Modest r below (modify (·.updateClient f))
  | note (told : ∀ {w v}, w.Veiled r v → look v = look w) :
      Modest r below (modify fun w => w.record (.note (look w)))
  | panic {α : Type} (payload : Payload) : Modest r below (throw (.panic payload) : Act κ α)
  | contain {α : Type} {a : Act κ α} : Modest r below a → Modest r below a.contain
  | after {α : Type} {a : Act κ α} {last : Act κ Unit} :
      Modest r below a → Modest r below last → Modest r below (a.after last)
  | call {α : Type} {env : Surroundings κ} (usable : below env) (c : Call κ α) :
      Modest r below (c.run env)

/-- Surroundings in which a client goes by what the library tells whenever it is called, and does so
too when it is called because of that, at whatever depth. -/
inductive Surroundings.Modest (r : StreamRef) : Surroundings κ → Prop
  | intro {env : Surroundings κ} (below : Surroundings κ → Prop)
      (modest : ∀ lower, below lower → Modest r lower)
      (deliver : ∀ sink origin event,
        HostedStreams.Modest look r below (env.deliver sink origin event))
      (start : ∀ id config, HostedStreams.Modest look r below (env.host.start id config))
      (requestRanges : ∀ id request ranges,
        HostedStreams.Modest look r below (env.host.requestRanges id request ranges))
      (write : ∀ id data, HostedStreams.Modest look r below (env.host.write id data))
      (cancel : ∀ id, HostedStreams.Modest look r below (env.host.cancel id))
      (isCurrent : HostedStreams.Modest look r below env.isCurrent)
      (scheduleTeardown : ∀ id, HostedStreams.Modest look r below (env.scheduleTeardown id))
      (work : ∀ job, HostedStreams.Modest look r below (env.work job)) : Modest r env

end

variable {look : System κ → κ.Note} {below : Surroundings κ → Prop}

/-- Whoever goes by what the library tells does not tell the two systems apart. -/
theorem Modest.blind (hBelow : ∀ env, below env → env.Blind r) {a : Act κ α}
    (h : Modest look r below a) : a.Blind r := by
  induction h with
  | pure a => exact .pure a
  | bind _ _ iha ihf => exact .bind iha ihf
  | see f told => exact .seeing fun h => ⟨congrArg Except.ok (told h).symm, h⟩
  | remember f => exact .changing fun h => h.apart (fun _ _ => rfl) rfl
  | note told =>
    exact .changing fun h => by
      rw [told h]
      exact h.record _
  | panic payload => exact .halt _
  | contain _ ih => exact .contain ih
  | after _ _ iha ihl => exact .after iha ihl
  | call usable c => exact .call (hBelow _ usable) c

/-- It is what clients do. -/
theorem Modest.conduct {lower : Surroundings κ → Prop} (hBelow : ∀ env, below env → lower env)
    {a : Act κ α} (h : Modest look r below a) : Conduct look lower a := by
  induction h with
  | pure a => exact .pure a
  | bind _ _ iha ihf => exact .bind iha ihf
  | see f => exact .see f
  | remember f => exact .remember f
  | note => exact .note
  | panic payload => exact .panic payload
  | contain _ ih => exact .contain ih
  | after _ _ iha ihl => exact .after iha ihl
  | call usable c => exact .call (hBelow _ usable) c

namespace Surroundings.Modest

/-- Whoever goes by what the library tells does not see through the veil. -/
theorem blind (h : env.Modest look r) : env.Blind r := by
  induction h with
  | intro below _ deliver start requestRanges write cancel isCurrent scheduleTeardown work ih =>
    exact {
      deliver := fun sink origin event => (deliver sink origin event).blind ih
      start := fun id config => (start id config).blind ih
      requestRanges := fun id request ranges => (requestRanges id request ranges).blind ih
      write := fun id data => (write id data).blind ih
      cancel := fun id => (cancel id).blind ih
      isCurrent := isCurrent.blind ih
      scheduleTeardown := fun id => (scheduleTeardown id).blind ih
      work := fun job => (work job).blind ih }

/-- A client that goes by what the library tells serves as clients do. -/
theorem serves (h : env.Modest look r) : env.Serves look Surroundings.any := by
  induction h with
  | intro below _ deliver start requestRanges write cancel isCurrent scheduleTeardown work ih =>
    refine .intro (Serves look any) (fun _ h => h) ?_ trivial
    exact {
      deliver := fun sink origin event => (deliver sink origin event).conduct ih
      start := fun id config => (start id config).conduct ih
      requestRanges := fun id request ranges => (requestRanges id request ranges).conduct ih
      write := fun id data => (write id data).conduct ih
      cancel := fun id => (cancel id).conduct ih
      isCurrent := isCurrent.conduct ih
      scheduleTeardown := fun id => (scheduleTeardown id).conduct ih
      work := fun job => (work job).conduct ih }

end Surroundings.Modest
end HostedStreams
