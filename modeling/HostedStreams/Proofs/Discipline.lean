import HostedStreams.Proofs.Roster

/-! Clients that keep to a discipline. Which calls such a client makes depends on how the system is
when it makes them, and this is so for whoever is called on its behalf, at any depth. Its runs are
among all runs, so what holds of those holds of its own. -/
namespace HostedStreams

variable {κ : Client} {α β : Type}

/-- The calls that are made where the system is as given. -/
structure Discipline (κ : Client) where
  permits : {α : Type} → System κ → Call κ α → Bool

/-- The call, made only where the discipline permits it. -/
def Call.under (d : Discipline κ) (env : Surroundings κ) (c : Call κ α) : Act κ (Option α) := do
  if d.permits (← get) c then return some (← c.run env) else return none

/-- A call that is permitted is made. -/
theorem Call.left_under {d : Discipline κ} {env : Surroundings κ} {c : Call κ α} {w : System κ}
    (permitted : d.permits w c = true) : (c.under d env).left w = (c.run env).left w := by
  rw [under, Act.left_get_bind, if_pos permitted, Act.left_bind_pure]

/-- What can be done in some surroundings can be done in more. -/
theorem Conduct.mono {look : System κ → κ.Note} {below more : Surroundings κ → Prop}
    (hMore : ∀ {env}, below env → more env) {a : Act κ α} (h : Conduct look below a) :
    Conduct look more a := by
  induction h with
  | pure x => exact .pure x
  | bind _ _ iha ihf => exact .bind iha ihf
  | see f => exact .see f
  | remember f => exact .remember f
  | note => exact .note
  | panic payload => exact .panic payload
  | contain _ ih => exact .contain ih
  | after _ _ iha ihl => exact .after iha ihl
  | call usable c => exact .call (hMore usable) c

namespace Discipline

section

variable (d : Discipline κ) (look : System κ → κ.Note)

/-- What a client does while it has control, if it keeps to the discipline. -/
inductive Conduct (below : Surroundings κ → Prop) : {α : Type} → Act κ α → Prop
  | alone {α : Type} {a : Act κ α} (h : HostedStreams.Conduct look (fun _ => False) a) :
      Conduct below a
  | bind {α β : Type} {a : Act κ α} {f : α → Act κ β} :
      Conduct below a → (∀ x, Conduct below (f x)) → Conduct below (a >>= f)
  | contain {α : Type} {a : Act κ α} : Conduct below a → Conduct below a.contain
  | after {α : Type} {a : Act κ α} {last : Act κ Unit} :
      Conduct below a → Conduct below last → Conduct below (a.after last)
  | call {α : Type} {env : Surroundings κ} (usable : below env) (c : Call κ α) :
      Conduct below (c.under d env)

/-- Whatever the client does when it is called keeps to the discipline. -/
structure Above (below : Surroundings κ → Prop) (env : Surroundings κ) : Prop where
  deliver : ∀ sink origin event, d.Conduct look below (env.deliver sink origin event)
  start : ∀ id config, d.Conduct look below (env.host.start id config)
  requestRanges : ∀ id request ranges,
    d.Conduct look below (env.host.requestRanges id request ranges)
  write : ∀ id data, d.Conduct look below (env.host.write id data)
  cancel : ∀ id, d.Conduct look below (env.host.cancel id)
  isCurrent : d.Conduct look below env.isCurrent
  scheduleTeardown : ∀ id, d.Conduct look below (env.scheduleTeardown id)
  work : ∀ job, d.Conduct look below (env.work job)

/-- Surroundings in which a client serves that keeps to the discipline at every depth of calls. -/
inductive Serves (manners : Surroundings κ → Prop) : Surroundings κ → Prop
  | intro {env : Surroundings κ} (below : Surroundings κ → Prop)
      (serves : ∀ lower, below lower → Serves manners lower)
      (above : d.Above look below env) (mannered : manners env) : Serves manners env

/-- A run of a client that keeps to the discipline. -/
inductive Run (manners : Surroundings κ → Prop) (w : System κ) : System κ → Prop
  | refl : Run manners w w
  | act {α : Type} {v : System κ} {a : Act κ α} (before : Run manners w v)
      (conduct : d.Conduct look (d.Serves look manners) a) : Run manners w (a.left v)
  | start {v : System κ} (before : Run manners w v)
      (unstarted : v.dispatcher.phase = .unstarted) (settings : Settings) (executor : Bool) :
      Run manners w ((Dispatcher.start settings executor).left v)
  | turn {v : System κ} {env : Surroundings κ} (before : Run manners w v)
      (serves : d.Serves look manners env) : Run manners w ((Worker.step env).left v)

/-- The system comes about from nothing in such a run. -/
def Reached (manners : Surroundings κ → Prop) (w : System κ) : Prop :=
  ∃ client, d.Run look manners { client } w

end

variable {d : Discipline κ} {look : System κ → κ.Note} {manners below : Surroundings κ → Prop}
  {R : System κ → System κ → Prop} {env : Surroundings κ}

/-! What a client does that keeps to a discipline is conduct, so its runs are runs. -/

/-- To keep to a discipline is conduct of a kind. -/
theorem Conduct.conduct {more : Surroundings κ → Prop} (hMore : ∀ {env}, below env → more env)
    {a : Act κ α} (h : d.Conduct look below a) : HostedStreams.Conduct look more a := by
  induction h with
  | alone h => exact h.mono False.elim
  | bind _ _ iha ihf => exact .bind iha ihf
  | contain _ ih => exact .contain ih
  | after _ _ iha ihl => exact .after iha ihl
  | @call _ env usable c =>
    have hSee : HostedStreams.Conduct look more (do return d.permits (← get) c : Act κ Bool) :=
      .see fun w => d.permits w c
    refine .bind hSee (f := fun permitted =>
      if permitted then do return some (← c.run env) else return none) fun permitted => ?_
    cases permitted with
    | true => exact .bind (.call (hMore usable) c) fun x => .pure (some x)
    | false => exact .pure none

/-- Surroundings that keep to a discipline are surroundings of a kind. -/
theorem Above.above {more : Surroundings κ → Prop} (hMore : ∀ {env}, below env → more env)
    (h : d.Above look below env) : env.Above look more where
  deliver sink origin event := (h.deliver sink origin event).conduct hMore
  start id config := (h.start id config).conduct hMore
  requestRanges id request ranges := (h.requestRanges id request ranges).conduct hMore
  write id data := (h.write id data).conduct hMore
  cancel id := (h.cancel id).conduct hMore
  isCurrent := h.isCurrent.conduct hMore
  scheduleTeardown id := (h.scheduleTeardown id).conduct hMore
  work job := (h.work job).conduct hMore

/-- A client that serves under a discipline serves. -/
theorem Serves.serves (h : d.Serves look manners env) : env.Serves look manners := by
  induction h with
  | intro below _ above mannered ih =>
    exact .intro below ih (above.above fun usable => usable) mannered

/-- A run under a discipline is a run. -/
theorem Run.run {w v : System κ} (h : d.Run look manners w v) :
    HostedStreams.Run look manners w v := by
  induction h with
  | refl => exact .refl
  | act _ conduct ih => exact ih.act (conduct.conduct Serves.serves)
  | start _ unstarted settings executor ih => exact ih.start unstarted settings executor
  | turn _ serves ih => exact ih.turn serves.serves

/-- What comes about under a discipline comes about. -/
theorem Reached.reached {w : System κ} (h : d.Reached look manners w) :
    HostedStreams.Reached look manners w :=
  h.imp fun _ hRun => hRun.run

/-! A relation holds across what such a client does if it holds across the calls that are
permitted. -/

/-- A relation that holds across permitted calls, and across what clients do on their own, holds
across all that such a client does. -/
theorem Conduct.within (hR : Alone look R)
    (hCall : ∀ {env}, below env → ∀ {α : Type} (c : Call κ α) {w}, d.permits w c = true →
      R w ((c.run env).left w)) {a : Act κ α} (h : d.Conduct look below a) : a.Within R := by
  induction h with
  | alone h => exact h.within hR fun hNone => hNone.elim
  | bind _ _ iha ihf => exact fun w => Act.related_bind (R := R) hR.trans (iha w) fun x _ => ihf x _
  | contain _ ih => exact fun w => by rw [Act.left_contain]; exact ih w
  | after _ _ iha ihl => exact fun w => by rw [Act.left_after]; exact hR.trans (iha w) (ihl _)
  | @call _ env usable c =>
    intro w
    by_cases permitted : d.permits w c = true
    · rw [Call.left_under permitted]
      exact hCall usable c permitted
    · rw [Call.under, Act.left_get_bind, if_neg permitted]
      exact hR.refl w

/-- Surroundings keep to a relation if whatever is done in them does. -/
theorem Above.within (h : d.Above look below env)
    (hAct : ∀ {α : Type} {a : Act κ α}, d.Conduct look below a → a.Within R) : env.Within R where
  deliver sink origin event := hAct (h.deliver sink origin event)
  start id config := hAct (h.start id config)
  requestRanges id request ranges := hAct (h.requestRanges id request ranges)
  write id data := hAct (h.write id data)
  cancel id := hAct (h.cancel id)
  isCurrent := hAct h.isCurrent
  scheduleTeardown id := hAct (h.scheduleTeardown id)
  work job := hAct (h.work job)

/-- If those who are called keep to a relation, permitted calls need do no more than pass it on.
-/
theorem Serves.within (hR : Alone look R)
    (hCall : ∀ {env : Surroundings κ}, d.Serves look manners env → env.Within R →
      ∀ {α : Type} (c : Call κ α) {w}, d.permits w c = true → R w ((c.run env).left w))
    (h : d.Serves look manners env) : env.Within R := by
  induction h with
  | intro below serves above _ ih =>
    exact above.within fun conduct =>
      conduct.within hR fun usable => hCall (serves _ usable) (ih _ usable)

end Discipline

instance (w : System κ) (r : StreamRef) : Decidable (w.Served r) :=
  inferInstanceAs (Decidable (_ ∧ _))

namespace Discipline

/-- Calls that are made one after the other, if they are permitted. -/
def each (d : Discipline κ) (env : Surroundings κ) (calls : List ((α : Type) × Call κ α)) :
    Act κ Unit :=
  calls.forM fun c => do let _ ← c.2.under d env

/-- Calls in a row, each made if it is permitted, keep to the discipline. -/
theorem Conduct.each {d : Discipline κ} {look : System κ → κ.Note}
    {below : Surroundings κ → Prop} {env : Surroundings κ} (usable : below env)
    (calls : List ((α : Type) × Call κ α)) : d.Conduct look below (d.each env calls) := by
  induction calls with
  | nil => exact .alone (.pure ())
  | cons c rest ih => exact .bind (.bind (.call usable c.2) fun _ => .alone (.pure ())) fun _ => ih

/-- Obliging surroundings keep to every discipline. -/
theorem serves_obliging (d : Discipline Client.plain) {manners : Surroundings Client.plain → Prop}
    (mannered : manners Surroundings.obliging) :
    d.Serves (fun _ => ()) manners Surroundings.obliging :=
  .intro (fun _ => False) (fun _ h => h.elim)
    ⟨fun _ _ _ => .alone (.pure _), fun _ _ => .alone (.pure _), fun _ _ _ => .alone (.pure _),
      fun _ _ => .alone (.pure _), fun _ => .alone (.pure _), .alone (.pure _),
      fun _ => .alone (.pure _), fun _ => .alone (.pure _)⟩ mannered

/-- The discipline of a client that leaves the streams of the worker's to the worker. In the
worker's context anything is called. Outside it, such streams are neither handed events nor torn
down, and the handle of the registry is not given up for it. -/
def proper : Discipline κ where
  permits w c := w.dispatcher.inContext || match c with
    | .receive r _ | .destroy r => decide (w.Has r ∧ (w.stream r).binding ≠ .worker)
    | .release r =>
      decide (w.Served r → (w.status r).state ≠ .destroyed → 2 ≤ (w.stream r).handles)
    | _ => true

/-- A dispatcher that serves a stream with a sink, for which a notification waits. -/
def expectant : System Client.plain :=
  (proper.each Surroundings.obliging [⟨_, .makeSink⟩, ⟨_, .createStream { url := "" }⟩,
    ⟨_, .attach ⟨0⟩ ⟨0⟩⟩, ⟨_, .notify (.drawn 0) .created⟩]).left
    ((Dispatcher.start {} true).left { client := () })

/-- It comes of a dispatcher that is started and of calls that are permitted. -/
theorem run_expectant {manners : Surroundings Client.plain → Prop}
    (mannered : manners Surroundings.obliging) :
    proper.Run (fun _ => ()) manners { client := () } expectant :=
  .act (.start .refl rfl {} true) (.each (proper.serves_obliging mannered) _)

/-- The discipline of somebody who only notifies the dispatcher. -/
def hushed : Discipline κ where
  permits _ c := match c with
    | .notify .. => true
    | _ => false

end Discipline

/-- The host only notifies the dispatcher. -/
structure Surroundings.Hushed (look : System κ → κ.Note) (env : Surroundings κ) : Prop where
  start : ∀ id config, Discipline.hushed.Conduct look (fun _ => True) (env.host.start id config)
  requestRanges : ∀ id request ranges,
    Discipline.hushed.Conduct look (fun _ => True) (env.host.requestRanges id request ranges)
  write : ∀ id data, Discipline.hushed.Conduct look (fun _ => True) (env.host.write id data)
  cancel : ∀ id, Discipline.hushed.Conduct look (fun _ => True) (env.host.cancel id)

end HostedStreams
