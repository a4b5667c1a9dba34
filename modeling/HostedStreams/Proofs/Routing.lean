import HostedStreams.HandlerTable

/-! Where events go. A table has the handler that was registered last for the kind of an event
called, once, with what it was given itself, and no other handler. The table that all sinks made of
hooks share has the same hook called as a sink that is written out by hand. -/
namespace HostedStreams

namespace EventKind

theorem index_inj {k l : EventKind} : k.index = l.index ↔ k = l := by
  cases k <;> cases l <;> decide

theorem mem_all (k : EventKind) : k ∈ all := by
  cases k <;> decide

end EventKind

namespace HandlerTable

variable {m : Type → Type} {Sink Origin : Type}

section

variable {table : HandlerTable m Sink Origin} {kind k : EventKind}

@[simp] theorem handler?_empty : (empty : HandlerTable m Sink Origin).handler? k = none := by
  have hPlace := k.index_lt
  change (Vector.replicate 6 (none : Option (EventHandler m Sink Origin)))[k.index] = none
  rw [Vector.getElem_replicate]

/-- Kinds do not share places. -/
theorem handler?_on (handler : EventHandler m Sink Origin) :
    (table.on kind handler).handler? k = if kind = k then some handler else table.handler? k := by
  have hKind := kind.index_lt
  have hPlace := k.index_lt
  change (table.entries.set kind.index (some handler))[k.index] =
    if kind = k then some handler else table.entries[k.index]
  rw [Vector.getElem_set]
  simp only [EventKind.index_inj]

end

/-- One registration: a handler, and the kind that it is for. -/
abbrev Registration (m : Type → Type) (Sink Origin : Type) :=
  EventKind × EventHandler m Sink Origin

/-- Registers one handler after the other. -/
def enter (table : HandlerTable m Sink Origin) (entries : List (Registration m Sink Origin)) :
    HandlerTable m Sink Origin :=
  entries.foldl (fun table entry => table.on entry.1 entry.2) table

/-- Behind so many registrations comes the last one for the kind, with the handler. -/
def Latest (entries : List (Registration m Sink Origin)) (kind : EventKind) (place : Nat)
    (handler : EventHandler m Sink Origin) : Prop :=
  ∃ earlier later, entries = earlier ++ (kind, handler) :: later ∧ earlier.length = place ∧
    ∀ entry ∈ later, entry.1 ≠ kind

section

variable {table : HandlerTable m Sink Origin} {entries : List (Registration m Sink Origin)}
  {kind : EventKind} {place : Nat} {handler : EventHandler m Sink Origin}

/-- A handler of another kind is registered in another place. -/
theorem handler?_enter_of_ne (others : ∀ entry ∈ entries, entry.1 ≠ kind) :
    (table.enter entries).handler? kind = table.handler? kind := by
  induction entries generalizing table with
  | nil => rfl
  | cons entry entries ih =>
    obtain ⟨hFirst, hOthers⟩ := List.forall_mem_cons.1 others
    change ((table.on entry.1 entry.2).enter entries).handler? kind = _
    rw [ih hOthers, handler?_on, if_neg hFirst]

/-- The last handler that was registered for a kind is the one in its place. -/
theorem Latest.handler? (h : Latest entries kind place handler) :
    (table.enter entries).handler? kind = some handler := by
  obtain ⟨earlier, later, rfl, -, hLater⟩ := h
  rw [enter, List.foldl_append, List.foldl_cons]
  change (((table.enter earlier).on kind handler).enter later).handler? kind = _
  rw [handler?_enter_of_ne hLater, handler?_on, if_pos rfl]

/-- Of several handlers for a kind one came last. -/
theorem exists_latest (registered : ∃ entry ∈ entries, entry.1 = kind) :
    ∃ place handler, Latest entries kind place handler := by
  induction entries with
  | nil => simp at registered
  | cons entry entries ih =>
    -- The first registration is the latest one only if none follows for the kind.
    by_cases hOthers : ∃ other ∈ entries, other.1 = kind
    · obtain ⟨place, handler, earlier, later, hEntries, hPlace, hLater⟩ := ih hOthers
      exact ⟨place + 1, handler, entry :: earlier, later, by rw [hEntries]; rfl,
        by rw [List.length_cons, hPlace], hLater⟩
    · obtain ⟨other, hOther, rfl⟩ := registered
      rcases List.mem_cons.1 hOther with rfl | hMem
      · exact ⟨0, other.2, [], entries, rfl, rfl,
          fun next hNext hKind => hOthers ⟨next, hNext, hKind⟩⟩
      · exact absurd ⟨other, hMem, rfl⟩ hOthers

theorem Latest.mem (h : Latest entries kind place handler) : (kind, handler) ∈ entries := by
  obtain ⟨earlier, later, rfl, -, -⟩ := h
  simp

/-- A kind has a handler if one was registered for it. -/
theorem handles_enter_iff :
    (empty.enter entries).handles kind = true ↔ ∃ entry ∈ entries, entry.1 = kind := by
  by_cases hSome : ∃ entry ∈ entries, entry.1 = kind
  · obtain ⟨place, handler, hLatest⟩ := exists_latest hSome
    rw [handles, hLatest.handler?]
    exact iff_of_true rfl hSome
  · rw [handles, handler?_enter_of_ne fun entry hEntry hKind => hSome ⟨entry, hEntry, hKind⟩,
      handler?_empty]
    exact iff_of_false Bool.false_ne_true hSome

/-! Which handlers are called. -/

/-- One call of a handler: the place of its registration among all, and what it was given. -/
structure Invocation (Sink Origin : Type) where
  place : Nat
  sink : Sink
  event : Event
  origin : Origin

/-- The handler with a note of each of its calls. -/
def noting [Functor m] (place : Nat) (handler : EventHandler m Sink Origin) :
    EventHandler (StateT (List (Invocation Sink Origin)) m) Sink Origin :=
  fun sink event origin notes =>
    (fun handled => (handled, notes ++ [⟨place, sink, event, origin⟩])) <$>
      handler sink event origin

/-- The registrations with notes of the calls of every handler. -/
def noted [Functor m] (entries : List (Registration m Sink Origin)) :
    List (Registration (StateT (List (Invocation Sink Origin)) m) Sink Origin) :=
  entries.mapIdx fun place entry => (entry.1, noting place entry.2)

theorem Latest.noted [Functor m] (h : Latest entries kind place handler) :
    Latest (noted entries) kind place (noting place handler) := by
  obtain ⟨earlier, later, rfl, rfl, hLater⟩ := h
  refine ⟨HandlerTable.noted earlier, later.mapIdx fun place entry =>
    (entry.1, noting (place + 1 + earlier.length) entry.2), ?_, ?_, ?_⟩
  · simp [HandlerTable.noted, List.mapIdx_append, List.mapIdx_cons]
  · simp [HandlerTable.noted]
  · intro entry hEntry
    obtain ⟨i, hi, rfl⟩ := List.mem_mapIdx.1 hEntry
    exact hLater _ (List.getElem_mem hi)

theorem noted_of_ne [Functor m] (others : ∀ entry ∈ entries, entry.1 ≠ kind) :
    ∀ entry ∈ noted entries, entry.1 ≠ kind := by
  intro entry hEntry
  obtain ⟨i, hi, rfl⟩ := List.mem_mapIdx.1 hEntry
  exact others _ (List.getElem_mem hi)

/-- The handler that came last for the kind of an event is called with the event. -/
theorem dispatch_of_latest [Pure m] {event : Event} (h : Latest entries event.kind place handler)
    (sink : Sink) (origin : Origin) :
    (empty.enter entries).dispatch sink event origin = handler sink event origin := by
  rw [dispatch, h.handler?]

/-- An event of a kind without a handler is not handled. -/
theorem dispatch_of_ne [Pure m] {event : Event} (others : ∀ entry ∈ entries, entry.1 ≠ event.kind)
    (sink : Sink) (origin : Origin) :
    (empty.enter entries).dispatch sink event origin = pure false := by
  rw [dispatch, handler?_enter_of_ne others, handler?_empty]

variable (entries) in
/-- What is promised of a table into which handlers were entered: -/
structure Routes [Monad m] : Prop where
  /-- An event goes to the handler that was registered last for its kind, which gets what the
  table got and whose result is the result. That is one call, and no other handler is called. -/
  called : ∀ {event place handler}, Latest entries event.kind place handler → ∀ sink origin,
    (empty.enter entries).dispatch sink event origin = handler sink event origin ∧
    ∀ notes, ((empty.enter (noted entries)).dispatch sink event origin).run notes =
      (fun handled => (handled, notes ++ [⟨place, sink, event, origin⟩])) <$>
        handler sink event origin
  /-- There is such a handler if there is any for the kind. -/
  found : ∀ kind, (∃ entry ∈ entries, entry.1 = kind) ↔
    ∃ place handler, Latest entries kind place handler
  /-- Where there is none, nothing is called, and the event is not handled. -/
  ignored : ∀ {event}, (∀ entry ∈ entries, entry.1 ≠ event.kind) → ∀ sink origin,
    (empty.enter entries).dispatch sink event origin = pure false ∧
    ∀ notes, ((empty.enter (noted entries)).dispatch sink event origin).run notes =
      pure (false, notes)
  handles : ∀ kind, (empty.enter entries).handles kind = true ↔ ∃ entry ∈ entries, entry.1 = kind
  kinds : ∀ kind, kind ∈ (empty.enter entries).kinds ↔ ∃ entry ∈ entries, entry.1 = kind
  /-- Each kind is listed once, in the order of all kinds. -/
  ordered : (empty.enter entries).kinds.Sublist EventKind.all ∧ (empty.enter entries).kinds.Nodup

/-- What is promised of a table holds of every table. -/
theorem routes [Monad m] (entries : List (Registration m Sink Origin)) : Routes entries where
  called h sink origin := by
    refine ⟨dispatch_of_latest h sink origin, fun notes => ?_⟩
    rw [dispatch_of_latest h.noted]
    rfl
  found kind := by
    refine ⟨exists_latest, ?_⟩
    rintro ⟨place, handler, hLatest⟩
    exact ⟨_, hLatest.mem, rfl⟩
  ignored others sink origin := by
    refine ⟨dispatch_of_ne others sink origin, fun notes => ?_⟩
    rw [dispatch_of_ne (noted_of_ne others)]
    rfl
  handles kind := handles_enter_iff
  kinds kind := by
    rw [HandlerTable.kinds, List.mem_filter, and_iff_right kind.mem_all, handles_enter_iff]
  ordered := by
    have hAll : EventKind.all.Nodup := by decide
    exact ⟨List.filter_sublist, hAll.filter _⟩

end

end HandlerTable

namespace HookSink

variable {m : Type → Type} {Origin : Type}

/-- What a sink does that is written out by hand: it looks which event it got, and calls the hook
for it with what the event carries. -/
def byHand [Pure m] (hooks : HookSink m Origin) (event : Event) (origin : Origin) : m Bool :=
  match event with
  | .created => hooks.onCreated origin
  | .destroyed => hooks.onDestroyed origin
  | .failedOpen payload => hooks.onFailedOpen payload origin
  | .opened payload => hooks.onOpened payload origin
  | .dataArrived payload => hooks.onDataArrived payload origin
  | .completed payload => hooks.onCompleted payload origin

/-- Hooks are called as a sink written out by hand would call them. -/
theorem dispatch_eq_byHand [Pure m] (hooks : HookSink m Origin) (event : Event) (origin : Origin) :
    hooks.dispatch event origin = hooks.byHand event origin := by
  cases event <;>
    simp [dispatch, HandlerTable.dispatch, table, HandlerTable.handler?_on, Event.kind, byHand]

end HookSink

/-- Tables route every event to the handler that was registered last for its kind, and a sink made
of hooks does with every event what it would do if it were written out by hand. -/
theorem events_routed {m : Type → Type} [Monad m] {Sink Origin : Type} :
    (∀ entries : List (HandlerTable.Registration m Sink Origin), HandlerTable.Routes entries) ∧
    ∀ (hooks : HookSink m Origin) (event : Event) (origin : Origin),
      hooks.dispatch event origin = hooks.byHand event origin :=
  ⟨HandlerTable.routes, HookSink.dispatch_eq_byHand⟩

/-- The second handler takes the place of the first. -/
example : ((HandlerTable.empty : HandlerTable Id Unit Unit).enter
    [(.created, fun _ _ _ => true), (.created, fun _ _ _ => false)]).dispatch () .created () =
      false := rfl

end HostedStreams
