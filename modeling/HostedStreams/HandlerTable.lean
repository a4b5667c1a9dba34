import HostedStreams.Event

/-! Tables that route events to handlers by their kind, and sinks made of hooks,
all of which share one table. -/
namespace HostedStreams

theorem EventKind.index_lt (k : EventKind) : k.index < 6 := by
  cases k <;> decide

/-- What runs for an event: it gets the sink, the event and what fired it, and
tells whether the event was handled. -/
abbrev EventHandler (m : Type → Type) (Sink Origin : Type) :=
  Sink → Event → Origin → m Bool

/-- One place for a handler per kind of event. -/
structure HandlerTable (m : Type → Type) (Sink Origin : Type) where
  entries : Vector (Option (EventHandler m Sink Origin)) 6

namespace HandlerTable

variable {m : Type → Type} {Sink Origin : Type}

def empty : HandlerTable m Sink Origin :=
  ⟨Vector.replicate 6 none⟩

/-- Registers a handler in place of an earlier one for the kind. -/
def on (table : HandlerTable m Sink Origin) (kind : EventKind)
    (handler : EventHandler m Sink Origin) : HandlerTable m Sink Origin :=
  ⟨table.entries.set kind.index (some handler) kind.index_lt⟩

def handler? (table : HandlerTable m Sink Origin) (kind : EventKind) :
    Option (EventHandler m Sink Origin) :=
  table.entries.get ⟨kind.index, kind.index_lt⟩

def handles (table : HandlerTable m Sink Origin) (kind : EventKind) : Bool :=
  (table.handler? kind).isSome

/-- The kinds with a handler, in the order of all kinds. -/
def kinds (table : HandlerTable m Sink Origin) : List EventKind :=
  EventKind.all.filter table.handles

/-- Runs the handler for the event's kind. An event without one is not handled. -/
def dispatch [Pure m] (table : HandlerTable m Sink Origin) (sink : Sink) (event : Event)
    (origin : Origin) : m Bool :=
  match table.handler? event.kind with
  | some handler => handler sink event origin
  | none => pure false

/-- The names of the kinds with a handler, as a set is described. -/
def display (table : HandlerTable m Sink Origin) : String :=
  "\x7b" ++ ", ".intercalate (table.kinds.map fun k => "\"" ++ k.name ++ "\"") ++ "\x7d"

/-- The same with a line for each name. -/
def displayLines (table : HandlerTable m Sink Origin) : String :=
  if table.kinds.isEmpty then table.display
  else
    "\x7b\n" ++ String.join (table.kinds.map fun k => "    \"" ++ k.name ++ "\",\n") ++ "\x7d"

end HandlerTable

/-- A sink with one hook for each kind of event. A hook that is not given does
nothing and leaves the event unhandled. -/
structure HookSink (m : Type → Type) [Pure m] (Origin : Type) where
  onCreated : Origin → m Bool := fun _ => pure false
  onDestroyed : Origin → m Bool := fun _ => pure false
  onFailedOpen : FailedOpen → Origin → m Bool := fun _ _ => pure false
  onOpened : Opened → Origin → m Bool := fun _ _ => pure false
  onDataArrived : DataArrived → Origin → m Bool := fun _ _ => pure false
  onCompleted : Completed → Origin → m Bool := fun _ _ => pure false

namespace HookSink

variable {m : Type → Type} [Pure m] {Origin : Type}

/-- The table that routes every event to the hook of its kind. -/
def table : HandlerTable m (HookSink m Origin) Origin :=
  HandlerTable.empty
    |>.on .created (fun h _ o => h.onCreated o)
    |>.on .destroyed (fun h _ o => h.onDestroyed o)
    |>.on .failedOpen (fun h e o => match e with
      | .failedOpen p => h.onFailedOpen p o
      | _ => pure false)
    |>.on .opened (fun h e o => match e with
      | .opened p => h.onOpened p o
      | _ => pure false)
    |>.on .dataArrived (fun h e o => match e with
      | .dataArrived p => h.onDataArrived p o
      | _ => pure false)
    |>.on .completed (fun h e o => match e with
      | .completed p => h.onCompleted p o
      | _ => pure false)

/-- A handler receives events through the shared table. -/
def dispatch (handler : HookSink m Origin) (event : Event) (origin : Origin) : m Bool :=
  table.dispatch handler event origin

end HookSink

namespace EventKind

/-- The name of the hook for the kind. -/
def hookName (k : EventKind) : String :=
  "on_" ++ k.name

end EventKind
end HostedStreams
