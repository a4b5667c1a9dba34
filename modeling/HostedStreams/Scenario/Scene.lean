import HostedStreams.Deliveries
import HostedStreams.Scenario.Step
import HostedStreams.Stream.Transfer
import HostedStreams.Dispatch.Calls

/-! The scene that a scenario plays in: what is called by which name, what the sinks
and the host have been told to do, and what they remember. -/
namespace HostedStreams.Scenario

structure Sink where
  name : String
  kind : SinkKind
  handled : Handled
  rules : List (Rule Step)
  received : Deliveries := []

inductive HostKind where
  | recording
  /-- It starts and cancels transfers and can do nothing else. -/
  | basic
  /-- It claims to have taken the given number of bytes at every write. -/
  | greedy (taken : Nat)

structure Scene where
  /-- The names that are taken, latest first. A name stays with its identifier for
  good, whether a stream was made under it or not. -/
  names : List (String × StreamId) := []
  /-- The streams that the scene has a handle of. -/
  streams : List (String × StreamRef) := []
  hubs : List (String × HubRef) := []
  /-- The sinks that the scene keeps. -/
  kept : List (String × SinkRef) := []
  /-- All sinks ever made, in order. -/
  sinks : List Sink := []
  hostKind : HostKind := .recording
  hooks : List (Rule Step) := []
  host : RecordingHost := {}
  /-- Whether the scripted context says that it is what runs now. -/
  current : Bool := false
  /-- Whether the scripted context takes no teardowns. -/
  refuse : Bool := false
  /-- The teardowns queued in the scripted context. -/
  scheduled : List StreamId := []
  /-- How many streams were made apart from the dispatcher and the fixtures. -/
  made : Nat := 0
  /-- The name of the next stream whose transfer is started. -/
  expected : Option String := none
  started : Bool := false
  /-- Whether there is something that runs the worker. -/
  executor : Bool := false

namespace Scene

def nameOf? (s : Scene) (id : StreamId) : Option String :=
  (s.names.find? (·.2 == id)).map (·.1)

def idOf? (s : Scene) (name : String) : Option StreamId :=
  s.names.lookup name

def isTaken (s : Scene) (name : String) : Bool :=
  (s.idOf? name).isSome

/-- Whether the stream has a chosen identifier, which may be shown. -/
def isShown (s : Scene) (name : String) : Bool :=
  match s.idOf? name with
  | some (.chosen _) => true
  | _ => false

/-- Gives the name to the identifier. -/
def bind (name : String) (id : StreamId) (s : Scene) : Scene :=
  { s with names := (name, id) :: s.names }

/-- Names the stream that is expected, if one is. -/
def meet (id : StreamId) (s : Scene) : Scene :=
  match s.expected with
  | some name => { s.bind name id with expected := none }
  | none => s

def keepStream (name : String) (r : StreamRef) (s : Scene) : Scene :=
  { s with streams := s.streams ++ [(name, r)] }

def sink? (s : Scene) (ref : SinkRef) : Option Sink :=
  s.sinks[ref.number]?

def updateSink (ref : SinkRef) (f : Sink → Sink) (s : Scene) : Scene :=
  { s with sinks := s.sinks.modify ref.number f }

/-- The stream that the scene has a handle of under the identifier. -/
def streamOf? (s : Scene) (id : StreamId) : Option StreamRef :=
  match s.nameOf? id with
  | some name => s.streams.lookup name
  | none => none

end Scene

/-- What a step answers. -/
inductive Answer where
  | done
  | truth (value : Bool)
  | count (value : Nat)
  | text (value : String)
  | texts (values : List String)
  /-- The number of attached sinks and whether it is zero. -/
  | size (count : Nat) (empty : Bool)
  | request (id : RequestId)
  | properties (name : String) (stream : Stream)
  | received (all : Deliveries)
  | calls (host : RecordingHost)
  /-- Active streams, whether the end was told, and the events counted by kind. -/
  | info (active : Nat) (stopped : Bool) (events : List Nat)
  | several (answers : List Answer)
  /-- What became of a job and of the end, if that was told. -/
  | lost (invoke : Answer) (shutdown : Option Answer)
  | failed (failure : Failure)

/-- Where a rule was set off. -/
inductive Place where
  | origin (origin : Origin)
  | host (id : StreamId)

/-- A step that a rule took, and its answer. -/
structure Did where
  place : Place
  word : String
  answer : Answer

/-- A client that plays a scenario. -/
abbrev player : Client where
  State := Scene
  Note := Did
  Job := List Step
  Value := List Answer

end HostedStreams.Scenario
