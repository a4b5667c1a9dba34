import HostedStreams.Dispatch.Error
import HostedStreams.Host
import HostedStreams.Host.Recording
import HostedStreams.Settings
import HostedStreams.Stream.Config
import HostedStreams.System

/-! Scenarios: scripts of what a client does with streams, sources, sinks, a host and
a dispatcher, all called by names. Sinks and the host carry rules with further
steps, which they take while they are being called. -/
namespace HostedStreams.Scenario

/-- Why a step cannot be taken as it is written. -/
inductive Misuse where
  /-- The field is not there or not text. -/
  | missingText (field : String)
  /-- The field is not there or not a number. -/
  | missingNumber (field : String)
  | unknownStep
  | unknownHandler
  | unknownFixture
  | noSink
  | noStream
  | noHub
  | noDispatcher
  | noNotifier
  | noMetrics
  | nameTaken
  | alreadyStarted
  /-- Drawn identifiers are not shown. -/
  | randomId
  /-- The step lets the worker run or ends it, which only the script itself may do. -/
  | insideHandler
  | recordingOnHub
  /-- A call that was to be lost came to an end before. -/
  | finishedEarly
  deriving DecidableEq

namespace Misuse

def message : Misuse → String
  | .missingText field => "missing string " ++ field
  | .missingNumber field => "missing number " ++ field
  | .unknownStep => "unknown step"
  | .unknownHandler => "unknown handler"
  | .unknownFixture => "unknown fixture"
  | .noSink => "no such sink"
  | .noStream => "no such stream"
  | .noHub => "no such hub"
  | .noDispatcher => "no runtime"
  | .noNotifier => "no notifier"
  | .noMetrics => "no metrics"
  | .nameTaken => "name taken"
  | .alreadyStarted => "already started"
  | .randomId => "random id"
  | .insideHandler => "not available inside a handler"
  | .recordingOnHub => "recording sinks listen to streams only"
  | .finishedEarly => "finished early"

end Misuse

/-- How a step can fail. -/
inductive Failure where
  | misuse (cause : Misuse)
  /-- A document in the step does not describe a value; `what` names the value. -/
  | undecodable (what : String)
  | panic (payload : Payload)
  | stream (error : StreamError)
  | host (error : HostError)
  | dispatch (error : DispatchError)
  /-- A stream of the fixtures could not be opened; `source` words why. -/
  | fixture (url source : String)
  /-- The bound on nested calls was reached. -/
  | exhausted
  deriving DecidableEq

/-- How a sink is made. -/
inductive SinkKind where
  /-- It takes events as they come. -/
  | plain
  /-- It has every hook. -/
  | full
  /-- It has the hook for data. -/
  | dataOnly
  /-- It has no hook. -/
  | silent
  /-- It takes events as they come and remembers them. -/
  | recording
  deriving DecidableEq

/-- What a sink reports as handled. -/
inductive Handled where
  | everything
  | nothing
  /-- The events of these kinds, by name. -/
  | only (kinds : List String)

namespace Handled

def covers (kind : EventKind) : Handled → Bool
  | .everything => true
  | .nothing => false
  | .only kinds => kinds.contains kind.name

end Handled

/-- Steps to be taken when something happens, a number of times. -/
structure Rule (Step : Type) where
  /-- What sets the rule off, by its name. Without a name everything does. -/
  key : Option String
  times : Nat
  steps : List Step

namespace Rule

variable {Step : Type}

def matching (key : String) (rule : Rule Step) : Bool :=
  rule.times != 0 && (rule.key.isNone || rule.key == some key)

/-- The steps of all rules that the key sets off, and the rules, those used one
time less. -/
def trigger (key : String) (rules : List (Rule Step)) : List Step × List (Rule Step) :=
  ((rules.filter (·.matching key)).flatMap (·.steps),
    rules.map fun rule => if rule.matching key then { rule with times := rule.times - 1 } else rule)

end Rule

/-- What is done with a stream that is kept. Sinks are called by name. -/
inductive StreamStep where
  | start
  | attach (sink : String)
  | detach (sink : String)
  | event (event : Event)
  | readRange (start stop : UInt64)
  | readRanges (ranges : List Range)
  | write (data : List UInt8)
  | close
  | destroy
  | properties
  | describe

namespace StreamStep

def word : StreamStep → String
  | .start => "open"
  | .attach _ => "attach"
  | .detach _ => "detach"
  | .event _ => "event"
  | .readRange _ _ => "read_range"
  | .readRanges _ => "read_ranges"
  | .write _ => "write"
  | .close => "close"
  | .destroy => "destroy"
  | .properties => "properties"
  | .describe => "debug"

end StreamStep

inductive HubStep where
  | attach (sink : String)
  | detach (sink : String)
  | isAttached (sink : String)
  | clear
  | size
  | fire (event : Event)

namespace HubStep

def word : HubStep → String
  | .attach _ => "hub_attach"
  | .detach _ => "hub_detach"
  | .isAttached _ => "hub_attached"
  | .clear => "hub_clear"
  | .size => "hub_len"
  | .fire _ => "fire"

end HubStep

/-- What is done with the recording host. -/
inductive HostStep where
  | setFault (call : String) (fault : Fault)
  | recover (call : String)
  | forget (stream : String)
  | setWriteCap (cap : Option Nat)
  | recall
  /-- A call that no stream makes. -/
  | ask (stream : String) (call : HostCall)

namespace HostStep

def word : HostStep → String
  | .setFault _ .reject => "host_fail"
  | .setFault _ .breakDown => "host_break"
  | .recover _ => "host_recover"
  | .forget _ => "host_forget"
  | .setWriteCap _ => "host_write_cap"
  | .recall => "host_calls"
  | .ask _ _ => "host"

end HostStep

/-- What is done with the dispatcher, from anywhere. -/
inductive DispatcherStep where
  | createStream (stream : String) (config : StreamConfig)
  | openUrl (stream url : String)
  | notify (stream : String) (event : Event)
  | info
  | render

namespace DispatcherStep

def word : DispatcherStep → String
  | .createStream _ _ => "create_stream"
  | .openUrl _ _ => "open_url"
  | .notify _ _ => "notify"
  | .info => "runtime_info"
  | .render => "render"

end DispatcherStep

inductive Step where
  /-- A step that cannot be read; it fails when it is taken. -/
  | malformed (word : String) (failure : Failure)
  | makeSink (sink : String) (kind : SinkKind) (handled : Handled) (rules : List (Rule Step))
  | dropSink (sink : String)
  | recorded (sink : String) (reset : Bool)
  | makeHub (hub : String)
  | onHub (hub : String) (op : HubStep)
  | makeStream (stream : String) (config : StreamConfig) (uuid : Option Uuid) (bound : Bool)
  | makeFixture (stream : String) (url : Option String)
  | onStream (stream : String) (op : StreamStep)
  | dropStream (stream : String)
  | panic (payload : Payload)
  | onHost (op : HostStep)
  /-- Sets what the scripted context answers. -/
  | context (current refuse : Option Bool)
  /-- Tears down what was queued in the scripted context. -/
  | runTeardowns
  | onDispatcher (op : DispatcherStep)
  | start (settings : Settings) (executor : Bool)
  | notifyBlocking (stream : String) (events : List Event)
  | drain
  | invoke (steps : List Step)
  | shutdown
  | kill
  /-- Hands in a job, and the end too if told so, and then kills the worker. -/
  | invokeLost (steps : List Step) (shutdown : Bool)
  | dropDispatcher (keepNotifier : Bool)

instance : Inhabited Step := ⟨.drain⟩

namespace Step

/-- The word that names the step. -/
def word : Step → String
  | .malformed word _ => word
  | .makeSink _ _ _ _ => "sink"
  | .dropSink _ => "drop_sink"
  | .recorded _ _ => "recorded"
  | .makeHub _ => "hub"
  | .onHub _ op => op.word
  | .makeStream _ _ _ _ => "new"
  | .makeFixture _ _ => "fixture_stream"
  | .onStream _ op => op.word
  | .dropStream _ => "drop"
  | .panic _ => "panic"
  | .onHost op => op.word
  | .context _ _ => "context"
  | .runTeardowns => "run_teardowns"
  | .onDispatcher op => op.word
  | .start _ _ => "start"
  | .notifyBlocking _ _ => "notify_blocking"
  | .drain => "drain"
  | .invoke _ => "invoke"
  | .shutdown => "shutdown"
  | .kill => "kill"
  | .invokeLost _ _ => "invoke_lost"
  | .dropDispatcher _ => "drop_runtime"

/-- The steps that let the worker run or end it, by their words. -/
def outermostWords : List String :=
  ["start", "notify_blocking", "drain", "invoke", "shutdown", "kill", "invoke_lost",
    "drop_runtime"]

/-- Whether only the script itself may take the step. -/
def isOutermost (s : Step) : Bool :=
  outermostWords.contains s.word

mutual

/-- An upper bound on how many steps are taken because of the step. -/
def weight : Step → Nat
  | .makeSink _ _ _ rules => rulesWeight rules + 1
  | .notifyBlocking _ events => events.length + 1
  | .invoke steps => stepsWeight steps + 1
  | .invokeLost steps _ => stepsWeight steps + 1
  | _ => 1

def stepsWeight : List Step → Nat
  | [] => 0
  | s :: rest => s.weight + stepsWeight rest

def ruleWeight : Rule Step → Nat
  | ⟨_, times, steps⟩ => times * (stepsWeight steps + 1)

def rulesWeight : List (Rule Step) → Nat
  | [] => 0
  | r :: rest => ruleWeight r + rulesWeight rest

end

end Step
end HostedStreams.Scenario
