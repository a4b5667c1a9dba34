import HostedStreams.Json
import HostedStreams.Text.Shortest

/-! Counters and gauges of a dispatcher, and their text exposition: families in
the order of their names, samples in the order of their labels. -/
namespace HostedStreams

/-- Counts by label, in ascending order of the labels. A label that was counted
or merely asked for has a sample. -/
abbrev Samples := List (String × Nat)

namespace Samples

/-- Adds to the label's count. -/
def add (label : String) (n : Nat) : Samples → Samples
  | [] => [(label, n)]
  | (other, m) :: rest =>
    if other = label then (label, m + n) :: rest
    else if label < other then (label, n) :: (other, m) :: rest
    else (other, m) :: add label n rest

def count (label : String) (samples : Samples) : Nat :=
  ((samples.find? (·.1 == label)).map (·.2)).getD 0

/-- The sum of all counts. -/
def total (samples : Samples) : Nat :=
  samples.foldr (fun sample n => sample.2 + n) 0

/-- To count more of one label is to count more of all. -/
theorem total_add (label : String) (n : Nat) (samples : Samples) :
    (samples.add label n).total = samples.total + n := by
  induction samples with
  | nil => simp [add, total]
  | cons s rest ih =>
    simp only [total, add] at ih ⊢
    split
    · simp; omega
    · split
      · simp; omega
      · simp only [List.foldr_cons, ih]; omega

end Samples

structure Metrics where
  /-- Notifications dispatched, by kind of event. -/
  events : Samples := []
  /-- Notifications refused before they reached the queue, by reason. -/
  rejected : Samples := []
  dropped : Nat := 0
  panics : Nat := 0
  activeStreams : Int := 0
  queueDepth : Int := 0
  latencyMs : Int := 0

namespace Metrics

def countEvent (label : String) (m : Metrics) : Metrics :=
  { m with events := m.events.add label 1 }

/-- The number of events of a label. Asking makes a sample. -/
def readEvents (label : String) (m : Metrics) : Nat × Metrics :=
  (m.events.count label, { m with events := m.events.add label 0 })

def countRejected (reason : String) (m : Metrics) : Metrics :=
  { m with rejected := m.rejected.add reason 1 }

def countDropped (m : Metrics) : Metrics :=
  { m with dropped := m.dropped + 1 }

def countPanic (m : Metrics) : Metrics :=
  { m with panics := m.panics + 1 }

def setActive (n : Int) (m : Metrics) : Metrics :=
  { m with activeStreams := n }

def raiseDepth (m : Metrics) : Metrics :=
  { m with queueDepth := m.queueDepth + 1 }

def lowerDepth (m : Metrics) : Metrics :=
  { m with queueDepth := m.queueDepth - 1 }

/-- Whole milliseconds; what does not fit a signed 64-bit number becomes the largest. -/
def observeLatency (seconds nanoseconds : Nat) (m : Metrics) : Metrics :=
  { m with latencyMs := min (seconds * 1000 + nanoseconds / 1000000 : Nat) 9223372036854775807 }

def snapshot (m : Metrics) : Json :=
  .obj [("active_streams", .int m.activeStreams), ("queue_depth", .int m.queueDepth),
    ("dispatch_latency_ms", .int m.latencyMs), ("stream_events_dropped_total", .ofNat m.dropped),
    ("handler_panics_total", .ofNat m.panics)]

def escapeLabel (c : Char) : String :=
  if c = '\\' then "\\\\" else if c = '"' then "\\\"" else if c = '\n' then "\\n"
  else String.singleton c

/-- The lines of one family: what it is, of which type, and its samples. -/
def family (name help type : String) (samples : List (String × Int)) : List String :=
  if samples.isEmpty then []
  else
    ["# HELP " ++ name ++ " " ++ help, "# TYPE " ++ name ++ " " ++ type] ++
      samples.map fun (labels, n) => name ++ labels ++ " " ++ Text.floatInt n

def labelled (label : String) (samples : Samples) : List (String × Int) :=
  samples.map fun (value, n) =>
    ("\x7b" ++ label ++ "=\"" ++ String.join (value.toList.map escapeLabel) ++ "\"\x7d", (n : Int))

def lines (m : Metrics) : List String :=
  family "active_streams" "Streams registered with the runtime" "gauge" [("", m.activeStreams)] ++
  family "dispatch_latency_ms" "Time spent dispatching the latest host notification (ms)" "gauge"
    [("", m.latencyMs)] ++
  family "handler_panics_total"
    "Sink handlers or invoked jobs that panicked on the dispatch worker" "counter"
    [("", m.panics)] ++
  family "host_notifications_rejected_total"
    "Host notifications refused before reaching the queue" "counter"
    (labelled "reason" m.rejected) ++
  family "queue_depth" "Queued host notifications" "gauge" [("", m.queueDepth)] ++
  family "stream_events_dropped_total"
    "Host notifications dropped because the stream was unknown or destroyed" "counter"
    [("", m.dropped)] ++
  family "stream_events_total" "Host notifications dispatched to streams by kind" "counter"
    (labelled "kind" m.events)

def render (m : Metrics) : String :=
  String.join (m.lines.map (· ++ "\n"))

end Metrics
end HostedStreams
