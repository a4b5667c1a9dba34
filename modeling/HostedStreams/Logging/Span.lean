import HostedStreams.Logging.Format

/-! Spans: named stretches of work, nested in each other, with fields that
describe them. -/
namespace HostedStreams

structure Span where
  name : String
  level : String
  fields : List (String × String)
  deriving DecidableEq

/-- The spans that are entered, the innermost one first. -/
abbrev SpanStack := List Span

namespace SpanStack

def current? (stack : SpanStack) : Option Span :=
  stack.head?

def enter (span : Span) (stack : SpanStack) : SpanStack :=
  span :: stack

def leave (stack : SpanStack) : SpanStack :=
  stack.tail

/-- Sets a field of the innermost span. A field that the span does not have is not added. -/
def record (field value : String) : SpanStack → SpanStack
  | [] => []
  | span :: rest =>
    { span with
      fields := span.fields.map fun (name, old) =>
        (name, if name = field then value else old) } :: rest

end SpanStack

namespace Span

/-- The span that a plugin spends its life in. -/
def plugin (mode : String) : Span :=
  { name := "plugin", level := "INFO", fields := [("mode", mode), ("build_sha", buildSha)] }

/-- The span in which one notification of a stream is handled. -/
def stream (id kind : String) : Span :=
  { name := "stream", level := "DEBUG", fields := [("stream_id", id), ("kind", kind)] }

end Span
end HostedStreams
