import HostedStreams.System
import HostedStreams.Text.Quoted

/-! How a stream is described to people. -/
namespace HostedStreams

variable {κ : Client}

/-- The stream in words: its identifier, address, state and number of sinks. A drawn
identifier has no text that is known beforehand, and so neither has the stream. -/
def StreamRef.description? (w : System κ) (r : StreamRef) : Option String :=
  let s := w.stream r
  match s.id with
  | .drawn _ => none
  | .chosen uuid =>
    some ("Stream \x7b id: StreamId(" ++ uuid.display ++ "), url: " ++ Text.quoted s.config.url ++
      ", state: " ++ s.status.state.title ++ ", sinks: " ++ toString (s.source.size w.alive) ++
      ", .. \x7d")

end HostedStreams
