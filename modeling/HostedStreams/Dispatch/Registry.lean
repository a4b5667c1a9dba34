import HostedStreams.Stream.Lifecycle

/-! The streams that notifications reach. Each has a handle here, so it lives until
the worker has torn it down, whatever becomes of the handles elsewhere. The gauge of
active streams is set whenever the registry changes.

Streams are looked up by their identifiers, and who goes through all of them is promised no
order. It is assumed here that they come in the order in which they were enrolled. Only what is
done to all streams at once goes by it: torn-down ones are forgotten, handles are given up, and
the worker that ends closes those that are left. -/
namespace HostedStreams

variable {κ : Client}

namespace Dispatcher

def setRegistry (registry : List (StreamId × StreamRef)) (d : Dispatcher κ) : Dispatcher κ :=
  { d with registry, metrics := d.metrics.setActive registry.length }

def registered? (id : StreamId) (d : Dispatcher κ) : Option StreamRef :=
  (d.registry.find? (·.1 == id)).map (·.2)

end Dispatcher

namespace Registry

/-- Registers a stream, which thereby has one handle more. -/
def enroll (id : StreamId) (r : StreamRef) : Act κ Unit := do
  r.acquire
  modify (·.updateDispatcher fun d => d.setRegistry (d.registry ++ [(id, r)]))

/-- Takes a stream out of the registry. Its handle passes to the caller. -/
def remove (id : StreamId) : Act κ (Option StreamRef) := do
  match (← get).dispatcher.registered? id with
  | none => return none
  | some r =>
    modify (·.updateDispatcher fun d => d.setRegistry (d.registry.filter (·.1 != id)))
    return some r

/-- Takes a stream out of the registry and gives its handle up. -/
def forget (env : Surroundings κ) (id : StreamId) : Act κ Unit := do
  if let some r ← remove id then r.release env

/-- The stream registered under the identifier. One that is torn down is forgotten
and not found. -/
def find? (env : Surroundings κ) (id : StreamId) : Act κ (Option StreamRef) := do
  let w ← get
  match w.dispatcher.registered? id with
  | none => return none
  | some r =>
    if (w.status r).state = .destroyed then
      forget env id
      return none
    return some r

/-- Forgets every stream that is torn down. -/
def prune (env : Surroundings κ) : Act κ Unit := do
  let w ← get
  let gone := w.dispatcher.registry.filter fun (_, r) => (w.status r).state = .destroyed
  if !gone.isEmpty then
    modify (·.updateDispatcher fun d =>
      d.setRegistry (d.registry.filter fun (_, r) => (w.status r).state ≠ .destroyed))
    gone.forM fun (_, r) => r.release env

/-- Gives up all handles at once when nobody is left who could use the registry. The
gauge is not set any more. A panic on the way keeps no stream. -/
def abandon (env : Surroundings κ) : Act κ Unit := do
  let all := (← get).dispatcher.registry
  modify (·.updateDispatcher fun d => { d with registry := [] })
  all.foldr (fun (_, r) rest => (r.release env).after rest) (pure ())

end Registry
end HostedStreams
