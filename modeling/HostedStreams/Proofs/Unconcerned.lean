import HostedStreams.Proofs.Chores

/-! Relations that do not look at the dispatcher. They hold across whatever it does to
its queue, its registry and its counts, so its worker upholds them as soon as its
streams do, and they hold across whole runs. -/
namespace HostedStreams

variable {κ : Client} {α β : Type}

/-- The relation holds across everything that concerns the dispatcher alone. -/
structure Unconcerned (look : System κ → κ.Note) (manners : Surroundings κ → Prop)
    (R : System κ → System κ → Prop) : Prop extends Upheld look manners R where
  dispatcher : ∀ w f, R w (w.updateDispatcher f)
  dispatching : ∀ w (e : Entry κ.Note), e.dispatching = true → R w (w.record e)
  enlist : ∀ (w : System κ) (id : StreamId) (config : StreamConfig), R w { w with
    streams := w.streams ++
      [{ id, config, binding := .worker, status := { seekable := config.seekable } }] }

namespace Unconcerned

variable {look : System κ → κ.Note} {manners : Surroundings κ → Prop}
  {R : System κ → System κ → Prop} (hR : Unconcerned look manners R)

include hR

/-- What the worker does for itself is the dispatcher's concern alone. -/
theorem tended : Tended look manners R where
  toUpheld := hR.toUpheld
  aside w f _ := hR.dispatcher w f
  dispatching h := hR.dispatching _ _ h
  strike _ h _ := hR.trans h (hR.dispatcher _ _)
  prune w := hR.dispatcher w _

theorem of_deskwork {w v : System κ} (h : Deskwork w v) : R w v := by
  cases h with
  | enlist id config => exact hR.enlist _ id config
  | entry e h => exact hR.dispatching _ e h
  | dispatcher f => exact hR.dispatcher _ f

theorem start (settings : Settings) (executor : Bool) :
    (Dispatcher.start settings executor : Act κ _).Within R :=
  fun w => Dispatcher.related_start (hR.refl w) (fun _ _ => hR.dispatcher w _) settings executor

variable {env : Surroundings κ} (hm : manners env) (he : env.Within R)

include hm he

theorem createStream (config : StreamConfig) : (Dispatcher.createStream env config).Within R :=
  fun w => (hR.carries hm he Deskwork hR.of_deskwork).legs <|
    Legs.within_createStream (hR.grow he) (fun _ _ => trivial) (fun _ => .dispatcher _) .enlist
      config w

theorem step : (Worker.step env).Within R :=
  fun w => (hR.carries hm he Deskwork hR.of_deskwork).legs <|
    Legs.within_step (hR.grow he) (fun _ _ => trivial) (.entry _) (fun _ => .dispatcher)
      (fun job _ => .single (.does (.work job))) w

omit hm he

theorem sustained : Sustained look manners R :=
  { hR.toUpheld with createStream := fun hm he _ _ config => hR.createStream hm he config _ }

/-- The relation holds across every run. -/
theorem run {w v : System κ} (h : Run look manners w v) : R w v :=
  hR.sustained.run (fun settings executor _ => hR.start settings executor _) hR.step h

end Unconcerned
end HostedStreams
