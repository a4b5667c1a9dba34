import HostedStreams.Proofs.Legs

/-! Relations between systems that conduct upholds. A relation that holds across each
step outside passes, and across whatever hands an event to sinks as long as the sinks
uphold it, is upheld by everything that a client does, at any depth of calls. -/
namespace HostedStreams

variable {κ : Client} {α β : Type}

/-- The relation also holds across each call that fires, if those who are called uphold it. -/
structure Upheld (look : System κ → κ.Note) (manners : Surroundings κ → Prop)
    (R : System κ → System κ → Prop) : Prop extends Steady look R where
  fireHub : ∀ {env}, manners env → env.Within R → ∀ hub event, (fire env (.hub hub) event).Within R
  apply : ∀ {env}, manners env → env.Within R →
    ∀ (r : StreamRef) event, (r.apply env event).Within R
  destroy : ∀ {env}, manners env → env.Within R → ∀ r : StreamRef, (r.destroy env).Within R

/-- The relation also holds across the calls that make a stream for the worker, which only
somebody who keeps the dispatcher can make. -/
structure Sustained (look : System κ → κ.Note) (manners : Surroundings κ → Prop)
    (R : System κ → System κ → Prop) : Prop extends Upheld look manners R where
  createStream : ∀ {env}, manners env → env.Within R → ∀ {w}, w.dispatcher.held = true →
    ∀ config, R w ((Dispatcher.createStream env config).left w)

namespace Upheld

variable {look : System κ → κ.Note} {manners : Surroundings κ → Prop}
  {R : System κ → System κ → Prop} (hR : Upheld look manners R)

include hR

variable {env : Surroundings κ} (hm : manners env) (he : env.Within R)

include hm he

/-- The relation holds across each leg, if it does across what is done besides. -/
theorem carries (own : System κ → System κ → Prop) (hOwn : ∀ {w v}, own w v → R w v) :
    Carries look env (fun _ _ => True) own R where
  refl := hR.refl
  trans := hR.trans
  does := he
  quiet h _ := hR.quiet h
  ask asked _ does answered _ := hR.trans (hR.trans (hR.quiet asked) does) (hR.quiet answered)
  fireHub := hR.fireHub hm he
  apply event _ := hR.apply hm he _ event _
  destroy _ := hR.destroy hm he _ _
  own := hOwn

/-- What holds across each leg of a call is upheld across all of them. -/
theorem legs {w v : System κ} (h : Legs look env (fun _ _ => True) (fun _ _ => False) w v) :
    R w v :=
  (hR.carries hm he _ False.elim).legs h

omit hm in
/-- Nobody who upholds the relation loses a stream. -/
theorem grow : env.Grow :=
  he.mono hR.grows

theorem start (r : StreamRef) : (r.start env).Within R :=
  fun _ => hR.legs hm he (Legs.start (hR.grow he) fun _ _ _ _ => trivial)

theorem drop (r : StreamRef) : (r.drop env).Within R :=
  fun _ => (hR.carries hm he (fun _ _ => False) False.elim).drop (hR.grow he) fun _ _ => trivial

theorem release (r : StreamRef) : (r.release env).Within R :=
  fun _ => hR.legs hm he (Legs.release (hR.grow he) fun _ _ _ => trivial)

theorem receive (r : StreamRef) (event : Event) : (r.receive env event).Within R :=
  fun _ => hR.legs hm he (Legs.receive event fun _ _ => trivial)

theorem close (r : StreamRef) : (r.close env).Within R :=
  fun _ => hR.legs hm he (Legs.close (hR.grow he) fun _ _ _ _ _ _ => trivial)

/-- Whoever holds a stream for as long as an action lasts upholds the relation if the action does.
-/
theorem related_holding {u w : System κ} {act : Act κ α} {r : StreamRef}
    (h : R u (act.left (w.updateStream r fun s => { s with handles := s.handles + 1 }))) :
    R u ((r.holding env act).left w) := by
  simp only [StreamRef.holding, StreamRef.acquire, Act.left_modify_bind, Act.left_after]
  exact hR.trans h (hR.release hm he r _)

/-- A stream is forgotten once its entry is struck off the registry. -/
theorem related_forget {u w : System κ} {id : StreamId} (h : R u w) (hStruck : R u (w.struck id)) :
    R u ((Registry.forget env id).left w) := by
  rw [Registry.forget]
  cases hFound : w.dispatcher.registered? id with
  | none =>
    rw [Act.left, Act.on_bind_ok (System.on_remove_of_none hFound)]
    exact h
  | some r =>
    rw [Act.left, Act.on_bind_ok (System.on_remove_of_some hFound)]
    exact hR.trans hStruck (hR.release hm he r _)

end Upheld

namespace Sustained

variable {look : System κ → κ.Note} {manners : Surroundings κ → Prop}
  {R : System κ → System κ → Prop} (hR : Sustained look manners R)

include hR

/-- Every call upholds the relation where those who are called uphold it. -/
theorem call {env : Surroundings κ} (hm : manners env) (he : env.Within R) (c : Call κ α) :
    (c.run env).Within R := by
  have hMade {w v : System κ} (made : ∃ config, w.dispatcher.held = true ∧
      v = (Dispatcher.createStream env config).left w) : R w v := by
    obtain ⟨config, kept, rfl⟩ := made
    exact hR.createStream hm he kept config
  intro w
  refine (hR.carries hm he _ hMade).legs ?_
  exact Legs.within_call_of (hR.grow he) (fun _ _ => trivial)
    (fun config kept => .single (.own ⟨config, kept, rfl⟩)) c w

theorem alone : Alone look R where
  refl := hR.refl
  trans := hR.trans
  remember _ f := hR.quiet (.remember f)
  note _ := hR.quiet .note

/-- What a client does upholds the relation if those who are called meanwhile uphold it. -/
theorem conduct {below : Surroundings κ → Prop}
    (hBelow : ∀ env, below env → manners env ∧ env.Within R) {a : Act κ α}
    (h : Conduct look below a) : a.Within R :=
  h.within hR.alone fun usable _ c => hR.call (hBelow _ usable).1 (hBelow _ usable).2 c

/-- A client that serves upholds the relation, at whatever depth it is called. -/
theorem serves {env : Surroundings κ} (h : env.Serves look manners) :
    manners env ∧ env.Within R :=
  ⟨h.mannered, h.within hR.alone fun serves he _ c => hR.call serves.mannered he c⟩

/-- A relation that the dispatcher's start and its worker uphold as well holds across a run. -/
theorem run (hStart : ∀ {w : System κ} settings executor, w.dispatcher.phase = .unstarted →
      R w ((Dispatcher.start settings executor).left w))
    (hTurn : ∀ {env}, manners env → env.Within R → (Worker.step env).Within R)
    {w v : System κ} (h : Run look manners w v) : R w v :=
  h.related hR.alone
    (fun serves _ c => hR.call (hR.serves serves).1 (hR.serves serves).2 c) hStart
    fun serves => hTurn (hR.serves serves).1 (hR.serves serves).2

end Sustained
end HostedStreams
