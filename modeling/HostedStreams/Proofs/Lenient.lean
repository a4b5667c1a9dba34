import HostedStreams.Proofs.Outcome

/-! Relations that do not mind what the dispatcher does beside its queue: what it registers and
strikes off, the panics it counts, and the answers it keeps. The parts of the worker that
take no notification heed them as soon as the client does. -/
namespace HostedStreams.Outcome

variable {κ : Client} {α β : Type}

/-- The relation holds across everything that concerns the dispatcher beside its queue. -/
structure Lenient (look : System κ → κ.Note) (manners : Surroundings κ → Prop) (R : Outcome κ) :
    Prop extends Upheld look manners R where
  beside : ∀ {w : System κ} {f : Dispatcher κ → Dispatcher κ},
    w.dispatcher.Beside (f w.dispatcher) → R none w (w.updateDispatcher f)
  enlist : ∀ (w : System κ) (id : StreamId) (config : StreamConfig), R none w { w with
    streams := w.streams ++
      [{ id, config, binding := .worker, status := { seekable := config.seekable } }] }

/-- The relation also holds across a panic that is held back, and whatever comes of an event that
a stream takes. -/
structure Patient (look : System κ → κ.Note) (manners : Surroundings κ → Prop) (R : Outcome κ) :
    Prop extends Lenient look manners R where
  apply : ∀ {env}, manners env → env.Heed R → ∀ (r : StreamRef) event, (r.apply env event).Heeds R
  contained : ∀ {payload w v}, R (some (.panic payload)) w v → R none w v

namespace Lenient

variable {look : System κ → κ.Note} {manners : Surroundings κ → Prop} {R : Outcome κ}
  (hR : Lenient look manners R)

include hR

/-- A change beside the queue heeds the relation. -/
theorem heeds_beside {f : Dispatcher κ → Dispatcher κ} (h : ∀ d : Dispatcher κ, d.Beside (f d)) :
    (modify (·.updateDispatcher f) : Act κ Unit).Heeds R :=
  fun w => hR.beside (h w.dispatcher)

/-- Any change to the registry heeds the relation. -/
theorem setRegistry (registry : Dispatcher κ → List (StreamId × StreamRef)) :
    (modify (·.updateDispatcher fun d => d.setRegistry (registry d)) : Act κ Unit).Heeds R :=
  hR.heeds_beside fun _ => ⟨rfl, rfl, rfl, rfl, rfl, rfl, rfl, rfl, rfl, rfl⟩

theorem reply (ticket : Ticket) (answer : Reply κ.Value) : (Worker.reply ticket answer).Heeds R :=
  hR.heeds_beside fun _ => ⟨rfl, rfl, rfl, rfl, rfl, rfl, rfl, rfl, rfl, rfl⟩

theorem countPanic : (modify (·.updateMetrics Metrics.countPanic) : Act κ Unit).Heeds R :=
  hR.heeds_beside fun _ => ⟨rfl, rfl, rfl, rfl, rfl, rfl, rfl, rfl, rfl, rfl⟩

theorem drawId : (HostedStreams.drawId : Act κ StreamId).Heeds R :=
  fun w => hR.quiet (.drawId (w := w)) rfl

theorem enroll (id : StreamId) (r : StreamRef) : (Registry.enroll id r : Act κ Unit).Heeds R :=
  hR.heeds_bind (hR.acquire r) fun _ => hR.setRegistry _

theorem remove (id : StreamId) : (Registry.remove id : Act κ (Option StreamRef)).Heeds R := by
  intro w
  simp only [Registry.remove, Act.leads_get_bind]
  split
  · exact hR.refl w
  · exact hR.setRegistry _ w

/-- To do the same for each of several heeds the relation if each single time does. -/
theorem heeds_forM {f : α → Act κ PUnit} (h : ∀ x, (f x).Heeds R) (l : List α) :
    (l.forM f).Heeds R := by
  induction l with
  | nil => exact hR.heeds_pure _
  | cons x rest ih => exact hR.heeds_bind (h x) fun _ => ih

variable {env : Surroundings κ} (hm : manners env) (he : env.Heed R)

include hm he

theorem forget (id : StreamId) : (Registry.forget env id).Heeds R := by
  apply hR.heeds_bind (hR.remove id)
  intro found
  cases found with
  | none => exact hR.heeds_pure ()
  | some r => exact hR.release hm he r

/-- Whoever looks an entry up holds the stream for as long as that lasts. -/
theorem find? (id : StreamId) : (Registry.find? env id).Heeds R := by
  intro w
  simp only [Registry.find?, Act.leads_get_bind]
  split
  · exact hR.refl w
  · split
    · exact hR.heeds_bind (hR.forget hm he id) (fun _ => hR.heeds_pure _) w
    · exact hR.refl w

theorem pruneRegistry : (Registry.prune env).Heeds R := by
  intro w
  simp only [Registry.prune, Act.leads_get_bind]
  split
  · refine hR.heeds_bind (hR.setRegistry _) (fun _ => hR.heeds_forM (fun entry => ?_) _) w
    cases entry with
    | mk id r => exact hR.release hm he r
  · exact hR.refl w

theorem abandon : (Registry.abandon env).Heeds R := by
  intro w
  simp only [Registry.abandon, Act.leads_get_bind]
  have hEmptied := hR.heeds_beside (f := fun d => { d with registry := [] })
    fun _ => ⟨rfl, rfl, rfl, rfl, rfl, rfl, rfl, rfl, rfl, rfl⟩
  exact hR.heeds_bind hEmptied (fun _ => hR.releaseAll hm he _) w

/-- A stream that is made is registered, and started only then. -/
theorem createStream (config : StreamConfig) : (Dispatcher.createStream env config).Heeds R := by
  intro w
  simp only [Dispatcher.createStream, Act.leads_get_bind]
  split
  · exact hR.refl w
  · refine hR.heeds_bind hR.drawId (fun id => ?_) w
    refine hR.heeds_bind (fun w => hR.enlist w id config) fun r => ?_
    apply hR.heeds_bind (hR.enroll id r)
    intro _
    refine hR.heeds_bind
      (fun w => hR.leads_rethrow (hR.start hm he r w) (hR.release hm he r)) fun started => ?_
    cases started with
    | ok _ => exact hR.heeds_pure _
    | error e =>
      apply hR.heeds_bind (hR.forget hm he id)
      intro _
      exact hR.heeds_bind (hR.release hm he r) fun _ => hR.heeds_pure _

end Lenient

namespace Patient

variable {look : System κ → κ.Note} {manners : Surroundings κ → Prop} {R : Outcome κ}
  (hR : Patient look manners R)

include hR

/-- A panic that is held back is counted, and the worker goes on. -/
theorem heeds_contained {act : Act κ α} (h : act.Heeds R) : (Worker.contained act).Heeds R := by
  intro w
  apply hR.leads_bind (Steady.leads_contain hR.contained (h w))
  intro ended _
  cases ended with
  | ok _ => exact hR.refl _
  | error _ => exact hR.countPanic _

theorem sustained : Sustained look manners R :=
  { hR.toUpheld with
    apply := hR.apply
    contained := hR.contained
    createStream := fun hm he _ _ config => hR.createStream hm he config _ }

variable {env : Surroundings κ} (hm : manners env) (he : env.Heed R)

include hm he

theorem tearDown (id : StreamId) : (Worker.tearDown env id).Heeds R := by
  apply hR.heeds_bind (hR.remove id)
  intro found
  cases found with
  | none => exact hR.heeds_pure ()
  | some r =>
    exact hR.heeds_bind (hR.heeds_contained (hR.destroy hm he r)) fun _ => hR.release hm he r

/-- The worker closes a stream, holds back whatever panics, and tears the stream down. -/
theorem closeDownRegistered (id : StreamId) (r : StreamRef) : (Worker.close env id r).Heeds R :=
  hR.holding hm he r <|
    hR.heeds_bind (hR.heeds_contained (hR.close hm he r)) fun _ => hR.tearDown hm he id

end Patient
end HostedStreams.Outcome
