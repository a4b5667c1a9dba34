import HostedStreams.Proofs.Deliveries
import HostedStreams.Proofs.Refusal
import HostedStreams.Proofs.Shutdown

/-! Which streams are registered. Between what clients do and turns of the worker each stream of the
worker's that is not torn down is registered, whatever clients and the worker did before, and one
that the host refuses is not. -/
namespace HostedStreams

variable {κ : Client} {look : System κ → κ.Note} {manners : Surroundings κ → Prop} {w : System κ}

/-- Whether the host is asked for something. -/
def Entry.isCall {Note : Type} : Entry Note → Bool
  | .hostCall .. => true
  | _ => false

namespace Entry

variable {Note : Type} {news : List (Entry Note)}

/-- Who only notifies hands nothing over. -/
theorem filter_isDelivery_of_notices (h : ∀ e ∈ news, e.notices = true) :
    news.filter (·.isDelivery) = [] := by
  refine List.filter_eq_nil_iff.2 fun e he => ?_
  have hNotice := h e he
  cases e <;> simp_all [notices, isDelivery]

/-- Who only notifies asks the host for nothing. -/
theorem filter_isCall_of_notices (h : ∀ e ∈ news, e.notices = true) :
    news.filter (·.isCall) = [] := by
  refine List.filter_eq_nil_iff.2 fun e he => ?_
  have hNotice := h e he
  cases e <;> simp_all [notices, isCall]

end Entry

namespace System

/-- What the registry has to do with the streams that the worker serves. -/
structure Enrolled (w : System κ) : Prop where
  /-- A stream that is not torn down is registered under its own identifier. -/
  registered : ∀ r, w.Served r → (w.status r).state ≠ .destroyed →
    w.dispatcher.registered? (w.stream r).id = some r
  /-- So it is found when a notification comes for it. -/
  found : ∀ r (env : Surroundings κ), w.Served r → (w.status r).state ≠ .destroyed →
    (Registry.find? env (w.stream r).id).on w = (.ok (some r), w)
  /-- Nothing happens when a handle is given up beside that of the registry. -/
  kept : ∀ r (env : Surroundings κ), w.Served r → (w.status r).state ≠ .destroyed →
    2 ≤ (w.stream r).handles → (r.release env).on w = (.ok (), w.released r)
  gauge : w.dispatcher.metrics.activeStreams = w.dispatcher.registry.length

/-- What is promised of the registry follows from the books. -/
theorem Books.enrolled (h : w.Books 0) : w.Enrolled := by
  have hRegistered (r : StreamRef) (served : w.Served r) (live : (w.status r).state ≠ .destroyed) :
      w.dispatcher.registered? (w.stream r).id = some r := by
    have hMem := h.roster.enrolled served live
    cases known : w.dispatcher.registered? (w.stream r).id with
    | none => exact absurd hMem (Dispatcher.not_mem_of_registered? known)
    | some q => rw [h.ledger.eq_of_registered? known hMem]
  refine ⟨hRegistered, fun r env served live => ?_, fun r env _ _ kept => ?_, h.ledger.gauge⟩
  · rw [Registry.find?, Act.on_get_bind]
    simp only [hRegistered r served live, if_neg live]
    rfl
  · exact on_release_of_kept kept

/-- What is left of a stream that the host has refused to open. -/
structure Refused (w v : System κ) (config : StreamConfig) : Prop where
  registry : v.dispatcher.registry = w.dispatcher.registry
  gauge : v.dispatcher.metrics.activeStreams = w.dispatcher.metrics.activeStreams
  deliveries : v.past.filter (·.isDelivery) = w.past.filter (·.isDelivery)
  /-- The host was asked for nothing but the stream. -/
  calls : v.past.filter (·.isCall) =
    @Entry.hostCall _ (.drawn w.drawn) (.start config) ⟨w.streams.length⟩ ::
      w.past.filter (·.isCall)

end System

/-- Whatever clients and the worker have done, each stream that was made for the worker is
registered until it is torn down, and one that a host refuses that does not call back leaves no
trace but the request. -/
theorem enrolled_of_reached (reached : Reached look manners w) :
    w.Enrolled ∧ ∀ (env : Surroundings κ) (config : StreamConfig) (e : HostError),
      w.dispatcher.stopped = false →
      Discipline.hushed.Conduct look (fun _ => True) (env.host.start (.drawn w.drawn) config) →
      ((env.host.start (.drawn w.drawn) config).on
        ((w.enlisted config).launching ⟨w.streams.length⟩)).1 = .ok (.error e) →
      ∃ v, (Dispatcher.createStream env config).on w = (.ok (.error (.host "open" e)), v) ∧
        w.Refused v config := by
  have hBooks := (System.AtRest.of_reached look reached).books
  refine ⟨hBooks.enrolled, fun env config e running hush refused => ?_⟩
  obtain ⟨v, hEnd, hRegistry, hGauge, news, hNoticed, hPast⟩ :=
    createStream_of_refused hBooks running hush refused
  refine ⟨v, hEnd, hRegistry, hGauge.trans hBooks.ledger.gauge.symm, ?_, ?_⟩
  · rw [hPast, List.filter_cons_of_neg (by simp [Entry.isDelivery]),
      List.filter_cons_of_neg (by simp [Entry.isDelivery]), List.filter_append,
      Entry.filter_isDelivery_of_notices hNoticed, List.nil_append,
      List.filter_cons_of_neg (by simp [Entry.isDelivery])]
  · rw [hPast, List.filter_cons_of_neg (by simp [Entry.isCall]),
      List.filter_cons_of_neg (by simp [Entry.isCall]), List.filter_append,
      Entry.filter_isCall_of_notices hNoticed, List.nil_append,
      List.filter_cons_of_pos rfl]

/-- Surroundings whose host opens nothing. -/
def Surroundings.refusing : Surroundings Client.plain :=
  { obliging with
    host := { obliging.host with
      start := fun _ _ => pure (.error (.rejected "open" "forbidden")) } }

/-- The dispatcher serves a stream, and the host refuses another one. -/
theorem enrolled_of_reached_serving :
    serving.Enrolled ∧ serving.Served ⟨0⟩ ∧ (serving.status ⟨0⟩).state ≠ .destroyed ∧
    ∃ v, (Dispatcher.createStream Surroundings.refusing { url := "" }).on serving =
        (.ok (.error (.host "open" (.rejected "open" "forbidden"))), v) ∧
      serving.Refused v { url := "" } := by
  obtain ⟨hEnrolled, hRefused⟩ := enrolled_of_reached reached_serving
  refine ⟨hEnrolled, ⟨by decide +kernel, by decide +kernel⟩, by decide +kernel, ?_⟩
  exact hRefused Surroundings.refusing { url := "" } (.rejected "open" "forbidden")
    (by decide +kernel) (.alone (.pure _)) rfl

end HostedStreams
