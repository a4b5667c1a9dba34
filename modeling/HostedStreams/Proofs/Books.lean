import HostedStreams.Proofs.Roster
import HostedStreams.Proofs.Tended
import Mathlib.Data.List.Nodup

/-! The dispatcher's books and the streams together. Whatever clients do leaves them in
order, at any depth of calls, and while the worker leaves, no stream is registered any
more. -/
namespace HostedStreams

variable {κ : Client}

/-- Both the dispatcher's own books and its registry are in order. -/
structure System.Books (uncounted : Nat) (w : System κ) : Prop where
  ledger : w.dispatcher.Ledger uncounted
  roster : w.Roster

/-- The books stay in order. -/
structure Conserves (w v : System κ) : Prop where
  grows : w.streams.length ≤ v.streams.length
  id : ∀ {r}, w.Has r → (v.stream r).id = (w.stream r).id
  binding : ∀ {r}, w.Has r → (v.stream r).binding = (w.stream r).binding
  torn : ∀ {r}, w.Has r → (w.status r).state = .destroyed → (v.status r).state = .destroyed
  books : w.Books 0 → v.Books 0
  phase : w.Books 0 → v.dispatcher.phase = w.dispatcher.phase
  leaving : w.Books 0 → w.dispatcher.phase = .finishing →
    v.dispatcher.registry ⊆ w.dispatcher.registry

/-- Outside passes the dispatcher's own books stay in order. -/
theorem Quiet.ledger {look : System κ → κ.Note} {w v : System κ} (h : Quiet look w v)
    {n : Nat} (hw : w.dispatcher.Ledger n) :
    v.dispatcher.Ledger n ∧ w.dispatcher.Rests v.dispatcher := by
  cases h with
  | accept id event mailbox kept open_ sent => exact ⟨hw.accept sent, rfl, rfl⟩
  | refuse => exact ⟨hw.metrics rfl rfl, rfl, rfl⟩
  | serve d serves => exact hw.serves serves
  | attach r | detach r =>
    rw [System.dispatcher_updateSource]
    exact ⟨hw, rfl, rfl⟩
  | _ => exact ⟨hw, rfl, rfl⟩

/-- A change of the dispatcher's own books that the streams have no part in. -/
theorem System.Books.persists {n m : Nat} {v w : System κ} (h : w.Books n) (p : w.Persists v)
    (hRegistry : v.dispatcher.registry = w.dispatcher.registry) (hLedger : v.dispatcher.Ledger m) :
    v.Books m :=
  ⟨hLedger, h.roster.persists p hRegistry⟩

/-- A change that leaves the registry alone keeps the books if it keeps the dispatcher's own. -/
theorem System.Books.updateDispatcher {n m : Nat} {w : System κ} (h : w.Books n)
    {f : Dispatcher κ → Dispatcher κ}
    (hRegistry : (f w.dispatcher).registry = w.dispatcher.registry)
    (hLedger : (f w.dispatcher).Ledger m) : (w.updateDispatcher f).Books m :=
  h.persists (.of_streams rfl (Nat.le_refl _)) hRegistry hLedger

/-- What is kept beside the books does not upset them. -/
theorem System.Books.aside {n : Nat} {w : System κ} (h : w.Books n)
    {f : Dispatcher κ → Dispatcher κ}
    (hAside : ∀ d : Dispatcher κ, d.Aside (f d)) : (w.updateDispatcher f).Books n :=
  h.updateDispatcher (hAside _).registry (h.ledger.aside (hAside _)).1

/-- A notification is taken out of the queue and off the count. -/
theorem System.Books.take {w : System κ} (h : w.Books 0) {id : StreamId} {event : Event}
    {m : Mailbox (Command κ.Job)}
    (taken : w.dispatcher.mailbox.receive = some (.notify id event, m)) :
    System.Books 0 ((w.updateDispatcher fun d =>
      { d with mailbox := m, inContext := true }).updateMetrics Metrics.lowerDepth) := by
  have hOut : Dispatcher.Ledger 1 { w.dispatcher with mailbox := m } := h.ledger.receive taken
  have hIn : Dispatcher.Ledger 1 { w.dispatcher with mailbox := m, inContext := true } :=
    (hOut.aside (e := { w.dispatcher with mailbox := m, inContext := true })
      ⟨rfl, rfl, rfl, rfl, rfl, rfl, rfl⟩).1
  exact h.persists (.of_streams rfl (Nat.le_refl _)) rfl hIn.lower

namespace Conserves

variable {u v w : System κ}

theorem refl (w : System κ) : Conserves w w :=
  ⟨Nat.le_refl _, fun _ => rfl, fun _ => rfl, fun _ h => h, fun h => h, fun _ => rfl,
    fun _ _ => List.Subset.refl _⟩

theorem has (h : Conserves w v) {r : StreamRef} (hr : w.Has r) : v.Has r :=
  Nat.lt_of_lt_of_le hr h.grows

theorem trans (first : Conserves u v) (second : Conserves v w) : Conserves u w where
  grows := Nat.le_trans first.grows second.grows
  id hr := (second.id (first.has hr)).trans (first.id hr)
  binding hr := (second.binding (first.has hr)).trans (first.binding hr)
  torn hr h := second.torn (first.has hr) (first.torn hr h)
  books h := second.books (first.books h)
  phase h := (second.phase (first.books h)).trans (first.phase h)
  leaving h hPhase := by
    have hStill := (first.phase h).trans hPhase
    exact List.Subset.trans (second.leaving (first.books h) hStill) (first.leaving h hPhase)

/-- A stream that the worker serves is served for good. -/
theorem served (h : Conserves w v) {r : StreamRef} (hr : w.Served r) : v.Served r :=
  ⟨h.has hr.1, (h.binding hr.1).trans hr.2⟩

/-- The books stay in order where no stream is lost and the dispatcher's own stay in order. -/
theorem of_persists (p : w.Persists v) (hLedger : w.dispatcher.Ledger 0 →
    v.dispatcher.Ledger 0 ∧ w.dispatcher.Rests v.dispatcher) : Conserves w v where
  grows := Nat.le_of_not_lt fun hLess => Nat.lt_irrefl _ ((p.has ⟨_⟩).2 hLess)
  id _ := p.id _
  binding _ := p.binding _
  torn _ := p.torn _
  books h := by
    obtain ⟨hv, hRests⟩ := hLedger h.ledger
    exact ⟨hv, h.roster.persists p hRests.registry⟩
  phase h := (hLedger h.ledger).2.phase
  leaving h _ := by
    rw [(hLedger h.ledger).2.registry]
    exact List.Subset.refl _

/-- What leaves the dispatcher alone keeps the books if no stream is lost. -/
theorem of_dispatcher (hDispatcher : v.dispatcher = w.dispatcher) (p : w.Persists v) :
    Conserves w v :=
  of_persists p fun h => by
    rw [hDispatcher]
    exact ⟨h, rfl, rfl⟩

/-- What leaves the streams alone keeps the books if the dispatcher's own stay in order. -/
theorem of_updateDispatcher {f : Dispatcher κ → Dispatcher κ}
    (hLedger : w.dispatcher.Ledger 0 →
      (f w.dispatcher).Ledger 0 ∧ w.dispatcher.Rests (f w.dispatcher)) :
    Conserves w (w.updateDispatcher f) :=
  of_persists (.of_streams rfl (Nat.le_refl _)) hLedger

theorem of_firing {o : Origin} (h : Firing o w v) : Conserves w v :=
  of_dispatcher h.dispatcher h.persists

/-- A stream that a client makes of its own is none of the registry's. -/
theorem of_bearsOwn {look : System κ → κ.Note} (h : Quiet look w v) (hBears : w.BearsOwn v) :
    Conserves w v := by
  have hBooks (hw : w.Books 0) : v.Books 0 := ⟨(h.ledger hw.ledger).1, hw.roster.bearsOwn hBears⟩
  have hRests (hw : w.Books 0) := (h.ledger hw.ledger).2
  obtain ⟨made, own, rfl⟩ := hBears
  have hGrown := System.Grown.append w made
  constructor
  · simp
  · intro r hr
    rw [hGrown.old hr]
  · intro r hr
    rw [hGrown.old hr]
  · intro r hr hState
    rw [System.status, hGrown.old hr]
    exact hState
  · exact hBooks
  · exact fun hw => (hRests hw).phase
  · exact fun hw _ => List.Subset.refl _

theorem steady (look : System κ → κ.Note) : Steady look (Conserves (κ := κ)) where
  refl := refl
  trans := trans
  grows := grows
  quiet h := h.persists.elim (fun p => of_persists p h.ledger) (of_bearsOwn h)

/-- They stay in order across calls that fire as well. -/
theorem upheld (look : System κ → κ.Note) (manners : Surroundings κ → Prop) :
    Upheld look manners (Conserves (κ := κ)) where
  toSteady := steady look
  fireHub _ he _ event := (steady look).within_fireHub he of_firing event
  apply _ he _ event := (steady look).within_apply he of_firing event
  destroy _ he _ := (steady look).within_destroy he of_firing

/-- A stream is known by its identifier for as long as the books are in order. -/
theorem eq_of_known (h : Conserves u w) (hu : u.Books 0) {r q : StreamRef} {id : StreamId}
    (hr : u.Served r) (hId : (u.stream r).id = id) (hq : (id, q) ∈ w.dispatcher.registry) :
    q = r := by
  obtain ⟨hServed, hSame⟩ := (h.books hu).roster.listed hq
  apply (h.books hu).roster.distinct hServed (h.served hr)
  rw [hSame, h.id hr.1, hId]

/-- Streams that are torn down are struck off the registry. -/
theorem of_strike (h : Conserves u w) {keep : StreamId × StreamRef → Bool}
    (hTorn : u.Books 0 → ∀ entry ∈ w.dispatcher.registry, keep entry = false →
      (w.status entry.2).state = .destroyed) :
    Conserves u (w.updateDispatcher fun d => d.setRegistry (d.registry.filter keep)) where
  grows := h.grows
  id := h.id
  binding := h.binding
  torn := h.torn
  books hu := by
    have hw := h.books hu
    refine ⟨hw.ledger.setRegistry (fun hIdle => ?_) ?_, hw.roster.strike rfl rfl rfl (hTorn hu)⟩
    · rw [hw.ledger.empty hIdle]
      rfl
    · exact hw.ledger.distinct.sublist (List.filter_sublist.map _)
  phase := h.phase
  leaving hu hPhase := List.Subset.trans List.filter_sublist.subset (h.leaving hu hPhase)

/-- An entry may be struck off as soon as its stream is torn down. -/
theorem of_struck (h : Conserves u w) {id : StreamId} (hTorn : u.Books 0 → ∀ r,
    (id, r) ∈ w.dispatcher.registry → (w.status r).state = .destroyed) :
    Conserves u (w.struck id) := by
  apply h.of_strike
  intro hu entry hMem hKeep
  apply hTorn hu entry.2
  have hId : entry.1 = id := by simpa using hKeep
  rw [← hId]
  exact hMem

end Conserves

/-- What is found in the registry is listed there. -/
theorem Dispatcher.mem_of_registered? {d : Dispatcher κ} {id : StreamId} {r : StreamRef}
    (h : d.registered? id = some r) : (id, r) ∈ d.registry := by
  obtain ⟨entry, hFound, rfl⟩ := Option.map_eq_some_iff.1 h
  have hId : entry.1 = id := by simpa using List.find?_some hFound
  rw [← hId]
  exact List.mem_of_find?_eq_some hFound

/-- What is not found in the registry is not listed there. -/
theorem Dispatcher.not_mem_of_registered? {d : Dispatcher κ} {id : StreamId} {r : StreamRef}
    (h : d.registered? id = none) : (id, r) ∉ d.registry := by
  have hNone : d.registry.find? (·.1 == id) = none := by
    simpa [Dispatcher.registered?] using h
  exact fun hMem => by simpa using List.find?_eq_none.1 hNone _ hMem

/-- No two streams are listed under one identifier. -/
theorem Dispatcher.Ledger.eq_of_registered? {n : Nat} {d : Dispatcher κ} (hd : d.Ledger n)
    {id : StreamId} {r q : StreamRef} (h : d.registered? id = some r)
    (hq : (id, q) ∈ d.registry) : q = r :=
  (Prod.mk.inj (List.inj_on_of_nodup_map hd.distinct hq (d.mem_of_registered? h) rfl)).2

/-- What is struck off is not listed any more. -/
theorem System.not_mem_struck (w : System κ) (id : StreamId) (r : StreamRef) :
    (id, r) ∉ (w.struck id).dispatcher.registry := fun hMem => by
  simpa using (List.mem_filter.1 hMem).2

/-- The system with one stream more, which the worker serves. -/
def System.enlisted (w : System κ) (config : StreamConfig) : System κ :=
  (({ w with
      drawn := w.drawn + 1
      streams := w.streams ++ [{ id := .drawn w.drawn, config, binding := .worker
                                 status := { seekable := config.seekable } }] } :
    System κ).updateStream ⟨w.streams.length⟩ fun s => { s with handles := s.handles + 1 })
  |>.updateDispatcher fun d => d.setRegistry (d.registry ++ [(.drawn w.drawn, ⟨w.streams.length⟩)])

/-- The stream that is enlisted is the last one, with an identifier of its own. -/
theorem System.grown_enlisted (w : System κ) (config : StreamConfig) :
    w.Grown (w.enlisted config)
      { id := .drawn w.drawn, config, binding := .worker
        status := { seekable := config.seekable }, handles := 2 } := by
  have hHas (made : Stream) : System.Has { w with streams := w.streams ++ [made] }
      ⟨w.streams.length⟩ := (w.has_append made _).2 (.inr rfl)
  constructor
  · intro r
    exact (has_updateStream _ _ _ _).trans (w.has_append _ r)
  · intro r hr
    apply (stream_updateStream _ _ r _).trans
    rw [if_neg fun ⟨hSame, _⟩ => Nat.ne_of_lt hr (congrArg StreamRef.number hSame)]
    exact (w.stream_append _ r).trans (if_neg (Nat.ne_of_lt hr))
  · intro r hr
    obtain rfl : r = ⟨w.streams.length⟩ := by
      cases r
      exact congrArg StreamRef.mk hr
    apply (stream_updateStream _ _ _ _).trans
    rw [if_pos ⟨rfl, hHas _⟩]
    exact congrArg (fun s : Stream => { s with handles := s.handles + 1 })
      ((w.stream_append _ _).trans (if_pos rfl))

/-- The stream that is enlisted is served by the worker. -/
theorem System.served_enlisted (w : System κ) (config : StreamConfig) :
    (w.enlisted config).Served ⟨w.streams.length⟩ :=
  (w.grown_enlisted config).served.2 (.inr ⟨rfl, rfl⟩)

theorem System.id_enlisted (w : System κ) (config : StreamConfig) :
    ((w.enlisted config).stream ⟨w.streams.length⟩).id = .drawn w.drawn :=
  congrArg Stream.id ((w.grown_enlisted config).new rfl)

/-- What is done with a stream once it is registered: its transfer is started, and if that
cannot be, it is forgotten. -/
def StreamRef.launch (env : Surroundings κ) (id : StreamId) (r : StreamRef) :
    Act κ (Except StreamError StreamRef) := do
  match ← tryCatch (r.start env) fun h => do r.release env; throw h with
  | .ok () => return .ok r
  | .error e =>
    Registry.forget env id
    r.release env
    return .error e

/-- Unless the dispatcher is told to stop, a stream is registered and launched. -/
theorem System.on_createStream {w : System κ} (running : w.dispatcher.stopped = false)
    (env : Surroundings κ) (config : StreamConfig) :
    (Dispatcher.createStream env config).on w =
      (StreamRef.launch env (.drawn w.drawn) ⟨w.streams.length⟩).on (w.enlisted config) := by
  change Act.on (if w.dispatcher.stopped = true then _ else _) w = _
  rw [running]
  rfl

namespace Conserves

variable {look : System κ → κ.Note} {u v w : System κ}

/-- A stream is made for the worker and registered. Only a dispatcher that is not told to
stop does so, and its worker is not leaving. -/
theorem of_enlist (held : w.dispatcher.held = true) (running : w.dispatcher.stopped = false)
    (config : StreamConfig) : Conserves w (w.enlisted config) := by
  have hGrown := w.grown_enlisted config
  have hPhase (hw : w.Books 0) : w.dispatcher.phase = .running := by
    cases hPhase : w.dispatcher.phase with
    | running => rfl
    | unstarted => exact absurd hPhase (hw.ledger.made held)
    | cancelled => exact absurd hPhase hw.ledger.uncancelled
    | finishing => simpa [held, running] using hw.ledger.leaving (.inl hPhase)
    | finished => simpa [held, running] using hw.ledger.leaving (.inr hPhase)
  constructor
  · simp [System.enlisted, System.updateDispatcher, System.updateStream]
  · intro r hr
    rw [hGrown.old hr]
  · intro r hr
    rw [hGrown.old hr]
  · intro r hr hState
    rw [System.status, hGrown.old hr]
    exact hState
  · intro hw
    refine ⟨hw.ledger.setRegistry ?_ ?_, hw.roster.enlist hGrown rfl rfl rfl rfl⟩
    · intro hIdle
      rw [hPhase hw] at hIdle
      simp at hIdle
    · rw [List.map_append, List.nodup_append]
      refine ⟨hw.ledger.distinct, List.nodup_singleton _, ?_⟩
      intro id hOld new hNew
      obtain ⟨⟨_, r⟩, hMem, rfl⟩ := List.mem_map.1 hOld
      rw [List.mem_singleton.1 hNew]
      exact hw.roster.fresh hMem
  · intro _
    rfl
  · intro hw hLeaving
    rw [hPhase hw] at hLeaving
    cases hLeaving

variable (look) {env : Surroundings κ} (he : env.Within Conserves)

include look he

theorem release (r : StreamRef) : (r.release env).Within Conserves :=
  (upheld look Surroundings.any).release trivial he r

/-- However a teardown ends, it leaves the stream torn down. -/
theorem torn_of_destroy {r : StreamRef} (hr : w.Has r) :
    (((r.destroy env).left w).status r).state = .destroyed := by
  by_cases live : (w.status r).state = .destroyed
  · exact ((upheld look Surroundings.any).destroy trivial he r w).torn hr live
  · apply ((steady look).related_destroy he of_firing live).torn ((w.has_updateStatus r r _).2 hr)
    rw [System.tearing, System.status_record, System.status_updateStatus, if_pos ⟨rfl, hr⟩]
    rfl

/-- A stream whose transfer cannot be started is torn down. -/
theorem torn_of_start {r : StreamRef} (hr : w.Has r) {e : StreamError}
    (h : ((r.start env).on w).1 = .ok (.error e)) :
    (((r.start env).left w).status r).state = .destroyed := by
  simp only [StreamRef.start] at h ⊢
  obtain ⟨_, hGet, h, hLeft⟩ := Act.of_on_bind_ok h
  cases hGet
  rw [hLeft]
  split at h
  · cases h
  · rename_i hNew
    rw [if_neg hNew]
    -- The host refused, and the teardown because of it has returned.
    obtain ⟨_, -, h, hLeft⟩ := Act.of_on_bind_ok h
    rw [hLeft]
    obtain ⟨answer, -, h, hLeft⟩ := Act.of_on_bind_ok h
    rw [hLeft]
    cases answer with
    | ok _ => cases h
    | error _ =>
      obtain ⟨_, -, h, hLeft⟩ := Act.of_on_bind_ok h
      rw [hLeft]
      apply torn_of_destroy look he
      have hAsked := (w.has_updateStatus r r fun f => { f with requested := true }).2 hr
      exact Nat.lt_of_lt_of_le hAsked ((steady look).grows_ask (he.start _ _))

/-- A stream that cannot be started is torn down before it is struck off. -/
theorem launch {id : StreamId} {r : StreamRef} (hr : w.Served r) (hId : (w.stream r).id = id) :
    Conserves w ((r.launch env id).left w) := by
  have hUp := upheld look Surroundings.any
  have hTry : Act.Within Conserves
      (tryCatch (r.start env) fun h => do r.release env; throw h) := by
    apply hUp.within_tryCatch (hUp.start trivial he r)
    intro _
    exact fun w => hUp.related_bind (release look he r w) fun _ _ => refl _
  apply Act.holds_bind (hTry w)
  intro started hEnd
  cases started with
  | ok _ => exact hTry w
  | error e =>
    obtain ⟨hFailed, hLeft⟩ := Act.of_on_rethrow hEnd
    have hTorn := torn_of_start look he hr.1 hFailed
    rw [← hLeft] at hTorn
    apply hUp.related_bind
    · apply hUp.related_forget trivial he (hTry w)
      apply (hTry w).of_struck
      intro hw q hq
      rw [(hTry w).eq_of_known hw hr hId hq]
      exact hTorn
    · intro _ _
      exact hUp.related_bind (release look he r _) fun _ _ => refl _

/-- A stream is made for the worker. -/
theorem createStream (held : w.dispatcher.held = true) (config : StreamConfig) :
    Conserves w ((Dispatcher.createStream env config).left w) := by
  cases running : w.dispatcher.stopped with
  | true =>
    rw [Dispatcher.createStream, Act.left_get_bind, running]
    exact refl w
  | false =>
    rw [Act.left, System.on_createStream running]
    apply trans (of_enlist held running config)
    exact launch look he (w.served_enlisted config) (w.id_enlisted config)

/-- A stream that was made for the worker is served. -/
theorem served_of_createStream {config : StreamConfig} {r : StreamRef}
    (made : ((Dispatcher.createStream env config).on w).1 = .ok (.ok r)) :
    ((Dispatcher.createStream env config).left w).Served r := by
  cases running : w.dispatcher.stopped with
  | true =>
    change (Act.on (if w.dispatcher.stopped = true then _ else _) w).1 = _ at made
    rw [running] at made
    cases made
  | false =>
    rw [System.on_createStream running] at made
    rw [Act.left, System.on_createStream running]
    have hLaunched := launch look he (w.served_enlisted config) (w.id_enlisted config)
    obtain ⟨started, -, made, -⟩ := Act.of_on_bind_ok made
    cases started with
    | ok _ =>
      cases made
      exact hLaunched.served (w.served_enlisted config)
    | error e =>
      obtain ⟨_, -, made, -⟩ := Act.of_on_bind_ok made
      obtain ⟨_, -, made, -⟩ := Act.of_on_bind_ok made
      cases made

end Conserves

/-- What clients do leaves the books in order. -/
theorem Conserves.sustained (look : System κ → κ.Note) (manners : Surroundings κ → Prop) :
    Sustained look manners (Conserves (κ := κ)) where
  toUpheld := upheld look manners
  createStream _ he _ held config := createStream look he held config

/-- What the worker does itself leaves the books in order. -/
theorem Conserves.tended (look : System κ → κ.Note) (manners : Surroundings κ → Prop) :
    Tended look manners (Conserves (κ := κ)) where
  toUpheld := upheld look manners
  aside _ _ h := of_updateDispatcher fun hw => hw.aside h
  dispatching _ := of_dispatcher rfl ((System.Persists.refl _).record _)
  strike known h torn := h.of_struck fun hu q hq => by
    obtain ⟨hServed, hId⟩ := hu.roster.listed (Dispatcher.mem_of_registered? known)
    rw [h.eq_of_known hu hServed hId hq]
    exact torn
  prune w := (refl w).of_strike fun _ entry _ hKeep => by simpa using hKeep

end HostedStreams
