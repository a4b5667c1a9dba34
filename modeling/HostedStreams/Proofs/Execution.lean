import HostedStreams.System

/-! What an action does to a system. Every action ends, by itself or by a halt, and
leaves a system behind in either case. -/
namespace HostedStreams

variable {κ : Client} {α β : Type}

namespace Act

/-- How the action ends, and the system that it leaves behind. -/
def on (a : Act κ α) (w : System κ) : Except Halt α × System κ :=
  a.run.run w

/-- The system that the action leaves behind. -/
def left (a : Act κ α) (w : System κ) : System κ :=
  (a.on w).2

/-- An action does what its end says and leaves behind what it leaves behind. -/
theorem on_of_end {a : Act κ α} {w : System κ} {ended : Except Halt α} (h : (a.on w).1 = ended) :
    a.on w = (ended, a.left w) :=
  Prod.ext h rfl

/-- The second action is taken only if the first one ends by itself. -/
theorem on_bind (a : Act κ α) (f : α → Act κ β) (w : System κ) :
    (a >>= f).on w =
      match (a.on w).1 with
      | .ok x => (f x).on (a.left w)
      | .error h => (.error h, a.left w) := by
  simp only [on, left, ExceptT.run_bind, StateT.run_bind]
  rcases a.run.run w with ⟨_ | _, v⟩ <;> rfl

theorem on_bind_ok {a : Act κ α} {w v : System κ} {x : α} (h : a.on w = (.ok x, v))
    (f : α → Act κ β) : (a >>= f).on w = (f x).on v := by
  rw [on_bind, left, h]

theorem on_bind_error {a : Act κ α} {w v : System κ} {halt : Halt} (h : a.on w = (.error halt, v))
    (f : α → Act κ β) : (a >>= f).on w = (.error halt, v) := by
  rw [on_bind, left, h]

theorem left_bind_ok {a : Act κ α} {w v : System κ} {x : α} (h : a.on w = (.ok x, v))
    (f : α → Act κ β) : (a >>= f).left w = (f x).left v := by
  rw [left, on_bind_ok h, left]

theorem on_get_bind (f : System κ → Act κ β) (w : System κ) : (get >>= f).on w = (f w).on w := rfl

theorem on_modify_bind (g : System κ → System κ) (f : PUnit → Act κ β) (w : System κ) :
    (modify g >>= f).on w = (f ()).on (g w) := rfl

/-- An action that ends by itself does so because both its parts do. -/
theorem of_on_bind_ok {a : Act κ α} {f : α → Act κ β} {w : System κ} {y : β}
    (h : ((a >>= f).on w).1 = .ok y) :
    ∃ x, (a.on w).1 = .ok x ∧ ((f x).on (a.left w)).1 = .ok y ∧
      (a >>= f).left w = (f x).left (a.left w) := by
  rw [on_bind] at h
  cases hEnd : (a.on w).1 with
  | ok x =>
    rw [hEnd] at h
    refine ⟨x, rfl, h, ?_⟩
    rw [left, on_bind, hEnd]
    rfl
  | error halt =>
    rw [hEnd] at h
    cases h

/-- An action that halts does so in its first part, and then nothing more is done, or in what
follows it. -/
theorem of_on_bind_error {a : Act κ α} {f : α → Act κ β} {w : System κ} {halt : Halt}
    (h : ((a >>= f).on w).1 = .error halt) : a.on w = (.error halt, (a >>= f).left w) ∨
      ∃ x, (a.on w).1 = .ok x ∧ ((f x).on (a.left w)).1 = .error halt := by
  rcases hFirst : a.on w with ⟨other | x, v⟩
  · rw [on_bind_error hFirst] at h
    cases h
    rw [left, on_bind_error hFirst]
    exact .inl rfl
  · rw [on_bind_ok hFirst] at h
    refine .inr ⟨x, rfl, ?_⟩
    rw [left, hFirst]
    exact h

/-- What is done last is done after a halt as well, which then goes on. -/
theorem on_after (a : Act κ α) (last : Act κ Unit) (w : System κ) :
    (a.after last).on w =
      (match (a.on w).1 with
        | .ok x => (last.on (a.left w)).1.map fun _ => x
        | .error h => .error h,
       last.left (a.left w)) := by
  simp only [on, left, after, ExceptT.run_mk, StateT.run_bind]
  rcases a.run.run w with ⟨_ | _, v⟩ <;> rfl

/-- A panic that is held back becomes an answer, and an abort goes on. -/
theorem on_contain (a : Act κ α) (w : System κ) :
    a.contain.on w =
      (match (a.on w).1 with
        | .ok x => .ok (.ok x)
        | .error (.panic p) => .ok (.error p)
        | .error .exhausted => .error .exhausted,
       a.left w) := by
  simp only [on, left, contain, ExceptT.run_mk, StateT.run_bind]
  rcases a.run.run w with ⟨(_ | _) | _, v⟩ <;> rfl

/-- A halt that is caught is handled in the system that it left behind. -/
theorem on_tryCatch (a : Act κ α) (handle : Halt → Act κ α) (w : System κ) :
    (tryCatch a handle).on w =
      match (a.on w).1 with
      | .ok x => (.ok x, a.left w)
      | .error h => (handle h).on (a.left w) := by
  change (ExceptT.run (ExceptT.tryCatch a handle)).run w = _
  simp only [ExceptT.tryCatch, on, left, ExceptT.run, ExceptT.mk, StateT.run_bind]
  rcases StateT.run a w with ⟨_ | _, v⟩ <;> rfl

theorem on_tryCatch_ok {a : Act κ α} {w v : System κ} {x : α} (h : a.on w = (.ok x, v))
    (handle : Halt → Act κ α) : (tryCatch a handle).on w = (.ok x, v) := by
  rw [on_tryCatch, left, h]

theorem on_tryCatch_error {a : Act κ α} {w v : System κ} {halt : Halt}
    (h : a.on w = (.error halt, v)) (handle : Halt → Act κ α) :
    (tryCatch a handle).on w = (handle halt).on v := by
  rw [on_tryCatch, left, h]

/-- An action whose panics are seen to and go on ends by itself only where the action does. -/
theorem of_on_rethrow {a : Act κ α} {last : Act κ Unit} {w : System κ} {x : α}
    (h : ((tryCatch a fun halt => do last; throw halt).on w).1 = .ok x) :
    (a.on w).1 = .ok x ∧ (tryCatch a fun halt => do last; throw halt).left w = a.left w := by
  rw [on_tryCatch] at h
  cases hEnd : (a.on w).1 with
  | ok y =>
    rw [hEnd] at h
    refine ⟨h, ?_⟩
    rw [left, on_tryCatch, hEnd]
  | error halt =>
    rw [hEnd] at h
    obtain ⟨_, -, hThrown, -⟩ := of_on_bind_ok h
    cases hThrown

@[simp] theorem left_pure (x : α) (w : System κ) : (pure x : Act κ α).left w = w := rfl

@[simp] theorem left_modify (f : System κ → System κ) (w : System κ) :
    (modify f : Act κ PUnit).left w = f w := rfl

@[simp] theorem left_get_bind (f : System κ → Act κ β) (w : System κ) :
    (get >>= f).left w = (f w).left w := rfl

@[simp] theorem left_modify_bind (g : System κ → System κ) (f : PUnit → Act κ β) (w : System κ) :
    (modify g >>= f).left w = (f ()).left (g w) := rfl

@[simp] theorem left_modifyGet_bind (g : System κ → α × System κ) (f : α → Act κ β)
    (w : System κ) : (modifyGet g >>= f).left w = (f (g w).1).left (g w).2 := rfl

@[simp] theorem left_after (a : Act κ α) (last : Act κ Unit) (w : System κ) :
    (a.after last).left w = last.left (a.left w) := by
  rw [left, on_after]

@[simp] theorem left_contain (a : Act κ α) (w : System κ) : a.contain.left w = a.left w := by
  rw [left, on_contain]

/-- Whatever the action does, it keeps to the relation. -/
def Within (R : System κ → System κ → Prop) (a : Act κ α) : Prop :=
  ∀ w, R w (a.left w)

/-- What only works on a result does nothing to the system. -/
theorem left_bind_pure (a : Act κ α) (f : α → β) (w : System κ) :
    (a >>= fun x => pure (f x)).left w = a.left w := by
  rw [left, on_bind]
  cases (a.on w).1 <;> rfl

/-- The action ends by itself. -/
def Returns (a : Act κ α) (w : System κ) : Prop :=
  ∃ x, (a.on w).1 = .ok x

namespace Returns

variable {a : Act κ α} {f : α → Act κ β} {w : System κ}

/-- Actions in a row return if the second one does wherever the first one ends. -/
theorem bind (ha : a.Returns w) (hf : ∀ x, (f x).Returns (a.left w)) : (a >>= f).Returns w := by
  obtain ⟨x, hx⟩ := ha
  obtain ⟨y, hy⟩ := hf x
  refine ⟨y, ?_⟩
  rw [on_bind, hx]
  exact hy

/-- An action returns if what it does and what it does last both do. -/
theorem after {last : Act κ Unit} (ha : a.Returns w) (hl : last.Returns (a.left w)) :
    (a.after last).Returns w := by
  obtain ⟨x, hx⟩ := ha
  obtain ⟨_, hl⟩ := hl
  refine ⟨x, ?_⟩
  rw [on_after, hx]
  simp only [hl]
  rfl

/-- After an action that returns, the rest of the work is done where it leaves off. -/
theorem left_bind {g : Act κ β} (ha : a.Returns w) (hf : ∀ x v, (f x).left v = g.left v) :
    (a >>= f).left w = g.left (a.left w) := by
  obtain ⟨x, hx⟩ := ha
  rw [left, on_bind, hx]
  exact hf x _

end Returns

/-- The action ends by itself, and what it answers and leaves behind is as promised. -/
def Ends (a : Act κ α) (w : System κ) (Q : α → System κ → Prop) : Prop :=
  ∃ x v, a.on w = (.ok x, v) ∧ Q x v

/-- An action that returns ends as it is said to leave the system. -/
theorem Returns.ends {a : Act κ α} {w : System κ} {Q : System κ → Prop} (h : a.Returns w)
    (hQ : Q (a.left w)) : a.Ends w fun _ => Q := by
  obtain ⟨x, hx⟩ := h
  exact ⟨x, _, on_of_end hx, hQ⟩

namespace Ends

variable {a : Act κ α} {f : α → Act κ β} {w : System κ} {P : α → System κ → Prop}
  {Q : β → System κ → Prop}

theorem returns (h : a.Ends w P) : a.Returns w := by
  obtain ⟨x, _, hEnd, -⟩ := h
  exact ⟨x, by rw [hEnd]⟩

/-- What is promised of an end can be weakened. -/
theorem mono {R : α → System κ → Prop} (h : a.Ends w P) (hPR : ∀ x v, P x v → R x v) :
    a.Ends w R := by
  obtain ⟨x, v, hEnd, hP⟩ := h
  exact ⟨x, v, hEnd, hPR x v hP⟩

/-- What is promised for each answer is so for the system that the action leaves behind. -/
theorem left {Q : System κ → Prop} (h : a.Ends w fun _ => Q) : Q (a.left w) := by
  obtain ⟨_, v, hEnd, hQ⟩ := h
  rwa [Act.left, hEnd]

/-- Of two actions in a row, the second one starts from what is promised of the first. -/
theorem bind (ha : a.Ends w P) (hf : ∀ x v, P x v → (f x).Ends v Q) : (a >>= f).Ends w Q := by
  obtain ⟨x, v, hEnd, hP⟩ := ha
  obtain ⟨y, u, hLast, hQ⟩ := hf x v hP
  exact ⟨y, u, (on_bind_ok hEnd f).trans hLast, hQ⟩

/-- The rest of the work ends as promised where its first part leaves off. -/
theorem on_bind {x : α} {v : System κ} (hEnd : a.on w = (.ok x, v)) (hf : (f x).Ends v Q) :
    (a >>= f).Ends w Q :=
  bind (P := fun y u => y = x ∧ u = v) ⟨x, v, hEnd, rfl, rfl⟩ fun _ _ ⟨hx, hv⟩ => by
    rwa [hx, hv]

/-- What is done last starts from what is promised of the rest. -/
theorem after {last : Act κ Unit} {Q : System κ → Prop} (ha : a.Ends w P)
    (hl : ∀ x v, P x v → last.Ends v fun _ => Q) : (a.after last).Ends w fun _ => Q := by
  obtain ⟨x, v, hEnd, hP⟩ := ha
  have hLast := hl x v hP
  refine Returns.ends (Returns.after ⟨x, by rw [hEnd]⟩ ?_) ?_
  · rw [Act.left, hEnd]
    exact hLast.returns
  · rw [left_after, Act.left, Act.left, hEnd]
    exact hLast.left

end Ends

/-- What holds wherever an action can leave off holds at its end. -/
theorem holds_bind {P : System κ → Prop} {a : Act κ α} {f : α → Act κ β} {w : System κ}
    (ha : P (a.left w)) (hf : ∀ x, (a.on w).1 = .ok x → P ((f x).left (a.left w))) :
    P ((a >>= f).left w) := by
  rw [left, on_bind]
  cases hEnd : (a.on w).1 with
  | ok x => exact hf x hEnd
  | error h => exact ha

/-- A transitive relation across both parts of an action holds across the whole. -/
theorem related_bind {R : System κ → System κ → Prop} (trans : ∀ {u v w}, R u v → R v w → R u w)
    {a : Act κ α} {f : α → Act κ β} {u w : System κ} (ha : R u (a.left w))
    (hf : ∀ x, (a.on w).1 = .ok x → R (a.left w) ((f x).left (a.left w))) :
    R u ((a >>= f).left w) :=
  holds_bind ha fun x hEnd => trans ha (hf x hEnd)

/-- Both actions end the same way, and the systems that they leave behind are related. -/
def Paired (R : System κ → System κ → Prop) (a b : Act κ α) (w v : System κ) : Prop :=
  (a.on w).1 = (b.on v).1 ∧ R (a.left w) (b.left v)

namespace Paired

variable {R : System κ → System κ → Prop} {a b : Act κ α} {w v : System κ}

/-- Pairs of actions in a row agree if the second ones do wherever the first ones end alike. -/
theorem bind {f g : α → Act κ β} (h : Paired R a b w v)
    (hf : ∀ x, (a.on w).1 = .ok x → Paired R (f x) (g x) (a.left w) (b.left v)) :
    Paired R (a >>= f) (b >>= g) w v := by
  cases hEnd : (a.on w).1 with
  | ok x =>
    rw [Paired, Act.left, Act.left, on_bind_ok (on_of_end hEnd),
      on_bind_ok (on_of_end (h.1.symm.trans hEnd))]
    exact hf x hEnd
  | error halt =>
    rw [Paired, Act.left, Act.left, on_bind_error (on_of_end hEnd),
      on_bind_error (on_of_end (h.1.symm.trans hEnd))]
    exact ⟨rfl, h.2⟩

/-- Pairs agree if what is done last agrees as well. -/
theorem after {last other : Act κ Unit} (h : Paired R a b w v)
    (hLast : Paired R last other (a.left w) (b.left v)) :
    Paired R (a.after last) (b.after other) w v := by
  refine ⟨?_, by rw [left_after, left_after]; exact hLast.2⟩
  rw [on_after, on_after, h.1, hLast.1]

/-- Panics are held back on both sides. -/
theorem contain (h : Paired R a b w v) : Paired R a.contain b.contain w v := by
  refine ⟨?_, by rw [left_contain, left_contain]; exact h.2⟩
  rw [on_contain, on_contain, h.1]

/-- Whatever halts the actions is seen to on both sides. -/
theorem tryCatch {f g : Halt → Act κ α} (h : Paired R a b w v)
    (hf : ∀ halt, (a.on w).1 = .error halt → Paired R (f halt) (g halt) (a.left w) (b.left v)) :
    Paired R (tryCatch a f) (tryCatch b g) w v := by
  cases hEnd : (a.on w).1 with
  | ok x =>
    rw [Paired, Act.left, Act.left, on_tryCatch_ok (on_of_end hEnd),
      on_tryCatch_ok (on_of_end (h.1.symm.trans hEnd))]
    exact ⟨rfl, h.2⟩
  | error halt =>
    rw [Paired, Act.left, Act.left, on_tryCatch_error (on_of_end hEnd),
      on_tryCatch_error (on_of_end (h.1.symm.trans hEnd))]
    exact hf halt hEnd

end Paired

end Act

/-- Whatever the client does when it is called, it keeps to the relation. -/
structure Surroundings.Within (R : System κ → System κ → Prop) (env : Surroundings κ) : Prop where
  deliver : ∀ sink origin event, (env.deliver sink origin event).Within R
  start : ∀ id config, (env.host.start id config).Within R
  requestRanges : ∀ id request ranges, (env.host.requestRanges id request ranges).Within R
  write : ∀ id data, (env.host.write id data).Within R
  cancel : ∀ id, (env.host.cancel id).Within R
  isCurrent : env.isCurrent.Within R
  scheduleTeardown : ∀ id, (env.scheduleTeardown id).Within R
  work : ∀ job, (env.work job).Within R

/-- Whoever keeps to a relation keeps to a wider one. -/
theorem Surroundings.Within.mono {R S : System κ → System κ → Prop} {env : Surroundings κ}
    (h : env.Within R) (hRS : ∀ {w v}, R w v → S w v) : env.Within S where
  deliver sink origin event w := hRS (h.deliver sink origin event w)
  start id config w := hRS (h.start id config w)
  requestRanges id request ranges w := hRS (h.requestRanges id request ranges w)
  write id data w := hRS (h.write id data w)
  cancel id w := hRS (h.cancel id w)
  isCurrent w := hRS (h.isCurrent w)
  scheduleTeardown id w := hRS (h.scheduleTeardown id w)
  work job w := hRS (h.work job w)

end HostedStreams
