import HostedStreams.Settings.Environment
import Mathlib.Data.List.Basic

/-! What overriding variables make of settings. Each variable that is set is read and applied before
the next one is looked at, and what has become of the settings is validated last. What cannot be
used ends the work where it is found, and nothing that was applied before is taken back. -/
namespace HostedStreams.Settings

/-! What there is to say against settings and against the texts of variables, in the order in which
it is said. -/

/-- The first objection counts. -/
def verdict : List SettingsError → Except SettingsError Unit
  | [] => .ok ()
  | e :: _ => .error e

theorem verdict_eq_ok_iff {l : List SettingsError} : verdict l = .ok () ↔ l = [] := by
  cases l <;> simp [verdict]

theorem verdict_eq_error_iff {l : List SettingsError} {e : SettingsError} :
    verdict l = .error e ↔ l.head? = some e := by
  cases l <;> simp [verdict]

theorem verdict_append (l m : List SettingsError) :
    verdict (l ++ m) = verdict l >>= fun _ => verdict m := by
  cases l <;> rfl

def zeroObjections (section_ field : String) (n : UInt64) : List SettingsError :=
  if n = 0 then [.invalidField section_ field (some "0") "must be greater than zero"] else []

/-- Only zero is objected to. -/
theorem zeroObjections_eq_nil_iff {section_ field : String} {n : UInt64} :
    zeroObjections section_ field n = [] ↔ 0 < n := by
  rw [zeroObjections, UInt64.pos_iff_ne_zero]
  split <;> simp_all

theorem ensurePositive_eq (section_ field : String) (n : UInt64) :
    ensurePositive section_ field n = verdict (zeroObjections section_ field n) := by
  unfold ensurePositive zeroObjections
  split <;> rfl

/-- What validation finds. -/
def objections (s : Settings) : List SettingsError :=
  zeroObjections "runtime" "queue_capacity" s.dispatch.queueCapacity ++
  (zeroObjections "streams" "internal_buffer_size" s.streams.bufferSize ++
  ((if maxBufferSize < s.streams.bufferSize then
      [.invalidField "streams" "internal_buffer_size" (some (toString s.streams.bufferSize.toNat))
        "exceeds maximum buffer size"]
    else []) ++
  if Text.blank s.telemetry.level then
    [.invalidField "telemetry" "level" none "must not be empty"]
  else []))

/-- Validation tells its first objection. -/
theorem validate_eq (s : Settings) : s.validate = verdict s.objections := by
  simp only [validate, objections, ensurePositive_eq, verdict_append]
  refine bind_congr fun _ => bind_congr fun _ => ?_
  split
  · rfl
  · cases Text.blank s.telemetry.level <;> rfl

/-- What validation vouches for. -/
theorem validate_ok_iff {s : Settings} :
    s.validate = .ok () ↔ 0 < s.dispatch.queueCapacity ∧ 0 < s.streams.bufferSize ∧
      s.streams.bufferSize ≤ maxBufferSize ∧ Text.blank s.telemetry.level = false := by
  rw [validate_eq, verdict_eq_ok_iff, objections, List.append_eq_nil_iff, List.append_eq_nil_iff,
    List.append_eq_nil_iff, zeroObjections_eq_nil_iff, zeroObjections_eq_nil_iff]
  simp

/-- The size that a text writes, if it writes one. -/
def size? (text : String) : Option UInt64 :=
  (Text.word? (Text.trimmed text.toList)).filter (· ≠ 0)

def sizeObjections (section_ field text : String) : List SettingsError :=
  match Text.word? (Text.trimmed text.toList) with
  | none => [.invalidField section_ field (some text) "must be an unsigned integer"]
  | some n => zeroObjections section_ field n

/-- A size that is read is positive. -/
theorem pos_of_size? {text : String} {n : UInt64} (h : size? text = some n) : 0 < n := by
  have hOther := (Option.filter_eq_some_iff.1 h).2
  exact UInt64.pos_iff_ne_zero.2 (by simpa using hOther)

/-- A text writes a size, or there is one thing to say against it. -/
theorem size?_cases (section_ field text : String) :
    (∃ n, size? text = some n ∧ sizeObjections section_ field text = [] ∧
      parsePositive section_ field text = .ok n) ∨
    size? text = none ∧ ∃ e, sizeObjections section_ field text = [e] ∧
      parsePositive section_ field text = .error e := by
  unfold size? sizeObjections parsePositive
  cases Text.word? (Text.trimmed text.toList) with
  | none => exact .inr ⟨rfl, _, rfl, rfl⟩
  | some n =>
    by_cases hZero : n = 0
    · subst hZero
      exact .inr ⟨rfl, _, rfl, rfl⟩
    · have hPositive : 0 < n := UInt64.pos_iff_ne_zero.2 hZero
      have hNone : zeroObjections section_ field n = [] := zeroObjections_eq_nil_iff.2 hPositive
      refine .inl ⟨n, by simp [hZero], hNone, ?_⟩
      simp only [ensurePositive_eq, hNone]
      rfl

/-- A text is objected to unless it writes a size. -/
theorem sizeObjections_eq_nil_iff {section_ field text : String} :
    sizeObjections section_ field text = [] ↔ (size? text).isSome = true := by
  rcases size?_cases section_ field text with ⟨n, hSize, hNone, -⟩ | ⟨hSize, e, hSome, -⟩
  · simp [hSize, hNone]
  · simp [hSize, hSome]

/-- What there is to say against the text of the variable. -/
def textObjections (name text : String) : List SettingsError :=
  match name with
  | "HOSTSTREAM_QUEUE_CAPACITY" => sizeObjections "runtime" "queue_capacity" text
  | "HOSTSTREAM_BUFFER_SIZE" => sizeObjections "streams" "internal_buffer_size" text
  | "HOSTSTREAM_LOG_FORMAT" =>
    if (LogOutput.ofText? text).isSome then [] else [.invalidLogFormat text]
  | _ => []

section

variable (lookup : String → Option String)

/-- What there is to say against the variable, if it is set. -/
def variableObjections (name : String) : List SettingsError :=
  (lookup name).elim [] (textObjections name)

/-- The settings with exactly the fields replaced whose variables are set. -/
def merged (s : Settings) : Settings where
  dispatch.queueCapacity :=
    ((lookup "HOSTSTREAM_QUEUE_CAPACITY").bind size?).getD s.dispatch.queueCapacity
  streams := { s.streams with
    bufferSize := ((lookup "HOSTSTREAM_BUFFER_SIZE").bind size?).getD s.streams.bufferSize }
  telemetry.level := (lookup "HOSTSTREAM_LOG_LEVEL").getD s.telemetry.level
  telemetry.format :=
    ((lookup "HOSTSTREAM_LOG_FORMAT").bind LogOutput.ofText?).or s.telemetry.format

/-- A lookup of some names only. -/
def only (names : List String) : String → Option String :=
  fun name => if name ∈ names then lookup name else none

end

/-! How the work goes. -/

/-- The settings with the variable's field replaced by what the text says. -/
def assign (name text : String) (s : Settings) : Settings :=
  match name with
  | "HOSTSTREAM_QUEUE_CAPACITY" =>
    { s with dispatch.queueCapacity := (size? text).getD s.dispatch.queueCapacity }
  | "HOSTSTREAM_BUFFER_SIZE" =>
    { s with streams.bufferSize := (size? text).getD s.streams.bufferSize }
  | "HOSTSTREAM_LOG_LEVEL" => { s with telemetry.level := text }
  | "HOSTSTREAM_LOG_FORMAT" =>
    { s with telemetry.format := (LogOutput.ofText? text).or s.telemetry.format }
  | _ => s

section

variable {lookup : String → Option String}

/-- Applies one variable, if it is set. -/
def override (lookup : String → Option String) (name : String) :
    ExceptT SettingsError (StateM Settings) Unit :=
  match lookup name with
  | none => pure ()
  | some text =>
    match textObjections name text with
    | [] => modify (assign name text)
    | e :: _ => throw e

section

variable (rest : Unit → ExceptT SettingsError (StateM Settings) Unit)

/-- What is done about a variable that sets a size is to override by it. -/
theorem override_size {name section_ field : String} {replace : UInt64 → Settings → Settings}
    (objections : textObjections name = sizeObjections section_ field)
    (assigns : ∀ text n, size? text = some n → assign name text = replace n) :
    (match lookup name with
      | some text => do
        let n ← liftM (parsePositive section_ field text)
        let done ← modify (replace n)
        rest done
      | _ => rest ()) = override lookup name >>= rest := by
  unfold override
  cases lookup name with
  | none => rfl
  | some text =>
    rcases size?_cases section_ field text with ⟨n, hSize, hNone, hRead⟩ | ⟨-, e, hSome, hRead⟩
    · simp only [objections, hNone, hRead, assigns text n hSize]
      rfl
    · simp only [objections, hSome, hRead]
      rfl

/-- What is done about the variable of the level is to override by it. -/
theorem override_level :
    (match lookup "HOSTSTREAM_LOG_LEVEL" with
      | some text => do
        let done ← modify fun s : Settings => { s with telemetry.level := text }
        rest done
      | _ => rest ()) = override lookup "HOSTSTREAM_LOG_LEVEL" >>= rest := by
  unfold override
  cases lookup "HOSTSTREAM_LOG_LEVEL" <;> rfl

end

/-- One variable after the other is applied, and then comes validation. -/
theorem applyEnvironment_eq (lookup : String → Option String) (s : Settings) :
    s.applyEnvironment lookup =
      (do
        overriding.forM (override lookup)
        liftM (validate (← get)) : ExceptT SettingsError (StateM Settings) Unit).run.run s := by
  have hQueue (text : String) (n : UInt64) (h : size? text = some n) :
      assign "HOSTSTREAM_QUEUE_CAPACITY" text =
        fun s => { s with dispatch.queueCapacity := n } := by
    funext s
    simp [assign, h]
  have hBuffer (text : String) (n : UInt64) (h : size? text = some n) :
      assign "HOSTSTREAM_BUFFER_SIZE" text = fun s => { s with streams.bufferSize := n } := by
    funext s
    simp [assign, h]
  have hFormat (text : String) (format : LogOutput) (h : LogOutput.ofText? text = some format) :
      assign "HOSTSTREAM_LOG_FORMAT" text =
        fun s => { s with telemetry.format := some format } := by
    funext s
    simp [assign, h]
  unfold applyEnvironment
  dsimp only
  congr 2
  simp only [overriding, List.forM_eq_forM, List.forM_cons, List.forM_nil, bind_assoc, pure_bind]
  refine (override_size _ ?_ hQueue).trans (bind_congr fun _ => ?_)
  · rfl
  refine (override_size _ ?_ hBuffer).trans (bind_congr fun _ => ?_)
  · rfl
  refine (override_level _).trans (bind_congr fun _ => ?_)
  unfold override
  cases lookup "HOSTSTREAM_LOG_FORMAT" with
  | none => rfl
  | some text =>
    cases hText : LogOutput.ofText? text with
    | none =>
      simp only [textObjections, hText]
      rfl
    | some format =>
      simp only [textObjections, hText, hFormat text format hText]
      rfl

/-- The settings after one variable that can be used. -/
def overridden (lookup : String → Option String) (s : Settings) (name : String) : Settings :=
  (lookup name).elim s fun text => assign name text s

/-- A variable that can be used is applied, and another one ends the work. -/
theorem run_override (name : String) (s : Settings) :
    (override lookup name).run.run s =
      (match variableObjections lookup name with
        | [] => (.ok (), s.overridden lookup name)
        | e :: _ => (.error e, s) : Except SettingsError Unit × Settings) := by
  unfold override variableObjections overridden
  cases lookup name with
  | none => rfl
  | some text =>
    cases hText : textObjections name text <;> simp only [Option.elim_some, hText] <;> rfl

theorem run_validate (s : Settings) :
    (do liftM (validate (← get)) : ExceptT SettingsError (StateM Settings) Unit).run.run s =
      (s.validate, s) := by
  change (liftM s.validate : ExceptT SettingsError (StateM Settings) Unit).run.run s = _
  cases s.validate <;> rfl

variable (lookup)

/-- Whatever is done last is done where all variables can be used, and what cannot be used keeps
the ones behind it from being looked at. -/
theorem run_forM_override (names : List String)
    (last : ExceptT SettingsError (StateM Settings) Unit) (s : Settings) :
    ((∀ name ∈ names, variableObjections lookup name = []) ∧
      (names.forM (override lookup) >>= fun _ => last).run.run s =
        last.run.run (names.foldl (overridden lookup) s)) ∨
    ∃ before name after e l, names = before ++ name :: after ∧
      (∀ earlier ∈ before, variableObjections lookup earlier = []) ∧
      variableObjections lookup name = e :: l ∧
      (names.forM (override lookup) >>= fun _ => last).run.run s =
        (.error e, before.foldl (overridden lookup) s) := by
  induction names generalizing s with
  | nil => exact .inl ⟨fun _ h => absurd h List.not_mem_nil, rfl⟩
  | cons name names ih =>
    simp only [List.forM_eq_forM, List.forM_cons, bind_assoc, ExceptT.run_bind, StateT.run_bind,
      run_override]
    cases hObjections : variableObjections lookup name with
    | cons e l => exact .inr ⟨[], name, names, e, l, rfl, by simp, hObjections, rfl⟩
    | nil =>
      rcases ih (s.overridden lookup name) with
        ⟨hNone, hRun⟩ | ⟨before, other, after, e, l, rfl, hBefore, hOther, hRun⟩
      · exact .inl ⟨List.forall_mem_cons.2 ⟨hObjections, hNone⟩, hRun⟩
      · exact .inr ⟨name :: before, other, after, e, l, rfl,
          List.forall_mem_cons.2 ⟨hObjections, hBefore⟩, hOther, hRun⟩

/-- Variables that are applied one after the other make the merged settings. -/
theorem foldl_overriding (s : Settings) :
    overriding.foldl (overridden lookup) s = s.merged lookup := by
  simp only [overriding, List.foldl_cons, List.foldl_nil, overridden, merged]
  cases lookup "HOSTSTREAM_QUEUE_CAPACITY" <;> cases lookup "HOSTSTREAM_BUFFER_SIZE" <;>
    cases lookup "HOSTSTREAM_LOG_LEVEL" <;> cases lookup "HOSTSTREAM_LOG_FORMAT" <;>
    simp [assign]

/-- The variables up to one of them are those of a lookup that knows no others. -/
theorem foldl_before {before after : List String} (h : overriding = before ++ after)
    (s : Settings) : before.foldl (overridden lookup) s = s.merged (only lookup before) := by
  have hNodup : (before ++ after).Nodup := h ▸ by decide
  have hBefore (t : Settings) : ∀ name ∈ before,
      t.overridden (only lookup before) name = t.overridden lookup name := by
    intro name hName
    simp [overridden, only, hName]
  have hAfter (t : Settings) : ∀ name ∈ after, t.overridden (only lookup before) name = t := by
    intro name hName
    have hOther : name ∉ before := fun hMem => (List.nodup_append.1 hNodup).2.2 _ hMem _ hName rfl
    simp [overridden, only, hOther]
  calc before.foldl (overridden lookup) s
      = before.foldl (overridden (only lookup before)) s :=
        (List.foldl_ext _ _ s hBefore).symm
    _ = after.foldl (overridden (only lookup before))
          (before.foldl (overridden (only lookup before)) s) :=
        ((List.foldl_ext _ _ _ hAfter).trans (List.foldl_fixed after)).symm
    _ = s.merged (only lookup before) := by rw [← List.foldl_append, ← h, foldl_overriding]

/-- Either all variables can be used and what they make of the settings is validated, or the work
ends at the first one that cannot be used. -/
theorem applyEnvironment_cases (s : Settings) :
    ((∀ name ∈ overriding, variableObjections lookup name = []) ∧
      s.applyEnvironment lookup = ((s.merged lookup).validate, s.merged lookup)) ∨
    ∃ before name after e l, overriding = before ++ name :: after ∧
      (∀ earlier ∈ before, variableObjections lookup earlier = []) ∧
      variableObjections lookup name = e :: l ∧
      s.applyEnvironment lookup = (.error e, s.merged (only lookup before)) := by
  rw [applyEnvironment_eq]
  rcases run_forM_override lookup overriding (do liftM (validate (← get))) s with
    ⟨hNone, hRun⟩ | ⟨before, name, after, e, l, hOrder, hBefore, hName, hRun⟩
  · rw [foldl_overriding, run_validate] at hRun
    exact .inl ⟨hNone, hRun⟩
  · rw [foldl_before lookup hOrder] at hRun
    exact .inr ⟨before, name, after, e, l, hOrder, hBefore, hName, hRun⟩

/-- Where all variables can be used, all are applied. -/
theorem applyEnvironment_of_usable
    (usable : ∀ name ∈ overriding, variableObjections lookup name = [])
    (s : Settings) : s.applyEnvironment lookup = ((s.merged lookup).validate, s.merged lookup) := by
  rcases applyEnvironment_cases lookup s with
    ⟨-, hRun⟩ | ⟨before, name, after, e, l, hOrder, -, hName, -⟩
  · exact hRun
  · rw [usable name (by simp [hOrder])] at hName
    cases hName

/-- What is said against the variables comes before what is said against the settings. -/
theorem fst_applyEnvironment (s : Settings) :
    (s.applyEnvironment lookup).1 =
      verdict (overriding.flatMap (variableObjections lookup) ++ (s.merged lookup).objections) := by
  rcases applyEnvironment_cases lookup s with
    ⟨hNone, hRun⟩ | ⟨before, name, after, e, l, hOrder, hBefore, hName, hRun⟩
  · rw [hRun, List.flatMap_eq_nil_iff.2 hNone, validate_eq]
    rfl
  · rw [hRun, hOrder, List.flatMap_append, List.flatMap_eq_nil_iff.2 hBefore, List.flatMap_cons,
      hName]
    rfl

/-- There is nothing to say against a variable that is not set. -/
theorem variableObjections_eq_nil_iff {name : String} :
    variableObjections lookup name = [] ↔
      ∀ text, lookup name = some text → textObjections name text = [] := by
  unfold variableObjections
  cases lookup name <;> simp

/-- Each size that is set can be read, and the format that is set has a name. -/
def Usable : Prop :=
  (∀ text, lookup "HOSTSTREAM_QUEUE_CAPACITY" = some text → (size? text).isSome = true) ∧
  (∀ text, lookup "HOSTSTREAM_BUFFER_SIZE" = some text → (size? text).isSome = true) ∧
  ∀ text, lookup "HOSTSTREAM_LOG_FORMAT" = some text → (LogOutput.ofText? text).isSome = true

/-- Variables that can be used are those that nothing is to be said against. -/
theorem usable_iff :
    Usable lookup ↔ ∀ name ∈ overriding, variableObjections lookup name = [] := by
  simp [Usable, overriding, variableObjections_eq_nil_iff, textObjections,
    sizeObjections_eq_nil_iff, Option.isSome_iff_ne_none]

/-- Settings that are left behind by success are valid. -/
theorem validate_of_applyEnvironment {lookup : String → Option String} {s t : Settings}
    (h : s.applyEnvironment lookup = (.ok (), t)) : t.validate = .ok () := by
  have hRun := applyEnvironment_cases lookup s
  rw [h] at hRun
  rcases hRun with ⟨-, hRun⟩ | ⟨_, _, _, _, _, -, -, -, hRun⟩
  · obtain ⟨hValid, rfl⟩ := Prod.mk.inj hRun
    exact hValid.symm
  · cases hRun

/-- What replaces the fields does so once and for all. -/
theorem merged_merged (s : Settings) : (s.merged lookup).merged lookup = s.merged lookup := by
  simp only [merged]
  cases (lookup "HOSTSTREAM_QUEUE_CAPACITY").bind size? <;>
    cases (lookup "HOSTSTREAM_BUFFER_SIZE").bind size? <;>
    cases lookup "HOSTSTREAM_LOG_LEVEL" <;>
    cases (lookup "HOSTSTREAM_LOG_FORMAT").bind LogOutput.ofText? <;> rfl

/-- What is promised of settings and a lookup of the variables that override them. -/
structure Overrides (s : Settings) : Prop where
  /-- They go together exactly if the variables can be used and what they make of the settings can
  be honoured. -/
  accepted : (s.applyEnvironment lookup).1 = .ok () ↔ Usable lookup ∧
    0 < (s.merged lookup).dispatch.queueCapacity ∧ 0 < (s.merged lookup).streams.bufferSize ∧
    (s.merged lookup).streams.bufferSize ≤ maxBufferSize ∧
    Text.blank (s.merged lookup).telemetry.level = false
  /-- Then that is what comes of it, it validates, and doing the same again changes nothing. -/
  result : (s.applyEnvironment lookup).1 = .ok () →
    s.applyEnvironment lookup = (.ok (), s.merged lookup) ∧ (s.merged lookup).validate = .ok () ∧
      (s.merged lookup).applyEnvironment lookup = (.ok (), s.merged lookup)
  /-- Otherwise the first objection is the answer: those to the variables come in the order of the
  variables, and those to what they make of the settings come behind them. -/
  refused : ∀ e, (s.applyEnvironment lookup).1 = .error e ↔
    (overriding.flatMap (variableObjections lookup) ++ (s.merged lookup).objections).head? = some e
  /-- Fields without a variable that is set stay. -/
  untouched : (s.merged lookup).streams.cache = s.streams.cache ∧
    (s.merged lookup).streams.seekable = s.streams.seekable ∧
    (lookup "HOSTSTREAM_QUEUE_CAPACITY" = none →
      (s.merged lookup).dispatch.queueCapacity = s.dispatch.queueCapacity) ∧
    (lookup "HOSTSTREAM_BUFFER_SIZE" = none →
      (s.merged lookup).streams.bufferSize = s.streams.bufferSize) ∧
    (lookup "HOSTSTREAM_LOG_LEVEL" = none →
      (s.merged lookup).telemetry.level = s.telemetry.level) ∧
    (lookup "HOSTSTREAM_LOG_FORMAT" = none →
      (s.merged lookup).telemetry.format = s.telemetry.format)

/-- An environment is accepted if its variables can be used and the merged settings are valid. -/
theorem accepted_iff (s : Settings) : (s.applyEnvironment lookup).1 = .ok () ↔
    Usable lookup ∧ (s.merged lookup).validate = .ok () := by
  rw [fst_applyEnvironment, verdict_eq_ok_iff, List.append_eq_nil_iff, List.flatMap_eq_nil_iff,
    ← usable_iff, ← verdict_eq_ok_iff, ← validate_eq]

/-- What is promised of overriding holds for all settings and all lookups. -/
theorem environment_overrides (s : Settings) : s.Overrides lookup where
  accepted := by rw [accepted_iff, validate_ok_iff]
  result h := by
    obtain ⟨hUsable, hValid⟩ := (accepted_iff lookup s).1 h
    have hRun := applyEnvironment_of_usable lookup ((usable_iff lookup).1 hUsable)
    refine ⟨?_, hValid, ?_⟩
    · rw [hRun s, hValid]
    · rw [hRun (s.merged lookup), merged_merged, hValid]
  refused e := by rw [fst_applyEnvironment, verdict_eq_error_iff]
  untouched := by simp +contextual [merged]

/-- A process that sets the variables given. -/
def environment (pairs : List (String × String)) : String → Option String :=
  fun name => pairs.lookup name

/-- A usable environment: blanks around a size and capital letters in a format do not matter. -/
theorem environment_overrides_loud :
    ({ streams := { cache := true } } : Settings).applyEnvironment
        (environment [("HOSTSTREAM_QUEUE_CAPACITY", " +8 "), ("HOSTSTREAM_LOG_FORMAT", "JSON")]) =
      (.ok (), { dispatch := { queueCapacity := 8 }, streams := { cache := true },
                 telemetry := { format := some .json } }) ∧
    ({ streams := { cache := true } } : Settings).Overrides
      (environment [("HOSTSTREAM_QUEUE_CAPACITY", " +8 "), ("HOSTSTREAM_LOG_FORMAT", "JSON")]) :=
  ⟨by rfl, environment_overrides _ _⟩

/-- What is promised of settings that are left behind where an environment cannot be used. -/
structure Interrupted (s : Settings) (e : SettingsError) (t : Settings) : Prop where
  /-- Variables are applied up to the first one that cannot be used, or all of them if it is what
  they make of the settings that cannot be honoured. Nothing else is changed. -/
  left : ∃ before after, overriding = before ++ after ∧
    (∀ name ∈ before, variableObjections lookup name = []) ∧
    ((∃ name rest, after = name :: rest ∧ (variableObjections lookup name).head? = some e) ∨
      after = [] ∧ t.validate = .error e) ∧
    t = s.merged (only lookup before) ∧ ((∀ name ∈ before, lookup name = none) → t = s)
  /-- Settings that could be honoured still can, unless a level or a buffer was applied that
  cannot. -/
  valid : s.validate = .ok () → (t.validate = .ok () ↔
    t.streams.bufferSize ≤ maxBufferSize ∧ Text.blank t.telemetry.level = false)

theorem pos_getD_size? {text : Option String} {n : UInt64} (h : 0 < n) :
    0 < (text.bind size?).getD n := by
  cases hSize : text.bind size? with
  | none => exact h
  | some m =>
    obtain ⟨_, -, hSize⟩ := Option.bind_eq_some_iff.1 hSize
    exact pos_of_size? hSize

/-- Variables that can be used do no harm to sizes. -/
theorem validate_merged_iff {s : Settings} (valid : s.validate = .ok ()) :
    (s.merged lookup).validate = .ok () ↔
      (s.merged lookup).streams.bufferSize ≤ maxBufferSize ∧
        Text.blank (s.merged lookup).telemetry.level = false := by
  obtain ⟨hQueue, hBuffer, -, -⟩ := validate_ok_iff.1 valid
  rw [validate_ok_iff, and_iff_right (show 0 < (s.merged lookup).dispatch.queueCapacity from
    pos_getD_size? hQueue), and_iff_right (show 0 < (s.merged lookup).streams.bufferSize from
    pos_getD_size? hBuffer)]

/-- Variables that are not set change nothing. -/
theorem merged_of_unset {names : List String} (unset : ∀ name ∈ names, lookup name = none)
    (s : Settings) : s.merged (only lookup names) = s := by
  have hUnset (name : String) : only lookup names name = none := by
    unfold only
    split
    · exact unset name ‹_›
    · rfl
  simp [merged, hUnset]

/-- What is left behind by a failure is what was applied before it. -/
theorem interrupted_of_error {lookup : String → Option String} {s t : Settings}
    {e : SettingsError} (h : s.applyEnvironment lookup = (.error e, t)) :
    s.Interrupted lookup e t := by
  obtain ⟨before, after, hOrder, hBefore, hCause, hLeft⟩ : ∃ before after,
      overriding = before ++ after ∧ (∀ name ∈ before, variableObjections lookup name = []) ∧
      ((∃ name rest, after = name :: rest ∧ (variableObjections lookup name).head? = some e) ∨
        after = [] ∧ t.validate = .error e) ∧
      t = s.merged (only lookup before) := by
    have hRun := applyEnvironment_cases lookup s
    rw [h] at hRun
    rcases hRun with ⟨hNone, hRun⟩ | ⟨before, name, after, _, l, hOrder, hBefore, hName, hRun⟩
    · obtain ⟨hError, hLeft⟩ := Prod.mk.inj hRun
      have hAll := foldl_before lookup (List.append_nil overriding).symm s
      rw [foldl_overriding] at hAll
      exact ⟨overriding, [], (List.append_nil _).symm, hNone, .inr ⟨rfl, hLeft ▸ hError.symm⟩,
        hLeft.trans hAll⟩
    · cases hRun
      exact ⟨before, name :: after, hOrder, hBefore, .inl ⟨name, after, rfl, by rw [hName]; rfl⟩,
        rfl⟩
  refine ⟨⟨before, after, hOrder, hBefore, hCause, hLeft, fun unset => ?_⟩, fun valid => ?_⟩
  · rw [hLeft, merged_of_unset lookup unset]
  · rw [hLeft]
    exact validate_merged_iff _ valid

/-- The size of the queue is applied, and so is the level, before the format turns out to be none.
-/
theorem interrupted_of_error_yaml :
    ({} : Settings).applyEnvironment (environment [("HOSTSTREAM_LOG_FORMAT", "yaml"),
        ("HOSTSTREAM_LOG_LEVEL", " "), ("HOSTSTREAM_QUEUE_CAPACITY", "8")]) =
      (.error (.invalidLogFormat "yaml"),
        { dispatch := { queueCapacity := 8 }, telemetry := { level := " " } }) ∧
    ({} : Settings).Interrupted
      (environment [("HOSTSTREAM_LOG_FORMAT", "yaml"), ("HOSTSTREAM_LOG_LEVEL", " "),
        ("HOSTSTREAM_QUEUE_CAPACITY", "8")])
      (.invalidLogFormat "yaml")
      { dispatch := { queueCapacity := 8 }, telemetry := { level := " " } } :=
  ⟨by rfl, interrupted_of_error (by rfl)⟩

/-- A buffer that is too large is not taken back: settings that could be honoured cannot any more.
-/
theorem not_restored_oversized :
    ¬ ∀ (lookup : String → Option String) (s t : Settings) (e : SettingsError),
      s.applyEnvironment lookup = (.error e, t) →
        t = s ∧ (s.validate = .ok () → t.validate = .ok ()) := by
  intro restored
  have hRun : ({} : Settings).applyEnvironment
        (environment [("HOSTSTREAM_BUFFER_SIZE", "134217728")]) =
      (.error (.invalidField "streams" "internal_buffer_size" (some "134217728")
        "exceeds maximum buffer size"), { streams := { bufferSize := 134217728 } }) := by rfl
  exact absurd (restored _ _ _ _ hRun).1 (by decide)

end

end HostedStreams.Settings
