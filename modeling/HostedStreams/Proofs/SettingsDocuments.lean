import HostedStreams.Settings.Codec
import HostedStreams.Proofs.Records

/-! Which documents write settings. At both levels the order of the members does not matter, nor do
members of other names, and what is left out, a field or a whole section, has its default. -/
namespace HostedStreams

open Json

/-- A field that is left out has its default. -/
theorem Json.Slot.withDefault_offered {α : Type} {read : Json → Option α} {v : Json} {a : α}
    (back : read v = some a) (p : Prop) [Decidable p] (default : α) :
    (if p then missing else given v).withDefault default read =
      some (if p then default else a) := by
  split
  · rfl
  · exact back

theorem LogOutput.fromJson?_toJson (o : LogOutput) : fromJson? o.toJson = some o := by
  cases o <;> rfl

/-! What the sections say, and what they come to where some of the fields have their default. -/

namespace DispatchSettings

def fields (s : DispatchSettings) : List (String × Json) :=
  [("queue_capacity", .ofWord s.queueCapacity)]

def without (s : DispatchSettings) (left : String → Bool) : DispatchSettings where
  queueCapacity := if left "queue_capacity" then 256 else s.queueCapacity

end DispatchSettings

namespace StreamDefaults

def fields (s : StreamDefaults) : List (String × Json) :=
  [("internal_buffer_size", .ofWord s.bufferSize), ("cache", .bool s.cache),
    ("seekable", .bool s.seekable)]

def without (s : StreamDefaults) (left : String → Bool) : StreamDefaults where
  bufferSize := if left "internal_buffer_size" then 131072 else s.bufferSize
  cache := if left "cache" then false else s.cache
  seekable := if left "seekable" then false else s.seekable

end StreamDefaults

namespace TelemetrySettings

def fields (s : TelemetrySettings) : List (String × Json) :=
  [("level", .str s.level), ("format", .ofOption LogOutput.toJson s.format)]

def without (s : TelemetrySettings) (left : String → Bool) : TelemetrySettings where
  level := if left "level" then "info" else s.level
  format := if left "format" then none else s.format

end TelemetrySettings

section

variable {omitted : List String} {members : List (String × Json)}

/-- The dispatcher's settings are read off what its section offers. -/
theorem DispatchSettings.fromJson?_of_offers {s : DispatchSettings}
    (h : Slot.Offers omitted s.fields members) :
    fromJson? (.obj members) = some (s.without (· ∈ omitted)) := by
  simp only [Slot.Offers, fields, List.forall_mem_cons] at h
  obtain ⟨hCapacity, -⟩ := h
  simp only [fromJson?, slots?, List.mapM_cons, hCapacity]
  simp [Slot.withDefault_offered (word?_ofWord _), without]

/-- The streams' defaults are read off what their section offers. -/
theorem StreamDefaults.fromJson?_of_offers {s : StreamDefaults}
    (h : Slot.Offers omitted s.fields members) :
    fromJson? (.obj members) = some (s.without (· ∈ omitted)) := by
  simp only [Slot.Offers, fields, List.forall_mem_cons] at h
  obtain ⟨hBuffer, hCache, hSeekable, -⟩ := h
  simp only [fromJson?, slots?, List.mapM_cons, hBuffer, hCache, hSeekable]
  simp [Slot.withDefault_offered (word?_ofWord _), Slot.withDefault_offered (bool?_bool _),
    StreamConfig.defaultBufferSize, without]

/-- The telemetry's settings are read off what its section offers. -/
theorem TelemetrySettings.fromJson?_of_offers {s : TelemetrySettings}
    (h : Slot.Offers omitted s.fields members) :
    fromJson? (.obj members) = some (s.without (· ∈ omitted)) := by
  simp only [Slot.Offers, fields, List.forall_mem_cons] at h
  obtain ⟨hLevel, hFormat, -⟩ := h
  have hNull : nullable? LogOutput.fromJson? (.ofOption LogOutput.toJson s.format) =
      some s.format := nullable?_ofOption LogOutput.fromJson?_toJson rfl s.format
  simp only [fromJson?, slots?, List.mapM_cons, hLevel, hFormat]
  simp [Slot.withDefault_offered (str?_str _), Slot.withDefault_offered hNull, without]

end

namespace Settings

/-- What a document of settings leaves out: sections, and fields of the sections that are there. -/
structure Omission where
  sections : List String := []
  /-- By the name of the section. -/
  fields : String → List String := fun _ => []

/-- A field is not there, be it that its section is not. -/
def Omission.covers (o : Omission) (section_ field : String) : Bool :=
  section_ ∈ o.sections || field ∈ o.fields section_

/-- The settings with the default in each place that is left out. -/
def without (s : Settings) (o : Omission) : Settings where
  dispatch := s.dispatch.without (o.covers "runtime")
  streams := s.streams.without (o.covers "streams")
  telemetry := s.telemetry.without (o.covers "telemetry")

/-- What a document says of the sections, each of them an object of the members given. -/
def parts (runtime streams telemetry : List (String × Json)) : List (String × Json) :=
  [("runtime", .obj runtime), ("streams", .obj streams), ("telemetry", .obj telemetry)]

variable {s : Settings} {o : Omission} {members runtime streams telemetry : List (String × Json)}

/-- A section that is left out comes to what it would without any of its fields. -/
theorem Omission.withDefault_offered {α : Type} {read : Json → Option α} {v : Json}
    {part : (String → Bool) → α} {section_ : String}
    (back : read v = some (part (· ∈ o.fields section_))) (default : α)
    (nothing : part (fun _ => true) = default) :
    (if section_ ∈ o.sections then Slot.missing else .given v).withDefault default read =
      some (part (o.covers section_)) := by
  rw [Slot.withDefault_offered back, ← nothing]
  by_cases hSection : section_ ∈ o.sections
  · have hAll : o.covers section_ = fun _ => true := funext fun _ => by simp [covers, hSection]
    rw [if_pos hSection, hAll]
  · have hSame : o.covers section_ = (· ∈ o.fields section_) :=
      funext fun _ => by simp [covers, hSection]
    rw [if_neg hSection, hSame]

/-- Settings are read off what their sections offer, with the default for what is left out. -/
theorem fromJson?_of_offers (h : Slot.Offers o.sections (parts runtime streams telemetry) members)
    (hRuntime : Slot.Offers (o.fields "runtime") s.dispatch.fields runtime)
    (hStreams : Slot.Offers (o.fields "streams") s.streams.fields streams)
    (hTelemetry : Slot.Offers (o.fields "telemetry") s.telemetry.fields telemetry) :
    fromJson? (.obj members) = some (s.without o) := by
  simp only [Slot.Offers, parts, List.forall_mem_cons] at h
  obtain ⟨hDispatch, hDefaults, hLogging, -⟩ := h
  simp only [fromJson?, slots?, List.mapM_cons, hDispatch, hDefaults, hLogging]
  simp [Omission.withDefault_offered (DispatchSettings.fromJson?_of_offers hRuntime) {} rfl,
    Omission.withDefault_offered (StreamDefaults.fromJson?_of_offers hStreams) {} rfl,
    Omission.withDefault_offered (TelemetrySettings.fromJson?_of_offers hTelemetry) {} rfl,
    without]

variable (s o members) in
/-- The members are the sections, less what is left out, and the members of each section are its
fields, less what is left out. -/
def Composes : Prop :=
  ∃ runtime streams telemetry,
    Slot.Arranges (o.fields "runtime") s.dispatch.fields runtime ∧
    Slot.Arranges (o.fields "streams") s.streams.fields streams ∧
    Slot.Arranges (o.fields "telemetry") s.telemetry.fields telemetry ∧
    Slot.Arranges o.sections (parts runtime streams telemetry) members

/-- Members that compose the settings are read as the settings. -/
theorem Composes.fromJson? (h : s.Composes o members) :
    Settings.fromJson? (.obj members) = some (s.without o) := by
  obtain ⟨runtime, streams, telemetry, hRuntime, hStreams, hTelemetry, hParts⟩ := h
  refine fromJson?_of_offers (hParts.offers ?_) (hRuntime.offers ?_) (hStreams.offers ?_)
    (hTelemetry.offers ?_)
  · simp [parts]
  · simp [DispatchSettings.fields]
  · simp [StreamDefaults.fields]
  · simp [TelemetrySettings.fields]

theorem composes_self (s : Settings) :
    s.Composes {} (parts s.dispatch.fields s.streams.fields s.telemetry.fields) :=
  ⟨_, _, _, Slot.arranges_self _, Slot.arranges_self _, Slot.arranges_self _, Slot.arranges_self _⟩

/-- No setting is a fraction. -/
theorem plain_toJson (s : Settings) : s.toJson.Plain := by
  have hOutput (o : LogOutput) : o.toJson.Shallow := shallow_str o.name
  refine .obj ?_
  simp only [List.forall_mem_cons, List.not_mem_nil, false_imp_iff, implies_true, and_true]
  refine ⟨.obj ?_, .obj ?_, .obj ?_⟩
  · simp [(shallow_ofWord _).1]
  · simp [(shallow_ofWord _).1, (shallow_bool _).1]
  · simp [(shallow_str _).1, (shallow_ofOption hOutput _).1]

/-- What is loaded from a document is read and then validated. -/
theorem load_of_ofDocument? {document : String} (h : ofDocument? document = some s) :
    load document = s.validate.map fun _ => s := by
  simp only [load, h]
  cases s.validate <;> rfl

/-- Every document that reads as an object of the members writes the settings. -/
def Written (members : List (String × Json)) (s : Settings) : Prop :=
  ∀ document, read? document = some (.obj members) →
    ofDocument? document = some s ∧ load document = s.validate.map fun _ => s

/-- Every document of members that compose the settings writes them. -/
theorem Composes.written (h : s.Composes o members) : Written members (s.without o) := by
  intro document hRead
  have hSettings : ofDocument? document = some (s.without o) := by
    rw [ofDocument?, hRead, Option.bind_some, h.fromJson?]
  exact ⟨hSettings, load_of_ofDocument? hSettings⟩

/-- What is promised of the documents of the settings. -/
structure ReadBack (s : Settings) : Prop where
  /-- What is printed is read. -/
  decoded : ofDocument? s.toJson.render = some s
  /-- It is accepted if it can be honoured, and refused for what validation finds otherwise. -/
  loaded : load s.toJson.render = s.validate.map fun _ => s
  /-- What is left out has its default, and nothing else does, wherever things stand and whatever
  stands among them. -/
  omitted : ∀ {o members}, s.Composes o members → Written members (s.without o) ∧
    ((∀ m ∈ members, m.2.Plain) → ofDocument? (render (.obj members)) = some (s.without o))

/-- Every document of the settings is read back, whatever is left out and wherever the rest
stands. -/
theorem documents_read_back (s : Settings) : s.ReadBack where
  decoded := (s.composes_self.written _ (read?_render s.plain_toJson)).1
  loaded := (s.composes_self.written _ (read?_render s.plain_toJson)).2
  omitted h := ⟨h.written, fun hPlain => (h.written _ (read?_render (.obj hPlain))).1⟩

/-- Settings with no default among them. -/
def pinned : Settings where
  dispatch.queueCapacity := 8
  streams := { bufferSize := 4096, cache := true, seekable := true }
  telemetry := { level := "debug", format := some .json }

/-- The streams are left out, and so is the level. -/
def curtailed : Omission where
  sections := ["streams"]
  fields := fun section_ => if section_ = "telemetry" then ["level"] else []

/-- The sections stand in the other order, behind what settings do not know, and one of them has
such a member too. -/
def shuffled : List (String × Json) :=
  [("note", .obj [("streams", .null)]),
    ("telemetry", .obj [("colour", .bool true), ("format", .str "json")]),
    ("runtime", .obj [("queue_capacity", .int 8)])]

/-- The document is composed of what is left. -/
theorem composes_shuffled : pinned.Composes curtailed shuffled := by
  have hTelemetry : Slot.Arranges ["level"] pinned.telemetry.fields
      [("colour", .bool true), ("format", .str "json")] :=
    ⟨[("colour", .bool true)], by decide, .swap _ _ _⟩
  refine ⟨_, _, _, Slot.arranges_self _, Slot.arranges_self _, hTelemetry,
    [("note", .obj [("streams", .null)])], by decide, ?_⟩
  exact (List.reverse_perm shuffled).symm

/-- It is read with defaults for what is left out. -/
theorem documents_read_back_shuffled :
    ofDocument? (render (.obj shuffled)) = some
        { dispatch := { queueCapacity := 8 }, telemetry := { format := some .json } } ∧
      ofDocument? pinned.toJson.render = some pinned := by
  have hPlain : ∀ m ∈ shuffled, m.2.Plain := by
    simp only [shuffled, List.forall_mem_cons, List.not_mem_nil, false_imp_iff, implies_true,
      and_true]
    refine ⟨.obj ?_, .obj ?_, .obj ?_⟩
    · simp [Plain.null]
    · simp [Plain.bool, Plain.str]
    · simpa using Plain.int (show 8 < UInt64.size by decide)
  exact ⟨((documents_read_back pinned).omitted composes_shuffled).2 hPlain,
    (documents_read_back pinned).decoded⟩

end Settings

end HostedStreams
