import HostedStreams.Event.Codec
import HostedStreams.Proofs.Records

/-! Which documents write an event. The order of the members does not matter, nor do members that no
event knows by that name; what may be left out stands for nothing; and nothing is said twice. -/
namespace HostedStreams

open Json

theorem RequestId.fromJson?_toJson (id : RequestId) : fromJson? id.toJson = some id := by
  rw [fromJson?, toJson, word?_ofWord]
  rfl

/-! What a document of an event says. -/

namespace EventKind

/-- The names of the payload's fields. -/
def fieldNames : EventKind → List String
  | .created | .destroyed => []
  | .failedOpen => ["reason"]
  | .opened => ["length", "mime_type", "headers", "cache_filename", "seekable"]
  | .dataArrived => ["offset", "data", "request"]
  | .completed => ["success"]

/-- The fields that say something or nothing. -/
def optionalNames : EventKind → List String
  | .created | .destroyed | .completed => []
  | .failedOpen => ["reason"]
  | .opened => ["length", "mime_type", "headers", "cache_filename", "seekable"]
  | .dataArrived => ["request"]

/-- No field is named like another one, or like the tag. -/
theorem nodup_names (k : EventKind) : ("type" :: k.fieldNames).Nodup := by
  cases k <;> decide

/-- The tag is never left out. -/
theorem type_not_optional (k : EventKind) : "type" ∉ k.optionalNames := by
  cases k <;> decide

end EventKind

/-- The payload, less what it says under the names. -/
def FailedOpen.without (p : FailedOpen) (names : List String) : FailedOpen where
  reason := if "reason" ∈ names then none else p.reason

def Opened.without (p : Opened) (names : List String) : Opened where
  length := if "length" ∈ names then none else p.length
  mimeType := if "mime_type" ∈ names then none else p.mimeType
  headers := if "headers" ∈ names then none else p.headers
  cacheFilename := if "cache_filename" ∈ names then none else p.cacheFilename
  seekable := if "seekable" ∈ names then none else p.seekable

def DataArrived.without (p : DataArrived) (names : List String) : DataArrived where
  offset := p.offset
  data := p.data
  request := if "request" ∈ names then none else p.request

def Event.without (e : Event) (names : List String) : Event :=
  match e with
  | .created => .created
  | .destroyed => .destroyed
  | .failedOpen p => .failedOpen (p.without names)
  | .opened p => .opened (p.without names)
  | .dataArrived p => .dataArrived (p.without names)
  | .completed p => .completed p

/-- Nothing taken away. -/
theorem Event.without_nil (e : Event) : e.without [] = e := by
  cases e <;> rfl

section

variable {members : List (String × Json)} {omitted : List String}

/-- A failure is read off what is offered. -/
theorem FailedOpen.fromJson?_of_offers {p : FailedOpen} (h : Slot.Offers omitted p.fields members) :
    fromJson? (.obj members) = some (p.without omitted) := by
  simp only [Slot.Offers, fields, List.forall_mem_cons] at h
  obtain ⟨hReason, -⟩ := h
  simp only [fromJson?, slots?, List.mapM_cons, hReason]
  simp [Slot.optional_offered str?_str rfl, without]

/-- An opening is read off what is offered. -/
theorem Opened.fromJson?_of_offers {p : Opened} (h : Slot.Offers omitted p.fields members) :
    fromJson? (.obj members) = some (p.without omitted) := by
  simp only [Slot.Offers, fields, List.forall_mem_cons] at h
  obtain ⟨hLength, hMime, hHeaders, hCache, hSeekable, -⟩ := h
  simp only [fromJson?, slots?, List.mapM_cons, hLength, hMime, hHeaders, hCache, hSeekable]
  simp [Slot.optional_offered word?_ofWord rfl, Slot.optional_offered str?_str rfl,
    Slot.optional_offered bool?_bool rfl, without]

/-- A chunk is read off what is offered, of which only the request may be missing. -/
theorem DataArrived.fromJson?_of_offers {p : DataArrived} (h : Slot.Offers omitted p.fields members)
    (offset : "offset" ∉ omitted) (data : "data" ∉ omitted) :
    fromJson? (.obj members) = some (p.without omitted) := by
  simp only [Slot.Offers, fields, List.forall_mem_cons, if_neg offset, if_neg data] at h
  obtain ⟨hOffset, hData, hRequest, -⟩ := h
  simp only [fromJson?, slots?, List.mapM_cons, hOffset, hData, hRequest]
  simp [Slot.optional_offered RequestId.fromJson?_toJson rfl, Slot.required, list?, word?_ofWord,
    mapM_map_of_back byte?_ofNat, without]

/-- An end is read off what is offered. -/
theorem Completed.fromJson?_of_offers {p : Completed} (h : Slot.Offers omitted p.fields members)
    (success : "success" ∉ omitted) : fromJson? (.obj members) = some p := by
  simp only [Slot.Offers, fields, List.forall_mem_cons, if_neg success] at h
  obtain ⟨hSuccess, -⟩ := h
  simp only [fromJson?, slots?, List.mapM_cons, hSuccess]
  simp [Slot.required, bool?_bool]

end

namespace Event

/-- What the document of the event has to say. -/
def members (e : Event) : List (String × Json) :=
  ("type", .str e.tag) :: e.fields

theorem map_members (e : Event) : e.members.map (·.1) = "type" :: e.kind.fieldNames := by
  cases e <;> rfl

section

variable {e : Event} {members : List (String × Json)} {omitted : List String}

/-- A payload is read off what is offered under the event's tag. -/
theorem ofTagged?_of_offers (droppable : ∀ name ∈ omitted, name ∈ e.kind.optionalNames)
    (h : Slot.Offers omitted e.fields members) :
    ofTagged? e.tag (.obj members) = some (e.without omitted) := by
  have hKept {name : String} (kept : name ∉ e.kind.optionalNames) : name ∉ omitted :=
    fun hName => kept (droppable name hName)
  cases e with
  | created | destroyed => rfl
  | failedOpen p => simp [ofTagged?, tag, FailedOpen.fromJson?_of_offers h, without]
  | opened p => simp [ofTagged?, tag, Opened.fromJson?_of_offers h, without]
  | dataArrived p =>
    have hPayload := DataArrived.fromJson?_of_offers h
      (hKept (show _ ∉ EventKind.dataArrived.optionalNames by decide))
      (hKept (show _ ∉ EventKind.dataArrived.optionalNames by decide))
    simp [ofTagged?, tag, hPayload, without]
  | completed p =>
    have hPayload := Completed.fromJson?_of_offers h
      (hKept (show _ ∉ EventKind.completed.optionalNames by decide))
    simp [ofTagged?, tag, hPayload, without]

/-- The tag is told apart from the payload's fields. -/
theorem ne_type_of_mem_fields {m : String × Json} (h : m ∈ e.fields) : m.1 ≠ "type" := by
  have hNames := e.kind.nodup_names
  rw [← map_members] at hNames
  exact fun hName => (List.nodup_cons.1 hNames).1 (List.mem_map.2 ⟨m, h, hName⟩)

/-- An event is read off its members, of which only those may be missing that may be left out. -/
theorem fromJson?_of_offers (droppable : ∀ name ∈ omitted, name ∈ e.kind.optionalNames)
    (h : Slot.Offers omitted e.members members) :
    fromJson? (.obj members) = some (e.without omitted) := by
  obtain ⟨hType, hFields⟩ := List.forall_mem_cons.1 h
  have hTag : "type" ∉ omitted := fun hName => e.kind.type_not_optional (droppable _ hName)
  rw [if_neg hTag] at hType
  simp only [fromJson?, hType]
  refine ofTagged?_of_offers droppable fun m hm => ?_
  rw [← hFields m hm]
  exact Slot.find?_filter fun o _ hName => by simpa [hName] using ne_type_of_mem_fields hm

/-- A payload is not read if one of its fields is there twice. -/
theorem ofTagged?_of_repeated {name : String} (known : name ∈ e.kind.fieldNames)
    (twice : 1 < members.countP (·.1 == name)) : ofTagged? e.tag (.obj members) = none := by
  have hSlots := slots?_of_repeated known twice
  cases e <;> simp only [kind, EventKind.fieldNames] at known hSlots
  case created | destroyed => cases known
  case failedOpen => simp [ofTagged?, tag, FailedOpen.fromJson?, hSlots]
  case opened => simp [ofTagged?, tag, Opened.fromJson?, hSlots]
  case dataArrived => simp [ofTagged?, tag, DataArrived.fromJson?, hSlots]
  case completed => simp [ofTagged?, tag, Completed.fromJson?, hSlots]

/-- An event of which a name is there twice is not read. -/
theorem fromJson?_of_repeated {name : String} (tagged : ("type", .str e.tag) ∈ members)
    (known : name ∈ "type" :: e.kind.fieldNames) (twice : 1 < members.countP (·.1 == name)) :
    fromJson? (.obj members) = none := by
  by_cases hType : 1 < members.countP (·.1 == "type")
  · simp [fromJson?, Slot.find?_of_repeated hType]
  · have hPayload : name ∈ e.kind.fieldNames := by
      rcases List.mem_cons.1 known with rfl | hPayload
      · exact absurd twice hType
      · exact hPayload
    have hTag := Slot.find?_of_mem tagged (Nat.not_lt.1 hType)
    have hOther : name ≠ "type" := fun hName =>
      (List.nodup_cons.1 e.kind.nodup_names).1 (hName ▸ hPayload)
    have hTwice : 1 < (members.filter (·.1 != "type")).countP (·.1 == name) := by
      rw [List.countP_filter]
      refine Nat.lt_of_lt_of_le twice (List.countP_mono_left fun m _ hName => ?_)
      rw [beq_iff_eq] at hName
      simp [hName, hOther]
    simp only [fromJson?, hTag]
    exact ofTagged?_of_repeated hPayload hTwice

/-- What a document reads as is taken for an event if it is not too deep. -/
theorem ofDocument?_of_read {document : String} {v : Json} (h : read? document = some v)
    (readable : v.readable = true) (depth : v.depth ≤ maxDepth) :
    ofDocument? document = fromJson? v := by
  simp [ofDocument?, h, readable, depth]

/-- No event goes deep. -/
theorem shallow_members (e : Event) : ∀ m ∈ e.members, m.2.Shallow := by
  refine List.forall_mem_cons.2 ⟨shallow_str _, ?_⟩
  cases e with
  | created | destroyed => simp [fields]
  | failedOpen p => simp [fields, FailedOpen.fields, shallow_ofOption shallow_str]
  | opened p =>
    simp [fields, Opened.fields, shallow_ofOption shallow_str, shallow_ofOption shallow_ofWord,
      shallow_ofOption shallow_bool]
  | dataArrived p =>
    have hRequest : ∀ id : RequestId, id.toJson.Shallow := fun id => shallow_ofWord id.number
    simp [fields, DataArrived.fields, shallow_ofWord, shallow_bytes, shallow_ofOption hRequest]
  | completed p => simp [fields, Completed.fields, shallow_bool]

/-- A member that is not the event's, and not too deep. -/
structure Foreign (e : Event) (m : String × Json) : Prop where
  name : m.1 ∉ "type" :: e.kind.fieldNames
  plain : m.2.Plain
  depth : m.2.depth < maxDepth

/-- The members are those of the event, less what is omitted, in any order and among others. -/
structure Composes (e : Event) (omitted : List String) (members : List (String × Json)) : Prop where
  droppable : ∀ name ∈ omitted, name ∈ e.kind.optionalNames
  perm : ∃ extra, (∀ m ∈ extra, e.Foreign m) ∧
    members.Perm (e.members.filter (·.1 ∉ omitted) ++ extra)

/-- Members that compose the event offer it. -/
theorem Composes.offers (h : e.Composes omitted members) :
    Slot.Offers omitted e.members members := by
  obtain ⟨extra, hForeign, hPerm⟩ := h.perm
  refine Slot.Offers.of_perm ?_ ?_ hPerm <;> rw [map_members]
  · exact e.kind.nodup_names
  · exact fun m hm => (hForeign m hm).name

theorem Composes.each (h : e.Composes omitted members) :
    ∀ m ∈ members, m.2.Plain ∧ m.2.depth < maxDepth := by
  obtain ⟨extra, hForeign, hPerm⟩ := h.perm
  intro m hm
  rcases List.mem_append.1 (hPerm.mem_iff.1 hm) with hOwn | hExtra
  · obtain ⟨hPlain, hDepth⟩ := shallow_members e m (List.mem_filter.1 hOwn).1
    exact ⟨hPlain, Nat.lt_of_le_of_lt hDepth (by decide)⟩
  · exact ⟨(hForeign m hExtra).plain, (hForeign m hExtra).depth⟩

/-- What is printed of members that compose the event is read back. -/
theorem Composes.read (h : e.Composes omitted members) :
    read? (render (.obj members)) = some (.obj members) :=
  read?_render (.obj fun m hm => (h.each m hm).1)

/-- A document of these members is understood, whoever wrote it. -/
theorem Composes.ofDocument? (h : e.Composes omitted members) {document : String}
    (reads : read? document = some (.obj members)) :
    Event.ofDocument? document = some (e.without omitted) := by
  have hPlain : (Json.obj members).Plain := .obj fun m hm => (h.each m hm).1
  have hDepth : (Json.obj members).depth ≤ maxDepth :=
    Nat.succ_le_succ (depthMembers_le fun m hm => Nat.le_of_lt_succ (h.each m hm).2)
  rw [ofDocument?_of_read reads hPlain.readable hDepth]
  exact fromJson?_of_offers h.droppable h.offers

theorem composes_members (e : Event) : e.Composes [] e.members where
  droppable := fun _ h => absurd h List.not_mem_nil
  perm := ⟨[], fun _ h => absurd h List.not_mem_nil, Slot.perm_filter_nil e.members⟩

/-- Every document that reads as an object of the members is taken in one way. -/
def TakenAs (members : List (String × Json)) (answer : Option Event) : Prop :=
  ∀ document, read? document = some (.obj members) → Event.ofDocument? document = answer

variable (e) in
/-- What the documents of the event come to. -/
structure Understood : Prop where
  written : Event.ofDocument? e.toJson.render = some e
  /-- The members may stand in any order and among others. -/
  arranged : ∀ {members}, e.Composes [] members →
    Event.ofDocument? (render (.obj members)) = some e ∧ TakenAs members (some e)
  /-- What is left out stands for nothing. -/
  omitted : ∀ {members omitted}, e.Composes omitted members →
    Event.ofDocument? (render (.obj members)) = some (e.without omitted) ∧
      TakenAs members (some (e.without omitted))
  /-- Nothing is said twice. -/
  repeated : ∀ {members name}, ("type", .str e.tag) ∈ members →
    name ∈ "type" :: e.kind.fieldNames → 1 < members.countP (·.1 == name) →
      ((∀ m ∈ members, m.2.Plain) → Event.ofDocument? (render (.obj members)) = none) ∧
        TakenAs members none

/-- Members that compose the event are taken as the event. -/
theorem Composes.taken (h : e.Composes omitted members) :
    Event.ofDocument? (render (.obj members)) = some (e.without omitted) ∧
      TakenAs members (some (e.without omitted)) :=
  ⟨h.ofDocument? h.read, fun _ => h.ofDocument?⟩

/-- Members of which a known name is there twice are taken as nothing. -/
theorem taken_of_repeated {name : String} (tagged : ("type", .str e.tag) ∈ members)
    (known : name ∈ "type" :: e.kind.fieldNames) (twice : 1 < members.countP (·.1 == name)) :
    TakenAs members none := by
  intro document hRead
  simp [ofDocument?, hRead, fromJson?_of_repeated tagged known twice]

variable (e) in
/-- Every event is understood. -/
theorem understood : e.Understood where
  written := (e.composes_members.taken.1).trans (congrArg some e.without_nil)
  arranged h := by
    rw [← e.without_nil]
    exact h.taken
  omitted h := h.taken
  repeated tagged known twice :=
    have hTaken := taken_of_repeated tagged known twice
    ⟨fun hPlain => hTaken _ (read?_render (.obj hPlain)), hTaken⟩

end

/-- A chunk that answers a request. -/
def chunk : Event :=
  .dataArrived ⟨5, [1, 2], some ⟨3⟩⟩

/-- A member that no event knows, though one inside it is named like the tag. -/
def note : String × Json :=
  ("note", .obj [("type", .null)])

/-- The tag comes last, the request is left out, and in front is what the event does not know. -/
def shuffled : List (String × Json) :=
  [note, ("data", .arr [.int 1, .int 2]), ("offset", .int 5), ("type", .str "data_arrived")]

/-- The tag may come last. -/
theorem composes_shuffled : chunk.Composes ["request"] shuffled where
  droppable := by decide
  perm := by
    have hOrder : shuffled =
        (chunk.members.filter (fun m : String × Json => m.1 ∉ ["request"]) ++ [note]).reverse := rfl
    refine ⟨[note], fun m hm => ?_, hOrder ▸ List.reverse_perm _⟩
    rw [List.mem_singleton.1 hm]
    exact ⟨by decide, .obj fun m hm => List.mem_singleton.1 hm ▸ .null, by decide⟩

/-- It is read without its request, and not at all with its data twice. -/
theorem understood_shuffled :
    ofDocument? (render (.obj shuffled)) = some (.dataArrived ⟨5, [1, 2], none⟩) ∧
      ofDocument? (render (.obj (("data", .null) :: shuffled))) = none := by
  have hPlain : ∀ m ∈ ("data", .null) :: shuffled, m.2.Plain :=
    List.forall_mem_cons.2 ⟨.null, fun m hm => (composes_shuffled.each m hm).1⟩
  have hChunk := understood chunk
  have hTag : ("type", .str chunk.tag) ∈ ("data", .null) :: shuffled := by
    simp [shuffled, chunk, tag]
  have hKnown : "data" ∈ "type" :: chunk.kind.fieldNames := by decide
  have hTwice : 1 < (("data", .null) :: shuffled).countP (·.1 == "data") := by decide
  exact ⟨(hChunk.omitted composes_shuffled).1, (hChunk.repeated hTag hKnown hTwice).1 hPlain⟩

end Event

end HostedStreams
