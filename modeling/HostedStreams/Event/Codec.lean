import HostedStreams.Event
import HostedStreams.Json.Record

/-! Events in documents: an object with the member `type` among the payload's
fields, or an array of the type and the payload's fields in order. -/
namespace HostedStreams

open Json

namespace EventKind

def fromJson? (v : Json) : Option EventKind :=
  choice? ofName? v

end EventKind

namespace Opened

def fields (p : Opened) : List (String × Json) :=
  [("length", ofOption ofWord p.length), ("mime_type", ofOption .str p.mimeType),
    ("headers", ofOption .str p.headers), ("cache_filename", ofOption .str p.cacheFilename),
    ("seekable", ofOption .bool p.seekable)]

def fromJson? (v : Json) : Option Opened := do
  match ← v.slots? ["length", "mime_type", "headers", "cache_filename", "seekable"] with
  | [length, mimeType, headers, cacheFilename, seekable] =>
    return {
      length := ← length.optional word?
      mimeType := ← mimeType.optional str?
      headers := ← headers.optional str?
      cacheFilename := ← cacheFilename.optional str?
      seekable := ← seekable.optional bool? }
  | _ => none

end Opened

namespace FailedOpen

def fields (p : FailedOpen) : List (String × Json) :=
  [("reason", ofOption .str p.reason)]

def fromJson? (v : Json) : Option FailedOpen := do
  match ← v.slots? ["reason"] with
  | [reason] => return { reason := ← reason.optional str? }
  | _ => none

end FailedOpen

namespace DataArrived

def fields (p : DataArrived) : List (String × Json) :=
  [("offset", ofWord p.offset), ("data", .arr (p.data.map fun b => ofNat b.toNat)),
    ("request", ofOption RequestId.toJson p.request)]

def fromJson? (v : Json) : Option DataArrived := do
  match ← v.slots? ["offset", "data", "request"] with
  | [offset, data, request] =>
    return {
      offset := ← offset.required word?
      data := ← data.required (list? byte?)
      request := ← request.optional RequestId.fromJson? }
  | _ => none

end DataArrived

namespace Completed

def fields (p : Completed) : List (String × Json) :=
  [("success", .bool p.success)]

def fromJson? (v : Json) : Option Completed := do
  match ← v.slots? ["success"] with
  | [success] => return { success := ← success.required bool? }
  | _ => none

end Completed

namespace Event

/-- The word that tells the kinds of event apart in a document. -/
def tag : Event → String
  | .created => "created"
  | .destroyed => "destroyed"
  | .failedOpen _ => "failed_open"
  | .opened _ => "opened"
  | .dataArrived _ => "data_arrived"
  | .completed _ => "completed"

/-- The payload's fields in order. -/
def fields : Event → List (String × Json)
  | .created | .destroyed => []
  | .failedOpen p => p.fields
  | .opened p => p.fields
  | .dataArrived p => p.fields
  | .completed p => p.fields

def toJson (e : Event) : Json :=
  .obj (("type", .str e.tag) :: e.fields)

/-- An event without payload takes any object and no array items. -/
def bare? (e : Event) : Json → Option Event
  | .obj _ => some e
  | .arr [] => some e
  | _ => none

/-- The event of the given tag with the payload that the rest of the document writes. -/
def ofTagged? (tag : String) (rest : Json) : Option Event :=
  if tag = "created" then bare? .created rest
  else if tag = "destroyed" then bare? .destroyed rest
  else if tag = "failed_open" then (FailedOpen.fromJson? rest).map .failedOpen
  else if tag = "opened" then (Opened.fromJson? rest).map .opened
  else if tag = "data_arrived" then (DataArrived.fromJson? rest).map .dataArrived
  else if tag = "completed" then (Completed.fromJson? rest).map .completed
  else none

def fromJson? : Json → Option Event
  | .obj members =>
    match Slot.find? members "type" with
    | some (.given (.str tag)) => ofTagged? tag (.obj (members.filter (·.1 != "type")))
    | _ => none
  | .arr (.str tag :: rest) => ofTagged? tag (.arr rest)
  | _ => none

/-- How deeply a document may nest arrays and objects around and in an event. -/
def maxDepth : Nat := 127

/-- An event's tag may stand behind its fields, so the whole document is read
before it is understood: all of it has to be readable and none of it too deep. -/
def ofDocument? (document : String) : Option Event := do
  let v ← Json.read? document
  if v.readable && v.depth ≤ maxDepth then fromJson? v else none

end Event
end HostedStreams
