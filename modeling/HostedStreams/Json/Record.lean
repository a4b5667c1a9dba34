import HostedStreams.Json

/-! Records in documents. A record is an object whose members may come in any
order and may be mixed with members the record does not know, or an array of
the fields in order. A known name may not be repeated, and an array has no more
items than the record has fields. -/
namespace HostedStreams.Json

/-- What a document offers for one field of a record. -/
inductive Slot where
  | given (value : Json)
  /-- An object without a member of that name. -/
  | missing
  /-- An array that ends before the field. -/
  | beyond

namespace Slot

/-- The offers for the field `name` among an object's members. -/
def find? (members : List (String × Json)) (name : String) : Option Slot :=
  match members.filter (·.1 == name) with
  | [] => some .missing
  | [(_, value)] => some (.given value)
  | _ => none

/-- A field that must be written. -/
def required {α : Type} (read : Json → Option α) : Slot → Option α
  | .given v => read v
  | _ => none

/-- A field that an object may leave out and a document may write as `null`. -/
def optional {α : Type} (read : Json → Option α) : Slot → Option (Option α)
  | .given v => nullable? read v
  | .missing => some none
  | .beyond => none

/-- A field with a default, which either form may leave out. -/
def withDefault {α : Type} (default : α) (read : Json → Option α) : Slot → Option α
  | .given v => read v
  | _ => some default

end Slot

/-- The offers of a document for the fields named, in the order of the names. -/
def slots? (names : List String) : Json → Option (List Slot)
  | .obj members => names.mapM (Slot.find? members)
  | .arr items =>
    if items.length ≤ names.length then
      some (items.map .given ++ List.replicate (names.length - items.length) .beyond)
    else none
  | _ => none

/-- One of several names, written as text or as an object of that one name with `null`. -/
def choice? {α : Type} (ofName : String → Option α) : Json → Option α
  | .str s => ofName s
  | .obj [(name, .null)] => ofName name
  | _ => none

end HostedStreams.Json
