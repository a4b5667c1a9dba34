import HostedStreams.Json.Record

/-! Half-open byte intervals of a resource. -/
namespace HostedStreams

/-- The bytes from `start` up to and without `stop`. -/
structure Range where
  start : UInt64
  stop : UInt64
  deriving DecidableEq

namespace Range

/-- Whether the interval holds a byte. -/
def valid (r : Range) : Bool :=
  decide (r.start < r.stop)

/-- How many bytes the interval holds; one that is written backwards holds none. -/
def length (r : Range) : UInt64 :=
  if r.start ≤ r.stop then r.stop - r.start else 0

def contains (r : Range) (offset : UInt64) : Bool :=
  decide (r.start ≤ offset) && decide (offset < r.stop)

def display (r : Range) : String :=
  "[" ++ toString r.start.toNat ++ ", " ++ toString r.stop.toNat ++ ")"

def toJson (r : Range) : Json :=
  .obj [("start", .ofWord r.start), ("end", .ofWord r.stop)]

def fromJson? (v : Json) : Option Range := do
  match ← v.slots? ["start", "end"] with
  | [start, stop] => return ⟨← start.required Json.word?, ← stop.required Json.word?⟩
  | _ => none

/-- What is left of the interval when the bytes from `start` up to `stop` are taken out. -/
def without (start stop : UInt64) (r : Range) : List Range :=
  if r.stop ≤ start ∨ stop ≤ r.start then [r]
  else
    (if r.start < start then [⟨r.start, start⟩] else []) ++
      (if stop < r.stop then [⟨stop, r.stop⟩] else [])

end Range
end HostedStreams
