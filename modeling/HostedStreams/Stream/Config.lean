import HostedStreams.Json.Record

/-! What is asked for when a stream is made. -/
namespace HostedStreams

structure StreamConfig where
  url : String
  /-- Whether the host is to keep a cache file. -/
  cache : Bool := false
  /-- Whether reads of ranges are wanted. -/
  seekable : Bool := false
  /-- How many bytes the host is to gather before it delivers them. -/
  bufferSize : UInt64 := 131072
  deriving DecidableEq

namespace StreamConfig

/-- The buffer size of streams that ask for none. -/
def defaultBufferSize : UInt64 := 131072

def toJson (c : StreamConfig) : Json :=
  .obj [("url", .str c.url), ("cache", .bool c.cache), ("seekable", .bool c.seekable),
    ("internal_buffer_size", .ofWord c.bufferSize)]

def fromJson? (v : Json) : Option StreamConfig := do
  match ← v.slots? ["url", "cache", "seekable", "internal_buffer_size"] with
  | [url, cache, seekable, bufferSize] =>
    return {
      url := ← url.required Json.str?
      cache := ← cache.withDefault false Json.bool?
      seekable := ← seekable.withDefault false Json.bool?
      bufferSize := ← bufferSize.withDefault defaultBufferSize Json.word? }
  | _ => none

end StreamConfig
end HostedStreams
