/-! Sets of characters given by ascending ranges of code points. -/
namespace HostedStreams.Text

/-- Whether one of the ranges from place `lo` up to place `hi` holds the code point.
The ranges ascend, so half of them are left out at each step. -/
def holds (ranges : Array (Nat × Nat)) (code : Nat) : Nat → Nat → Nat → Bool
  | 0, _, _ => false
  | steps + 1, lo, hi =>
    if lo < hi then
      let mid := (lo + hi) / 2
      match ranges[mid]? with
      | none => false
      | some (first, last) =>
        if code < first then holds ranges code steps lo mid
        else if last < code then holds ranges code steps (mid + 1) hi
        else true
    else false

/-- Whether one of ascending ranges holds the character. Each step halves what is
left of the table, so as many steps as its size has bits are enough. -/
def inRanges (ranges : Array (Nat × Nat)) (c : Char) : Bool :=
  holds ranges c.toNat (ranges.size.log2 + 1) 0 ranges.size

end HostedStreams.Text
