import HostedStreams.Text.Rounding

/-! Integers written as floating-point numbers: the nearest float with 53 bits of
significand, in as few significant digits as read back to it, with zeros up to
the decimal point. Up to `2 ^ 53` that is the integer itself. -/
namespace HostedStreams.Text

/-- The integers that round to `significand * 2 ^ bits`, in halves of a unit: the
lowest, the highest, and whether both belong. Below a power of two the floats are
twice as dense. -/
def neighbourhood (significand bits : Nat) : Nat × Nat × Bool :=
  let unit := Nat.pow 2 bits
  let below := if significand = Nat.pow 2 52 then unit / 2 else unit
  (2 * significand * unit - below, 2 * significand * unit + unit, significand % 2 = 0)

/-- The multiple of `10 ^ zeros` nearest to the value, if it rounds to the value. -/
def roundedTo? (significand bits zeros : Nat) : Option Nat :=
  let value := significand * Nat.pow 2 bits
  let unit := Nat.pow 10 zeros
  let low := value / unit * unit
  let (first, last, ends) := neighbourhood significand bits
  let fits (n : Nat) : Bool :=
    (first < 2 * n && 2 * n < last) || (ends && (2 * n = first || 2 * n = last))
  let high := low + unit
  let nearer := if 2 * (value - low) ≤ unit then low else high
  let other := if nearer = low then high else low
  if fits nearer then some nearer else if fits other then some other else none

/-- The roundest number that still reads back: as many zeros at the end as can be. -/
def roundest (significand bits : Nat) : Nat → Nat
  | 0 => significand * Nat.pow 2 bits
  | zeros + 1 =>
    match roundedTo? significand bits (zeros + 1) with
    | some n => n
    | none => roundest significand bits zeros

def floatNat (n : Nat) : Nat :=
  if n ≤ Nat.pow 2 53 then n
  else roundest (divideToEven n (scale n)) (scale n) 20

def floatInt (n : Int) : String :=
  (if n < 0 then "-" else "") ++ toString (floatNat n.natAbs)

end HostedStreams.Text
