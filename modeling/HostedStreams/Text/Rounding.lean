/-! Natural numbers rounded to floats: the nearest number with at most 53 bits of
significand, and the one with an even significand if two are equally near. -/
namespace HostedStreams.Text

/-- How many bits are more than 53. -/
def scale (n : Nat) : Nat :=
  (n.log2 + 1) - 53

/-- `n` divided by `2 ^ bits`, to the nearest integer, and to the even one of two. -/
def divideToEven (n bits : Nat) : Nat :=
  let low := n / Nat.pow 2 bits
  let rest := 2 * (n % Nat.pow 2 bits)
  if rest < Nat.pow 2 bits ∨ (rest = Nat.pow 2 bits ∧ low % 2 = 0) then low else low + 1

/-- The nearest float, however large. -/
def nearestFloat (n : Nat) : Nat :=
  divideToEven n (scale n) * Nat.pow 2 (scale n)

/-- The least number that is too large for a finite float: the largest float and half
of a unit of its last place, which rounds up. -/
def overflow : Nat :=
  Nat.pow 2 1024 - Nat.pow 2 970

/-- Rounding takes away or adds half a unit at most. -/
theorem divideToEven_near (n bits : Nat) :
    2 * (divideToEven n bits * Nat.pow 2 bits) ≤ 2 * n + Nat.pow 2 bits ∧
      2 * n ≤ 2 * (divideToEven n bits * Nat.pow 2 bits) + Nat.pow 2 bits := by
  have whole : Nat.pow 2 bits * (n / Nat.pow 2 bits) + n % Nat.pow 2 bits = n := Nat.div_add_mod n _
  have small : n % Nat.pow 2 bits < Nat.pow 2 bits := Nat.mod_lt _ (Nat.two_pow_pos bits)
  have next : (n / Nat.pow 2 bits + 1) * Nat.pow 2 bits =
      Nat.pow 2 bits * (n / Nat.pow 2 bits) + Nat.pow 2 bits := by
    rw [Nat.add_mul, Nat.mul_comm, Nat.one_mul]
  simp only [divideToEven]
  split
  · rw [Nat.mul_comm (n / Nat.pow 2 bits)]; omega
  · rw [next]; omega

end HostedStreams.Text
