/-!
# The range of double precision

Which numbers are finite as floating-point numbers of double precision, in exact arithmetic.
-/

namespace Rollout.Text.Double

/-- The least size that rounds to infinity in double precision: half a unit above the largest
number, which has 53 bits. -/
def overflowAt : Nat := 18014398509481983 * Nat.pow 2 970

/-- Whether `m` times ten to the power of `e` stays below `overflowAt`. The order of magnitude
settles all but the neighbourhood of the limit. -/
def isFinite (m : Nat) (e : Int) : Bool :=
  let order : Int := (Nat.toDigits 10 m).length + e
  -- the powers of ten are computed only where they matter
  if m = 0 || order < 300 then true
  else if 310 < order then false
  else if 0 ≤ e then m * Nat.pow 10 e.toNat < overflowAt
  else m < overflowAt * Nat.pow 10 (-e).toNat

/-- The number of 53 bits that is nearest to a natural number, of two the one that is even. -/
def nearest (n : Nat) : Nat :=
  let unit := Nat.pow 2 (n.log2 - 52)
  let below := n / unit
  let excess := n % unit
  (if unit < 2 * excess || (unit = 2 * excess && below % 2 = 1) then below + 1 else below) * unit

end Rollout.Text.Double
