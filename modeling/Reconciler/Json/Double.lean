/-!
# Double precision

Whole numbers in double precision. A number is rounded to the nearest one of 53 significant
bits; the largest such numbers have a limit, from which on no number is near to any of them.
-/

set_option autoImplicit false

namespace Reconciler.Json.Double

/-- The least whole number that is out of reach. -/
def limit : Nat := Nat.pow 2 1024 - Nat.pow 2 970

/-- The weight of the last of the 53 bits that are kept of a number. -/
def lastBit (n : Nat) : Nat :=
  Nat.pow 2 (n.log2 - 52)

/-- The nearest number of 53 significant bits; of two that are equally near, the one whose last
bit is zero. -/
def nearest (n : Nat) : Nat :=
  let kept := n / lastBit n
  let rest := n % lastBit n
  if 2 * rest < lastBit n ∨ 2 * rest = lastBit n ∧ kept % 2 = 0 then kept * lastBit n
  else (kept + 1) * lastBit n

end Reconciler.Json.Double
