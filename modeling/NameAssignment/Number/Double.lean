/-!
Which decimal numbers are too large for a double: a number with a binary fraction of 53 bits and
exponents up to 1023.

A number rounds to infinity when it reaches the middle between the largest double and the power of
two above it. All comparisons are exact, on natural numbers.
-/

namespace NameAssignment.Double

/-- The least number that rounds to infinity. -/
def overflow : Nat := Nat.pow 2 1024 - Nat.pow 2 970

/-- The natural number nearest to `n` among those of 53 significant bits, ties going to the even
one. -/
def round (n : Nat) : Nat :=
  let shift := n.log2 + 1 - 53
  let unit := Nat.pow 2 shift
  let below := n / unit
  let rest := n % unit
  if 2 * rest > unit ∨ (2 * rest = unit ∧ below % 2 = 1) then (below + 1) * unit
  else below * unit

/-- The number of decimal digits. -/
def digitCount (n : Nat) : Nat := (Nat.toDigits 10 n).length

/-- Whether `significand` times ten to the `exponent` rounds to infinity. -/
def exceeds (significand : Nat) (exponent : Int) : Bool :=
  let magnitude := exponent + digitCount significand
  if significand = 0 ∨ magnitude < 300 then false
  else if magnitude > 320 then true
  else if exponent < 0 then overflow * Nat.pow 10 exponent.natAbs ≤ significand
  else overflow ≤ significand * Nat.pow 10 exponent.natAbs

/-- The largest power of ten that is a double. -/
def largestPower : Nat := 308

/-- Whether the product of two doubles, the one nearest to `significand` and the one nearest to ten
to the `exponent`, rounds to infinity. A power that is no double itself counts as too large. -/
def productExceeds (significand : Nat) (exponent : Int) : Bool :=
  if significand = 0 ∨ exponent < 0 then false
  else if exponent.natAbs > largestPower then true
  else overflow ≤ round significand * round (Nat.pow 10 exponent.natAbs)

end NameAssignment.Double
