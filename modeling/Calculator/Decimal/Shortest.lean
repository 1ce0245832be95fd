import Calculator.Decimal.Basic

/-!
# The shortest decimal of a double

Among the decimals that read back as a given magnitude, the one with the fewest digits is chosen, and
of those the nearest; of two equally near ones, the larger. The search walks the powers of ten downward
and tests, on each grid, the two neighbours of the exact value. A grid with any decimal that reads back
has a neighbour that does, because the values that round to one double form an interval around it.

Seventeen digits always suffice. The search does not rest on that: when it runs out it answers the
exact decimal.
-/

set_option autoImplicit false

namespace Calculator.Decimal

-- Powers of natural numbers are core's, whatever algebra is in scope.
attribute [local instance (1001)] instPowNat

/-- Every count of units is a decimal, since a half is five tenths. -/
def exact (units : Nat) : Decimal where
  digits := units * 5 ^ unitLog
  exponent := -unitLog

def stepDividend (units : Nat) (exponent : Int) : Nat :=
  units * 10 ^ (-exponent).toNat

def stepDivisor (exponent : Int) : Nat :=
  unitsPerOne * 10 ^ exponent.toNat

/-- The neighbour on the grid of `10 ^ exponent` that reads back as `units`, the nearer if both do. -/
def neighbour? (units : Nat) (exponent : Int) : Option Decimal :=
  let dividend := stepDividend units exponent
  let divisor := stepDivisor exponent
  let below : Decimal := { digits := dividend / divisor, exponent }
  let above : Decimal := { digits := dividend / divisor + 1, exponent }
  if below.units = units then
    if above.units = units ∧ divisor ≤ 2 * (dividend % divisor) then some above else some below
  else if above.units = units then
    some above
  else
    none

/-- The first hit on the grids of `10 ^ exponent` and of `grids - 1` finer ones. -/
def search (units : Nat) : Nat → Int → Decimal
  | 0, _ => exact units
  | grids + 1, exponent => (neighbour? units exponent).getD (search units grids (exponent - 1))

def ceilingExponent (units : Nat) : Int :=
  if unitsPerOne ≤ units then
    (Nat.toDigits 10 (units / unitsPerOne)).length
  else
    1 - (Nat.toDigits 10 (unitsPerOne / units)).length

/-- Zero is the decimal zero; any other count of units has at most seventeen digits below its ceiling.
-/
def shortest (units : Nat) : Decimal :=
  if units = 0 then { digits := 0, exponent := 0 } else search units 18 (ceilingExponent units)

end Calculator.Decimal
