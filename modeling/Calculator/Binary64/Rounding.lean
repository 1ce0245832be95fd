import Calculator.Binary64.Basic

/-!
# Rounding to the nearest double

Every inexact result comes from one function, `Binary64.round`, which takes the exact quotient of two
natural numbers of units. It keeps the 53 leading bits, sends a half to the even neighbour, and
answers an infinity when the rounded value is too large. Below `2 ^ 53` units the spacing is one unit,
so the subnormal range needs no case of its own.
-/

set_option autoImplicit false

namespace Calculator

-- Powers of natural numbers are core's, whatever algebra is in scope.
attribute [local instance (1001)] instPowNat

/-- The natural number nearest to `dividend / divisor`; a half goes to the even neighbour. -/
def nearestEven (dividend divisor : Nat) : Nat :=
  let below := dividend / divisor
  let rest := dividend % divisor
  if 2 * rest < divisor ∨ (2 * rest = divisor ∧ below % 2 = 0) then below else below + 1

theorem nearest_even_le (dividend divisor : Nat) :
    nearestEven dividend divisor ≤ dividend / divisor + 1 := by
  simp only [nearestEven]
  split <;> omega

theorem le_nearest_even (dividend divisor : Nat) :
    dividend / divisor ≤ nearestEven dividend divisor := by
  simp only [nearestEven]
  split <;> omega

theorem nearest_even_error (dividend divisor : Nat) (positive : 0 < divisor) :
    2 * (divisor * nearestEven dividend divisor) ≤ 2 * dividend + divisor ∧
      2 * dividend ≤ 2 * (divisor * nearestEven dividend divisor) + divisor := by
  have split := Nat.div_add_mod dividend divisor
  have short := Nat.mod_lt dividend positive
  simp only [nearestEven]
  split
  · omega
  · rw [Nat.mul_add]
    omega

/-- The power of two between neighbouring doubles near `dividend / divisor`, as a logarithm. -/
def spacingLog (dividend divisor : Nat) : Nat :=
  (dividend / divisor).log2 - fractionBits

/-- The nearest count of units with at most 53 significant bits, however large. -/
def roundUnits (dividend divisor : Nat) : Nat :=
  let spacing := 2 ^ spacingLog dividend divisor
  nearestEven dividend (divisor * spacing) * spacing

theorem significand_le (dividend divisor : Nat) :
    nearestEven dividend (divisor * 2 ^ spacingLog dividend divisor) ≤ significandLimit := by
  refine Nat.le_trans (nearest_even_le _ _) ?_
  rw [← Nat.div_div_eq_div_mul]
  apply Nat.succ_le_of_lt
  rw [significandLimit, Nat.div_lt_iff_lt_mul (Nat.two_pow_pos _), ← Nat.pow_add]
  exact Nat.lt_of_lt_of_le Nat.lt_log2_self
    (Nat.pow_le_pow_right (by decide) (by simp only [spacingLog]; omega))

namespace Binary64

/-- The double nearest to the quotient of units `dividend / divisor`, with the given sign. -/
def round (negative : Bool) (dividend divisor : Nat) : Binary64 :=
  if below : roundUnits dividend divisor < overflowUnits then
    .finite negative
      { units := roundUnits dividend divisor
        representable := representable_mul_two_pow (significand_le dividend divisor) below }
  else
    .infinity negative

def ofNat (value : Nat) : Binary64 :=
  round false (value * unitsPerOne) 1

def one : Binary64 := ofNat 1

end Binary64

end Calculator
