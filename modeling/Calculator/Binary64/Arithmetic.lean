import Calculator.Binary64.Rounding

/-!
# Arithmetic on doubles

Addition, multiplication, division and the square root compute the exact result in units and round it
once. The remainder and the fractional part are exact: they are remainders of the counts of units, and
`Representable` passes to remainders.
-/

set_option autoImplicit false

namespace Calculator

-- Powers of natural numbers are core's, whatever algebra is in scope.
attribute [local instance (1001)] instPowNat

theorem log2_mono {small large : Nat} (ordered : small ≤ large) : small.log2 ≤ large.log2 := by
  by_cases zero : small = 0
  · simp [zero]
  · rw [Nat.le_log2 (by omega)]
    exact Nat.le_trans (Nat.log2_self_le zero) ordered

/-- The remainder keeps the coarser spacing of its two operands, and it is smaller than both. -/
theorem representable_mod {dividend divisor : Nat}
    (left : Representable dividend) (right : Representable divisor) :
    Representable (dividend % divisor) := by
  refine ⟨Nat.lt_of_le_of_lt (Nat.mod_le _ _) left.1, ?_⟩
  by_cases finer : dividend.log2 ≤ divisor.log2
  · have common : 2 ^ (dividend.log2 - fractionBits) ∣ dividend % divisor :=
      (Nat.dvd_mod_iff (Nat.dvd_trans (Nat.pow_dvd_pow 2 (by omega)) right.2)).mpr left.2
    refine Nat.dvd_trans (Nat.pow_dvd_pow 2 ?_) common
    have := log2_mono (Nat.mod_le dividend divisor)
    omega
  · have common : 2 ^ (divisor.log2 - fractionBits) ∣ dividend % divisor :=
      (Nat.dvd_mod_iff right.2).mpr (Nat.dvd_trans (Nat.pow_dvd_pow 2 (by omega)) left.2)
    by_cases zero : divisor = 0
    · simpa [zero] using left.2
    · refine Nat.dvd_trans (Nat.pow_dvd_pow 2 ?_) common
      have := log2_mono (Nat.le_of_lt (Nat.mod_lt dividend (Nat.pos_of_ne_zero zero)))
      omega

theorem representable_two_pow {exponent : Nat} (low : exponent < overflowLog) :
    Representable (2 ^ exponent) := by
  have whole := @representable_mul_two_pow 1 exponent (by decide)
    (by rw [Nat.one_mul]
        exact Nat.lt_of_lt_of_le
          (Nat.pow_lt_pow_right (by decide) (Nat.lt_succ_self exponent))
          (two_pow_le_overflow low))
  simpa using whole

namespace Magnitude

protected def mod (dividend divisor : Magnitude) : Magnitude where
  units := dividend.units % divisor.units
  representable := representable_mod dividend.representable divisor.representable

def one : Magnitude where
  units := unitsPerOne
  representable := representable_two_pow (by decide)

end Magnitude

/-- One binary digit of the root after another, the leading one first. -/
def growRoot (square : Nat) : Nat → Nat → Nat
  | 0, root => root
  | digits + 1, root =>
      let next := root + 2 ^ digits
      growRoot square digits (if next * next ≤ square then next else root)

/-- The largest natural number whose square is at most `square`. -/
def floorRoot (square : Nat) : Nat :=
  growRoot square (square.log2 / 2 + 1) 0

/-- With its digits to come, a root is below the next one that is too large; none is left at the end. -/
theorem grow_root_bounds (square digits root : Nat) (low : root * root ≤ square)
    (high : square < (root + 2 ^ digits) * (root + 2 ^ digits)) :
    growRoot square digits root * growRoot square digits root ≤ square ∧
      square < (growRoot square digits root + 1) * (growRoot square digits root + 1) := by
  induction digits generalizing root with
  | zero => exact ⟨low, by simpa [growRoot] using high⟩
  | succ digits ih =>
      simp only [growRoot]
      split
      · next fits =>
          refine ih _ fits ?_
          have next : root + 2 ^ digits + 2 ^ digits = root + 2 ^ (digits + 1) := by
            rw [Nat.pow_succ]
            omega
          rw [next]
          exact high
      · next large => exact ih _ low (Nat.lt_of_not_le large)

theorem floor_root_bounds (square : Nat) :
    floorRoot square * floorRoot square ≤ square ∧
      square < (floorRoot square + 1) * (floorRoot square + 1) := by
  refine grow_root_bounds square _ 0 (Nat.zero_le _) ?_
  rw [Nat.zero_add, ← Nat.pow_add]
  exact Nat.lt_of_lt_of_le Nat.lt_log2_self (Nat.pow_le_pow_right (by decide) (by omega))

namespace Binary64

def signedUnits (negative : Bool) (units : Nat) : Int :=
  if negative then -units else units

/-- A sum that is exactly zero is negative only when both operands are negative zeros. -/
def add : Binary64 → Binary64 → Binary64
  | .nan, _ => .nan
  | _, .nan => .nan
  | .infinity left, .infinity right => if left = right then .infinity left else .nan
  | .infinity left, .finite _ _ => .infinity left
  | .finite _ _, .infinity right => .infinity right
  | .finite left a, .finite right b =>
      let sum := signedUnits left a.units + signedUnits right b.units
      if sum = 0 then .finite (left && right) .zero else round (sum < 0) sum.natAbs 1

def sub (left right : Binary64) : Binary64 :=
  left.add right.neg

def mul : Binary64 → Binary64 → Binary64
  | .nan, _ => .nan
  | _, .nan => .nan
  | .infinity left, .infinity right => .infinity (left ^^ right)
  | .infinity left, .finite right b => if b.units = 0 then .nan else .infinity (left ^^ right)
  | .finite left a, .infinity right => if a.units = 0 then .nan else .infinity (left ^^ right)
  | .finite left a, .finite right b => round (left ^^ right) (a.units * b.units) unitsPerOne

def div : Binary64 → Binary64 → Binary64
  | .nan, _ => .nan
  | _, .nan => .nan
  | .infinity _, .infinity _ => .nan
  | .infinity left, .finite right _ => .infinity (left ^^ right)
  | .finite left _, .infinity right => .finite (left ^^ right) .zero
  | .finite left a, .finite right b =>
      if b.units = 0 then
        if a.units = 0 then .nan else .infinity (left ^^ right)
      else
        round (left ^^ right) (a.units * unitsPerOne) b.units

/-- The remainder of the quotient cut toward zero; it has the sign of the dividend, also when it is
zero. -/
def rem : Binary64 → Binary64 → Binary64
  | .nan, _ => .nan
  | _, .nan => .nan
  | .infinity _, _ => .nan
  | .finite negative dividend, .infinity _ => .finite negative dividend
  | .finite negative dividend, .finite _ divisor =>
      if divisor.units = 0 then .nan else .finite negative (dividend.mod divisor)

/-- What is left of a value when its whole part is taken off; an infinity has none. Where nothing is left the
sign is gone too. -/
def fract : Binary64 → Binary64
  | .finite negative magnitude =>
      let part := magnitude.mod .one
      .finite (negative && part.units != 0) part
  | _ => .nan

/-- The root of the units is rounded from the whole part of the root and one digit that says whether
anything was cut: halves between neighbouring doubles are whole numbers here, so nothing else matters.
-/
def sqrt : Binary64 → Binary64
  | .nan => .nan
  | .infinity negative => if negative then .nan else .infinity false
  | .finite negative magnitude =>
      if magnitude.units = 0 then .finite negative magnitude
      else if negative then .nan
      else
        let square := magnitude.units * unitsPerOne
        let root := floorRoot square
        round false (if root * root = square then 2 * root else 2 * root + 1) 2

def isIntegral (value : Binary64) : Bool :=
  value.isFinite && value.fract.isZero

def integer? : Binary64 → Option Int
  | .finite negative magnitude =>
      if magnitude.units % unitsPerOne = 0 then
        some (signedUnits negative (magnitude.units / unitsPerOne))
      else
        none
  | _ => none

theorem is_some_integer (value : Binary64) : value.integer?.isSome = value.isIntegral := by
  cases value with
  | nan => rfl
  | infinity negative => rfl
  | finite negative magnitude =>
      by_cases whole : magnitude.units % unitsPerOne = 0 <;>
        simp [integer?, isIntegral, isFinite, fract, isZero, Magnitude.mod, Magnitude.one, whole]

end Binary64

end Calculator
