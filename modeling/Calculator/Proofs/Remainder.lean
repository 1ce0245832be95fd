import Mathlib.Algebra.Order.Floor.Ring
import Mathlib.Data.Rat.Floor
import Calculator.Operation
import Calculator.Proofs.ResultText

/-!
# The remainder is exact

A quotient of doubles can be far too large for a double, and its whole part for any fixed number of bits. The
remainder never forms it: both operands are whole numbers of units, and what the whole part of the quotient
leaves over is the remainder of these. It is the one double of its value that has the sign of the dividend.
-/

set_option autoImplicit false

namespace Calculator

-- Powers of natural numbers are core's, whatever algebra is in scope.
attribute [local instance (1001)] instPowNat

def wholePart (value : ℚ) : ℤ :=
  if value < 0 then ⌈value⌉ else ⌊value⌋

theorem whole_part_neg (value : ℚ) : wholePart (-value) = -wholePart value := by
  simp only [wholePart, neg_lt_zero]
  rcases lt_trichotomy value 0 with negative | rfl | positive
  · rw [if_neg (not_lt.mpr (le_of_lt negative)), if_pos negative, Int.floor_neg]
  · simp
  · rw [if_pos positive, if_neg (not_lt.mpr (le_of_lt positive)), Int.ceil_neg]

theorem whole_part_of_natural (dividend divisor : Nat) :
    wholePart (dividend / divisor) = (dividend / divisor : Nat) := by
  have unsigned : ¬(dividend / divisor : ℚ) < 0 := not_lt.mpr (by positivity)
  rw [wholePart, if_neg unsigned, Rat.floor_natCast_div_natCast, Int.natCast_ediv]

theorem whole_part_of_quotient (dividend divisor : ℤ) :
    wholePart (dividend / divisor) = dividend.tdiv divisor := by
  obtain ⟨size, rfl | rfl⟩ := Int.eq_nat_or_neg dividend <;>
    obtain ⟨step, rfl | rfl⟩ := Int.eq_nat_or_neg divisor <;>
      simp only [Int.cast_neg, Int.cast_natCast, neg_div, div_neg, whole_part_neg, whole_part_of_natural,
        Int.neg_tdiv, Int.tdiv_neg, Int.ofNat_tdiv]

theorem cut_off_lt_one (value : ℚ) : |value - wholePart value| < 1 := by
  rw [wholePart, abs_lt]
  split
  · have above := Int.ceil_lt_add_one value
    have below := Int.le_ceil value
    constructor <;> linarith
  · have above := Int.floor_le value
    have below := Int.lt_floor_add_one value
    constructor <;> linarith

theorem left_over_lt (value : ℚ) {step : ℚ} (nonzero : step ≠ 0) :
    |value - step * wholePart (value / step)| < |step| := by
  have scaled : value - step * wholePart (value / step) =
      step * (value / step - wholePart (value / step)) := by
    rw [mul_sub, mul_div_cancel₀ value nonzero]
  rw [scaled, abs_mul, mul_lt_iff_lt_one_right (abs_pos.mpr nonzero)]
  exact cut_off_lt_one (value / step)

namespace Binary64

/-- Zero has a word for either sign; otherwise the value alone tells the double. -/
theorem eq_of_value_of_sign {first second : Binary64} {value : ℚ} (firstValue : first.value? = some value)
    (secondValue : second.value? = some value) (sameSign : signBit first.toBits = signBit second.toBits) :
    first = second := by
  cases first with
  | nan => cases firstValue
  | infinity negative => cases firstValue
  | finite left low =>
      cases second with
      | nan => cases secondValue
      | infinity negative => cases secondValue
      | finite right high =>
          rw [sign_bit_of_finite, sign_bit_of_finite] at sameSign
          subst sameSign
          have unit : (unitsPerOne : ℚ) ≠ 0 := ne_of_gt units_per_one_pos
          have values := Option.some.inj (firstValue.trans secondValue.symm)
          rw [div_left_inj' unit, Int.cast_inj] at values
          obtain ⟨units, _⟩ := low
          obtain ⟨others, _⟩ := high
          have same : units = others := by
            rw [← nat_abs_signed_units left units, ← nat_abs_signed_units left others, values]
          subst same
          rfl

/-- The sign of the divisor plays no part. -/
theorem signed_units_mod (left right : Bool) (units step : Nat) :
    signedUnits left (units % step) = (signedUnits left units).tmod (signedUnits right step) := by
  cases left <;> cases right <;>
    simp only [signedUnits, if_true, if_false, Bool.false_eq_true, Int.neg_tmod, Int.tmod_neg, Int.ofNat_tmod]

theorem quotient_of_units (units step : ℤ) :
    (units / unitsPerOne : ℚ) / (step / unitsPerOne) = units / step := by
  have unit : (unitsPerOne : ℚ) ≠ 0 := ne_of_gt units_per_one_pos
  exact div_div_div_cancel_right₀ unit _ _

theorem left_over_of_units (units step : ℤ) :
    (units / unitsPerOne : ℚ) - step / unitsPerOne * wholePart (units / unitsPerOne / (step / unitsPerOne)) =
      (units.tmod step : ℤ) / unitsPerOne := by
  rw [quotient_of_units, whole_part_of_quotient, Int.tmod_def]
  push_cast
  ring

theorem value_of_mod (left right : Bool) (dividend divisor : Magnitude) :
    (finite left (dividend.mod divisor)).value? =
      some ((signedUnits left dividend.units).tmod (signedUnits right divisor.units) / unitsPerOne : ℚ) := by
  rw [← signed_units_mod]
  rfl

theorem value_eq_zero_iff (negative : Bool) (magnitude : Magnitude) :
    (finite negative magnitude).value? = some 0 ↔ magnitude.units = 0 := by
  have unit : (unitsPerOne : ℚ) ≠ 0 := ne_of_gt units_per_one_pos
  rw [value?, Option.some.injEq, div_eq_zero_iff, or_iff_left unit, Int.cast_eq_zero, ← Int.natAbs_eq_zero,
    nat_abs_signed_units]

/-- The remainder of two finite doubles is the only double with the value that is left over and the sign of
the dividend. -/
theorem eq_rem_iff {dividend divisor double : Binary64} {value step : ℚ}
    (dividendValue : dividend.value? = some value) (divisorValue : divisor.value? = some step)
    (nonzero : step ≠ 0) :
    double = dividend.rem divisor ↔
      double.value? = some (value - step * wholePart (value / step)) ∧
        signBit double.toBits = signBit dividend.toBits := by
  obtain ⟨left, size, rfl⟩ := finite_of_value dividendValue
  obtain ⟨right, unit, rfl⟩ := finite_of_value divisorValue
  have units : unit.units ≠ 0 := by
    intro zero
    rw [(value_eq_zero_iff right unit).mpr zero] at divisorValue
    exact nonzero (Option.some.inj divisorValue).symm
  have remainder : (finite left size).rem (finite right unit) = .finite left (size.mod unit) := if_neg units
  have own := value_of_mod left right size unit
  cases dividendValue
  cases divisorValue
  rw [left_over_of_units, remainder, sign_bit_of_finite]
  constructor
  · rintro rfl
    exact ⟨own, sign_bit_of_finite left _⟩
  · rintro ⟨same, sign⟩
    refine eq_of_value_of_sign same own ?_
    rw [sign, sign_bit_of_finite]

theorem rem_of_zero {dividend divisor : Binary64} (zero : divisor.value? = some 0) :
    dividend.rem divisor = .nan := by
  obtain ⟨right, unit, rfl⟩ := finite_of_value zero
  have units := (value_eq_zero_iff right unit).mp zero
  cases dividend with
  | nan => rfl
  | infinity left => rfl
  | finite left size => exact if_pos units

theorem rem_of_infinity {dividend : Binary64} {value : ℚ} (known : dividend.value? = some value)
    (negative : Bool) : dividend.rem (.infinity negative) = dividend := by
  obtain ⟨left, size, rfl⟩ := finite_of_value known
  rfl

end Binary64

/-- What is left of one finite double by another is the exact rational remainder of the quotient cut toward
zero: no digit of it is rounded away, it is smaller than the divisor, and it has the sign of the dividend,
also when it is zero. An infinite divisor leaves all of the dividend. -/
theorem remainder_is_exact (dividend divisor : Binary64) :
    ∃ result, Operator.remainder.combine dividend divisor = .ok result ∧
      (∀ value step : ℚ, dividend.value? = some value → divisor.value? = some step → step ≠ 0 →
        (∀ double : Binary64, double = result ↔
          double.value? = some (value - step * wholePart (value / step)) ∧
            Binary64.signBit double.toBits = Binary64.signBit dividend.toBits) ∧
          |value - step * wholePart (value / step)| < |step|) ∧
        (∀ value negative, dividend.value? = some value → divisor = .infinity negative →
          result = dividend) ∧
          (divisor.value? = some 0 ∨ (∃ negative, dividend = .infinity negative) ∨ dividend = .nan ∨
            divisor = .nan → result = .nan) := by
  refine ⟨dividend.rem divisor, rfl, ?_, ?_, ?_⟩
  · intro value step dividendValue divisorValue nonzero
    exact ⟨fun double => Binary64.eq_rem_iff dividendValue divisorValue nonzero, left_over_lt value nonzero⟩
  · rintro value negative known rfl
    exact Binary64.rem_of_infinity known negative
  · rintro (zero | ⟨negative, rfl⟩ | rfl | rfl)
    · exact Binary64.rem_of_zero zero
    · cases divisor <;> rfl
    · rfl
    · cases dividend <;> rfl

/-- The quotient of the largest double by three of the smallest has more than two thousand bits. -/
example : (Binary64.ofBits 0x7fefffffffffffff).rem (Binary64.ofBits 3) = Binary64.ofBits 2 := by
  decide +kernel

end Calculator
