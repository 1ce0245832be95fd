import Calculator.Operation
import Calculator.Proofs.ResultText

/-!
# Rounded products of the first factors

The factorial multiplies one factor after another, and every step is rounded. The factors are exact up to
`2 ^ 53`, where the next one is rounded back. A step errs by one part in `2 ^ 53` at most, so after a round for
each factor up to 170 the product is close enough to the exact one to be finite, and the factor 171 makes it
infinite. No factor is zero, so it stays so.
-/

set_option autoImplicit false

namespace Calculator

-- Powers of natural numbers are core's, whatever algebra is in scope.
attribute [local instance (1001)] instPowNat

section

variable {quotient divisor : Nat}

theorem spacing_of_leading (positive : 0 < divisor) (wide : fractionBits ≤ quotient.log2) :
    2 ^ fractionBits * 2 ^ spacingLog (quotient * divisor) divisor = 2 ^ quotient.log2 := by
  rw [spacingLog, Nat.mul_div_cancel quotient positive, ← Nat.pow_add, Nat.add_sub_cancel' wide]

theorem leading_power_le_quotient (wide : fractionBits ≤ quotient.log2) : 2 ^ quotient.log2 ≤ quotient := by
  refine Nat.log2_self_le ?_
  rintro rfl
  cases wide

theorem leading_power_le_rounded (positive : 0 < divisor) (wide : fractionBits ≤ quotient.log2) :
    2 ^ quotient.log2 ≤ roundUnits (quotient * divisor) divisor := by
  have leading := spacing_of_leading positive wide
  have most := leading_power_le_quotient wide
  simp only [roundUnits]
  generalize spacingLog (quotient * divisor) divisor = shift at *
  rw [← leading] at most ⊢
  refine Nat.mul_le_mul_right _ (Nat.le_trans ?_ (le_nearest_even _ _))
  rw [← Nat.div_div_eq_div_mul, Nat.mul_div_cancel quotient positive]
  exact (Nat.le_div_iff_mul_le (Nat.two_pow_pos shift)).mpr most

theorem round_units_error (positive : 0 < divisor) (wide : fractionBits ≤ quotient.log2) :
    significandLimit * roundUnits (quotient * divisor) divisor ≤ (significandLimit + 1) * quotient ∧
      (significandLimit - 1) * quotient ≤ significandLimit * roundUnits (quotient * divisor) divisor := by
  have leading := spacing_of_leading positive wide
  have most := leading_power_le_quotient wide
  simp only [roundUnits]
  generalize spacingLog (quotient * divisor) divisor = shift at *
  have error := nearest_even_error (quotient * divisor) (divisor * 2 ^ shift)
    (Nat.mul_pos positive (Nat.two_pow_pos shift))
  generalize nearestEven (quotient * divisor) (divisor * 2 ^ shift) = count at *
  have rounded : divisor * 2 ^ shift * count = divisor * (count * 2 ^ shift) := by
    rw [Nat.mul_assoc, Nat.mul_comm (2 ^ shift)]
  rw [rounded, Nat.mul_comm quotient divisor, Nat.mul_left_comm 2 divisor, Nat.mul_left_comm 2 divisor,
    ← Nat.mul_add, ← Nat.mul_add] at error
  have above := Nat.le_of_mul_le_mul_left error.1 positive
  have below := Nat.le_of_mul_le_mul_left error.2 positive
  have width : 2 ^ fractionBits = 4503599627370496 := rfl
  have limit : significandLimit = 9007199254740992 := rfl
  rw [← leading, width] at most
  rw [limit]
  omega

end

namespace Binary64

section

variable {number : Nat}

/-- Every whole number up to `2 ^ 53` is a double. -/
theorem representable_whole (small : number ≤ significandLimit) : Representable (number * unitsPerOne) := by
  refine representable_mul_two_pow small ?_
  calc
    number * unitsPerOne ≤ significandLimit * unitsPerOne := Nat.mul_le_mul_right _ small
    _ = 2 ^ (fractionBits + 1 + unitLog) := by rw [significandLimit, unitsPerOne, ← Nat.pow_add]
    _ < overflowUnits := Nat.pow_lt_pow_right (by decide) (by decide)

theorem of_nat_exact (small : number ≤ significandLimit) :
    ofNat number = .finite false ⟨number * unitsPerOne, representable_whole small⟩ := by
  have exact := round_exact false ⟨number * unitsPerOne, representable_whole small⟩ Nat.one_pos
  rw [Nat.mul_one] at exact
  exact exact

/-- The next whole number is added exactly or rounded, as a sum of any two doubles is. -/
theorem of_nat_add_one (small : number ≤ significandLimit) : (ofNat number).add .one = ofNat (number + 1) := by
  have sum : (number * unitsPerOne : Nat) + (1 * unitsPerOne : Nat) =
      (((number + 1) * unitsPerOne : Nat) : Int) := by
    rw [← Int.natCast_add, ← Nat.add_mul]
  have nonzero : (((number + 1) * unitsPerOne : Nat) : Int) ≠ 0 :=
    Int.natCast_ne_zero.mpr (Nat.mul_ne_zero (Nat.succ_ne_zero number) (Nat.ne_of_gt (Nat.two_pow_pos _)))
  rw [of_nat_exact small, one, of_nat_exact (by decide)]
  simp only [add, signedUnits, Bool.false_eq_true, if_false, sum, if_neg nonzero, Int.natAbs_natCast]
  rw [decide_eq_false (Int.not_lt.mpr (Int.natCast_nonneg _))]
  rfl

/-- The tie between `2 ^ 53` and the double behind it goes back. -/
theorem of_nat_behind_limit : ofNat (significandLimit + 1) = ofNat significandLimit := by
  decide +kernel

theorem infinity_mul_of_nat (positive : 0 < number) (small : number ≤ significandLimit) :
    (infinity false).mul (ofNat number) = .infinity false := by
  have nonzero : number * unitsPerOne ≠ 0 := Nat.ne_of_gt (Nat.mul_pos positive (Nat.two_pow_pos _))
  rw [of_nat_exact small, mul, if_neg nonzero]
  rfl

end

end Binary64

def lastFiniteRound : Nat := 169

def exactUnits (rounds : Nat) : Nat :=
  (rounds + 1).factorial * unitsPerOne

/-- Units that are off from the exact product by one part in `2 ^ 53` a round at most. -/
structure Near (rounds units : Nat) : Prop where
  large : unitsPerOne ≤ units
  notAbove : significandLimit ^ rounds * units ≤ (significandLimit + 1) ^ rounds * exactUnits rounds
  notBelow : (significandLimit - 1) ^ rounds * exactUnits rounds ≤ significandLimit ^ rounds * units

section

variable {rounds units : Nat}

theorem exact_start : exactUnits 0 = unitsPerOne := by
  rw [exactUnits, Nat.zero_add, Nat.factorial_one, Nat.one_mul]

theorem exact_next (rounds : Nat) : exactUnits (rounds + 1) = exactUnits rounds * (rounds + 2) := by
  rw [exactUnits, exactUnits, Nat.factorial_succ (rounds + 1), Nat.mul_comm (rounds + 1 + 1),
    Nat.mul_right_comm]

theorem near_start : Near 0 unitsPerOne where
  large := Nat.le_refl _
  notAbove := by rw [exact_start, Nat.pow_zero, Nat.pow_zero]
  notBelow := by rw [exact_start, Nat.pow_zero, Nat.pow_zero]

/-- Every round adds its own rounding error. -/
theorem Near.round (near : Near rounds units) :
    Near (rounds + 1) (roundUnits (units * (rounds + 2) * unitsPerOne) unitsPerOne) := by
  have unit : 0 < unitsPerOne := Nat.two_pow_pos _
  have grows : unitsPerOne ≤ units * (rounds + 2) :=
    Nat.le_trans near.large (Nat.le_mul_of_pos_right _ (Nat.succ_pos _))
  have long : unitLog ≤ (units * (rounds + 2)).log2 :=
    (Nat.le_log2 (Nat.ne_of_gt (Nat.lt_of_lt_of_le unit grows))).mpr grows
  have wide : fractionBits ≤ (units * (rounds + 2)).log2 := Nat.le_trans (by decide) long
  have leading := leading_power_le_rounded unit wide
  obtain ⟨above, below⟩ := round_units_error unit wide
  generalize roundUnits (units * (rounds + 2) * unitsPerOne) unitsPerOne = next at *
  refine ⟨Nat.le_trans (Nat.pow_le_pow_right (by decide) long) leading, ?_, ?_⟩
  · calc
      significandLimit ^ (rounds + 1) * next = significandLimit ^ rounds * (significandLimit * next) := by
        rw [Nat.pow_succ, Nat.mul_assoc]
      _ ≤ significandLimit ^ rounds * ((significandLimit + 1) * (units * (rounds + 2))) :=
        Nat.mul_le_mul_left _ above
      _ = significandLimit ^ rounds * units * ((significandLimit + 1) * (rounds + 2)) := by
        rw [Nat.mul_left_comm (significandLimit + 1), ← Nat.mul_assoc]
      _ ≤ (significandLimit + 1) ^ rounds * exactUnits rounds *
          ((significandLimit + 1) * (rounds + 2)) := Nat.mul_le_mul_right _ near.notAbove
      _ = (significandLimit + 1) ^ (rounds + 1) * exactUnits (rounds + 1) := by
        rw [exact_next, Nat.pow_succ, Nat.mul_mul_mul_comm]
  · calc
      (significandLimit - 1) ^ (rounds + 1) * exactUnits (rounds + 1) =
          (significandLimit - 1) ^ rounds * exactUnits rounds *
            ((significandLimit - 1) * (rounds + 2)) := by
        rw [exact_next, Nat.pow_succ, Nat.mul_mul_mul_comm]
      _ ≤ significandLimit ^ rounds * units * ((significandLimit - 1) * (rounds + 2)) :=
        Nat.mul_le_mul_right _ near.notBelow
      _ = significandLimit ^ rounds * ((significandLimit - 1) * (units * (rounds + 2))) := by
        rw [Nat.mul_assoc, Nat.mul_left_comm units]
      _ ≤ significandLimit ^ rounds * (significandLimit * next) := Nat.mul_le_mul_left _ below
      _ = significandLimit ^ (rounds + 1) * next := by
        rw [Nat.pow_succ, Nat.mul_assoc]

/-- Were every step rounded up as far as can be, the factors up to 170 would have a finite product. -/
theorem not_above_overflow :
    ∀ rounds ≤ lastFiniteRound, (significandLimit + 1) ^ rounds * exactUnits rounds <
      significandLimit ^ rounds * overflowUnits := by
  decide +kernel

/-- Were every step rounded down as far as can be, those up to 171 would have an infinite one. -/
theorem limit_not_above :
    significandLimit ^ lastFiniteRound * roundingLimit ≤
      (significandLimit - 1) ^ lastFiniteRound * exactUnits lastFiniteRound * (lastFiniteRound + 2) := by
  decide +kernel

theorem Near.fits (near : Near rounds units) (few : rounds ≤ lastFiniteRound) : units < overflowUnits :=
  Nat.lt_of_mul_lt_mul_left (Nat.lt_of_le_of_lt near.notAbove (not_above_overflow rounds few))

theorem Near.overflows (near : Near lastFiniteRound units) : roundingLimit ≤ units * (lastFiniteRound + 2) := by
  have room : 0 < significandLimit ^ lastFiniteRound := Nat.pow_pos (Nat.two_pow_pos _)
  refine Nat.le_of_mul_le_mul_left ?_ room
  rw [← Nat.mul_assoc]
  exact Nat.le_trans limit_not_above (Nat.mul_le_mul_right _ near.notBelow)

end

namespace PartialProduct

/-- The factors go up by one to `2 ^ 53` and stay there. -/
theorem factor_after (rounds : Nat) : (after rounds).factor = .ofNat (min (rounds + 2) significandLimit) := by
  induction rounds with
  | zero =>
      rw [after, start, Nat.min_eq_left (by decide)]
  | succ rounds ih =>
      have step : (after (rounds + 1)).factor = (after rounds).factor.add .one := rfl
      rw [step, ih, Binary64.of_nat_add_one (Nat.min_le_right _ _)]
      rcases Nat.lt_or_ge (rounds + 2) significandLimit with below | reached
      · rw [Nat.min_eq_left (Nat.le_of_lt below), Nat.min_eq_left (Nat.succ_le_of_lt below)]
      · rw [Nat.min_eq_right reached, Nat.min_eq_right (Nat.le_succ_of_le reached),
          Binary64.of_nat_behind_limit]

theorem factor_multiplied (rounds : Nat) :
    (after (rounds + 1)).product =
      (after rounds).product.mul (.ofNat (min (rounds + 2) significandLimit)) := by
  rw [← factor_after]
  rfl

theorem round_of_finite {rounds : Nat} {magnitude : Magnitude}
    (product : (after rounds).product = .finite false magnitude) (small : rounds + 2 ≤ significandLimit) :
    (after (rounds + 1)).product =
      .round false (magnitude.units * (rounds + 2) * unitsPerOne) unitsPerOne := by
  rw [factor_multiplied, product, Nat.min_eq_left small, Binary64.of_nat_exact small, Nat.mul_assoc]
  rfl

theorem product_of_start : (after 0).product = .finite false .one := by
  have exact := Binary64.round_exact false .one Nat.one_pos
  rw [Magnitude.one, Nat.mul_comm] at exact
  rw [after, start, Binary64.one, Binary64.ofNat, exact, Magnitude.one]

/-- The rounded products with a finite value, and how near they are to the exact ones. -/
theorem product_near {rounds : Nat} (few : rounds ≤ lastFiniteRound) :
    ∃ magnitude, (after rounds).product = .finite false magnitude ∧ Near rounds magnitude.units := by
  induction rounds with
  | zero => exact ⟨.one, product_of_start, near_start⟩
  | succ rounds ih =>
      obtain ⟨magnitude, product, near⟩ := ih (Nat.le_of_succ_le few)
      have small : rounds + 2 ≤ significandLimit := Nat.le_trans (Nat.succ_le_succ few) (by decide)
      have fits := near.round.fits few
      rw [round_of_finite product small, Binary64.round, dif_pos fits]
      exact ⟨_, rfl, near.round⟩

theorem product_overflows : (after (lastFiniteRound + 1)).product = .infinity false := by
  obtain ⟨magnitude, product, near⟩ := product_near (Nat.le_refl lastFiniteRound)
  have unit : 0 < unitsPerOne := Nat.two_pow_pos _
  have exceeds : overflowUnits ≤
      roundUnits (magnitude.units * (lastFiniteRound + 2) * unitsPerOne) unitsPerOne := by
    have enough := Nat.mul_le_mul_right unitsPerOne near.overflows
    rw [Nat.mul_comm roundingLimit] at enough
    exact (overflow_iff unit).mpr enough
  rw [round_of_finite product (by decide), Binary64.round, dif_neg (Nat.not_lt.mpr exceeds)]

theorem product_infinite {rounds : Nat} (many : lastFiniteRound < rounds) :
    (after rounds).product = .infinity false := by
  induction many with
  | refl => exact product_overflows
  | step _ ih =>
      rw [factor_multiplied, ih]
      exact Binary64.infinity_mul_of_nat (Nat.lt_min.mpr ⟨Nat.succ_pos _, Nat.two_pow_pos _⟩)
        (Nat.min_le_right _ _)

end PartialProduct

end Calculator
