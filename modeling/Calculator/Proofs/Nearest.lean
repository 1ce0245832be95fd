import Mathlib.Algebra.Order.Field.Basic
import Mathlib.Algebra.Order.Field.Rat
import Mathlib.Tactic.FieldSimp
import Mathlib.Tactic.Linarith
import Calculator.Proofs.ReadBack
import Calculator.Proofs.Word

/-!
# Rounding is to the nearest double

What a correctly rounded number is can be said without a rounding: no finite double is nearer, of two equally
near ones the word is even, and from half a step behind the largest finite double on it is the infinity. There
is one double of which that is true, and `Binary64.round` finds it.

Distances from a quotient are compared on the grid of its own spacing. A double off that grid has fewer bits
to spare and lies below the leading power of two of the quotient, which is on the grid and nearer.
-/

set_option autoImplicit false

namespace Calculator

-- Powers of natural numbers are core's, whatever algebra is in scope.
attribute [local instance (1001)] instPowNat

open Binary64 (significand)

/-- The distance between the quotient and a count of units, as a multiple of `1 / divisor`. -/
def gap (dividend divisor : Nat) (units : Int) : Nat :=
  (dividend - divisor * units : Int).natAbs

/-- `own` is no farther from the quotient than `other`, and where it is as far a tie is decided for it. -/
def Precedes (dividend divisor : Nat) (own other : Int) (decided : Prop) : Prop :=
  gap dividend divisor own ≤ gap dividend divisor other ∧
    (gap dividend divisor own = gap dividend divisor other → decided)

def Narrow (units : Nat) : Prop :=
  2 ^ (units.log2 - fractionBits) ∣ units

instance (units : Nat) : Decidable (Narrow units) :=
  inferInstanceAs (Decidable (_ ∣ _))

section

variable {dividend divisor units other : Nat}

theorem gap_natural (dividend divisor units : Nat) :
    gap dividend divisor units = dividend - divisor * units + (divisor * units - dividend) := by
  rw [gap, ← Int.natCast_mul]
  omega

theorem gap_nearest_even (positive : 0 < divisor) :
    2 * gap dividend divisor (nearestEven dividend divisor) ≤ divisor := by
  have error := nearest_even_error dividend divisor positive
  rw [gap_natural]
  omega

theorem nearest_even_of_half (positive : 0 < divisor)
    (half : 2 * gap dividend divisor (nearestEven dividend divisor) = divisor) :
    nearestEven dividend divisor % 2 = 0 := by
  have whole := Nat.div_add_mod dividend divisor
  have short := Nat.mod_lt dividend positive
  simp only [gap_natural, nearestEven] at half ⊢
  split
  · next keeps =>
      rw [if_pos keeps] at half
      omega
  · next grows =>
      rw [if_neg grows, Nat.mul_succ] at half
      omega

/-- Any other natural number is a whole divisor off the nearest one. -/
theorem nearest_even_nearest (positive : 0 < divisor) (apart : other ≠ nearestEven dividend divisor) :
    Precedes dividend divisor (nearestEven dividend divisor) other
      (nearestEven dividend divisor % 2 = 0) := by
  have near := @gap_nearest_even dividend divisor positive
  have even := @nearest_even_of_half dividend divisor positive
  generalize nearestEven dividend divisor = nearest at *
  have step : divisor * nearest + divisor ≤ divisor * other ∨
      divisor * other + divisor ≤ divisor * nearest := by
    rcases Nat.lt_or_gt_of_ne apart with below | above
    · exact Or.inr (Nat.mul_le_mul_left divisor (Nat.succ_le_of_lt below))
    · exact Or.inl (Nat.mul_le_mul_left divisor (Nat.succ_le_of_lt above))
  simp only [Precedes, gap_natural] at near even ⊢
  generalize divisor * nearest = place at *
  generalize divisor * other = otherPlace at *
  constructor
  · omega
  · intro same
    exact even (by omega)

theorem gap_mul (dividend divisor factor units : Nat) :
    gap dividend (divisor * factor) units = gap dividend divisor (units * factor : Nat) := by
  rw [gap, gap, Int.natCast_mul, Int.natCast_mul, Int.mul_assoc, Int.mul_comm (factor : Int)]

/-- An even multiple of the spacing has an even significand, also when it has just gained a bit. -/
theorem significand_even {count : Nat} (few : count ≤ significandLimit) (shift : Nat)
    (even : count % 2 = 0) :
    significand (count * 2 ^ shift) % 2 = 0 := by
  have divides : 2 ^ ((count * 2 ^ shift).log2 - fractionBits) * 2 ∣ count * 2 ^ shift := by
    rcases Nat.eq_zero_or_pos count with zero | some
    · simp [zero]
    rcases Nat.lt_or_eq_of_le few with short | full
    · have nonzero := Nat.ne_of_gt (Nat.mul_pos some (Nat.two_pow_pos shift))
      have size : (count * 2 ^ shift).log2 < fractionBits + 1 + shift := by
        rw [Nat.log2_lt nonzero, Nat.pow_add]
        exact Nat.mul_lt_mul_of_pos_right short (Nat.two_pow_pos shift)
      rw [Nat.mul_comm]
      exact Nat.mul_dvd_mul (Nat.dvd_of_mod_eq_zero even) (Nat.pow_dvd_pow 2 (by omega))
    · rw [full, significandLimit, ← Nat.pow_add, Nat.log2_two_pow, ← Nat.pow_succ]
      exact Nat.pow_dvd_pow 2 (by simp only [fractionBits]; omega)
  rw [significand]
  exact Nat.mod_eq_zero_of_dvd (Nat.dvd_div_of_mul_dvd divides)

/-- A narrow count of units is on the grid of the quotient, or has fewer digits than it. -/
theorem on_grid_or_below (dividend divisor : Nat) (narrow : Narrow other) :
    2 ^ spacingLog dividend divisor ∣ other ∨
      fractionBits ≤ (dividend / divisor).log2 ∧ other < 2 ^ (dividend / divisor).log2 := by
  by_cases fine : (dividend / divisor).log2 ≤ fractionBits
  · left
    rw [spacingLog, Nat.sub_eq_zero_of_le fine]
    exact Nat.one_dvd other
  · by_cases small : other < 2 ^ (dividend / divisor).log2
    · exact Or.inr ⟨Nat.le_of_not_le fine, small⟩
    · left
      have nonzero : other ≠ 0 := by
        rintro rfl
        exact small (Nat.two_pow_pos _)
      have longer := (Nat.le_log2 nonzero).mpr (Nat.le_of_not_lt small)
      exact Nat.dvd_trans (Nat.pow_dvd_pow 2 (Nat.sub_le_sub_right longer fractionBits)) narrow

theorem nearest_on_grid (positive : 0 < divisor) (count : Nat)
    (apart : count * 2 ^ spacingLog dividend divisor ≠ roundUnits dividend divisor) :
    Precedes dividend divisor (roundUnits dividend divisor)
      (count * 2 ^ spacingLog dividend divisor : Nat)
      (significand (roundUnits dividend divisor) % 2 = 0) := by
  have steps := Nat.mul_pos positive (Nat.two_pow_pos (spacingLog dividend divisor))
  have nearest := @nearest_even_nearest dividend _ count steps fun same => apart (same ▸ rfl)
  rw [Precedes, roundUnits, ← gap_mul, ← gap_mul]
  exact ⟨nearest.1, fun tie => significand_even (significand_le dividend divisor) _ (nearest.2 tie)⟩

/-- Below the leading power of two of the quotient everything is farther than that power. -/
theorem leading_power_nearer (positive : 0 < divisor) (some : dividend / divisor ≠ 0)
    (small : other < 2 ^ (dividend / divisor).log2) :
    gap dividend divisor (2 ^ (dividend / divisor).log2 : Nat) < gap dividend divisor other := by
  have reached := (Nat.le_div_iff_mul_le positive).mp (Nat.log2_self_le some)
  have farther := (Nat.mul_lt_mul_left positive).mpr small
  rw [Nat.mul_comm] at reached
  rw [gap_natural, gap_natural]
  omega

/-- No narrow count of units is nearer to the quotient than the rounded one, and where another one is equally
near the rounded one has an even significand. -/
theorem nearest_of_narrow (positive : 0 < divisor) (narrow : Narrow other)
    (apart : other ≠ roundUnits dividend divisor) :
    Precedes dividend divisor (roundUnits dividend divisor) other
      (significand (roundUnits dividend divisor) % 2 = 0) := by
  rcases on_grid_or_below dividend divisor narrow with onGrid | ⟨long, small⟩
  · obtain ⟨count, rfl⟩ := onGrid
    rw [Nat.mul_comm] at apart ⊢
    exact nearest_on_grid positive count apart
  · have some : dividend / divisor ≠ 0 := by
      intro none
      simp [none, fractionBits] at long
    -- The leading power of two is on the grid, and it lies between the two.
    have leading : 2 ^ fractionBits * 2 ^ spacingLog dividend divisor = 2 ^ (dividend / divisor).log2 := by
      rw [← Nat.pow_add, spacingLog, Nat.add_sub_cancel' long]
    have nearer : gap dividend divisor (roundUnits dividend divisor) ≤
        gap dividend divisor (2 ^ (dividend / divisor).log2 : Nat) := by
      by_cases same : 2 ^ (dividend / divisor).log2 = roundUnits dividend divisor
      · rw [same]
      · rw [← leading] at same ⊢
        exact (nearest_on_grid positive _ same).1
    have strictly := Nat.lt_of_le_of_lt nearer (leading_power_nearer positive some small)
    exact ⟨Nat.le_of_lt strictly, fun same => absurd same (Nat.ne_of_lt strictly)⟩

def halfStep : Nat :=
  2 ^ (overflowLog - (fractionBits + 2))

def largestUnits : Nat :=
  overflowUnits - 2 * halfStep

def roundingLimit : Nat :=
  overflowUnits - halfStep

theorem overflow_in_half_steps : overflowUnits = 18014398509481984 * halfStep := by
  decide +kernel

theorem le_largest (representable : Representable units) : units ≤ largestUnits := by
  have bound := representable.1
  have steps := overflow_in_half_steps
  rw [largestUnits]
  by_cases small : units < 2 ^ (overflowLog - 1)
  · have half : 2 ^ (overflowLog - 1) = 9007199254740992 * halfStep := by decide +kernel
    omega
  · have nonzero : units ≠ 0 := by
      rintro rfl
      exact small (Nat.two_pow_pos _)
    have long := (Nat.le_log2 nonzero).mpr (Nat.le_of_not_lt small)
    have step : 2 * halfStep ∣ units := by
      have twice : 2 * halfStep = 2 ^ (overflowLog - (fractionBits + 1)) := by decide +kernel
      rw [twice]
      exact Nat.dvd_trans (Nat.pow_dvd_pow 2 (by omega)) representable.2
    obtain ⟨count, whole⟩ := step
    have few : count < 9007199254740992 := by
      by_contra many
      have := Nat.mul_le_mul_left (2 * halfStep) (Nat.le_of_not_lt many)
      omega
    have := Nat.mul_le_mul_left (2 * halfStep) (Nat.le_of_lt_succ few)
    omega

/-- The infinity begins half a step behind the largest finite double. There the tie goes to it, because the
significand of the largest one is odd. -/
theorem overflow_iff (positive : 0 < divisor) :
    overflowUnits ≤ roundUnits dividend divisor ↔ divisor * roundingLimit ≤ dividend := by
  have room : 0 < divisor * halfStep := Nat.mul_pos positive (Nat.two_pow_pos _)
  have bound : divisor * overflowUnits = 18014398509481984 * (divisor * halfStep) := by
    rw [overflow_in_half_steps, Nat.mul_left_comm]
  have limit : divisor * roundingLimit = 18014398509481983 * (divisor * halfStep) := by
    rw [roundingLimit, Nat.mul_sub, bound]
    omega
  have largest : divisor * largestUnits = 18014398509481982 * (divisor * halfStep) := by
    rw [largestUnits, Nat.mul_sub, bound, Nat.mul_left_comm divisor 2]
    omega
  constructor
  · intro exceeds
    by_contra short
    have place := Nat.mul_le_mul_left divisor exceeds
    have apart : largestUnits ≠ roundUnits dividend divisor := by
      intro same
      rw [← same] at place
      omega
    have nearer := (nearest_of_narrow positive (by decide +kernel : Narrow largestUnits) apart).1
    rw [gap_natural, gap_natural] at nearer
    omega
  · intro reached
    by_contra short
    have below := Nat.lt_of_not_le short
    have representable : Representable (roundUnits dividend divisor) :=
      representable_mul_two_pow (significand_le dividend divisor) below
    have place := Nat.mul_le_mul_left divisor (le_largest representable)
    have apart : overflowUnits ≠ roundUnits dividend divisor := Nat.ne_of_gt below
    obtain ⟨nearer, tie⟩ := nearest_of_narrow positive (by decide +kernel : Narrow overflowUnits) apart
    rw [gap_natural, gap_natural] at nearer tie
    have same : roundUnits dividend divisor = largestUnits :=
      Nat.eq_of_mul_eq_mul_left positive (by omega)
    have even := tie (by omega)
    have odd : significand largestUnits % 2 = 1 := by decide +kernel
    rw [← same] at odd
    omega

theorem nearest_of_unsigned (dividend : Nat) (positive : 0 < divisor) (narrow : Narrow units) :
    Precedes dividend divisor (roundUnits dividend divisor) units
      ((units : Int) = roundUnits dividend divisor ∨ significand (roundUnits dividend divisor) % 2 = 0) := by
  by_cases same : units = roundUnits dividend divisor
  · rw [same]
    exact ⟨Nat.le_refl _, fun _ => Or.inl rfl⟩
  · have nearest := nearest_of_narrow positive narrow same
    exact ⟨nearest.1, fun equal => Or.inr (nearest.2 equal)⟩

/-- Among doubles of either sign too: below zero everything is farther than zero. -/
theorem nearest_of_signed (dividend : Nat) (positive : 0 < divisor) (negative : Bool)
    (magnitude : Magnitude) :
    Precedes dividend divisor (roundUnits dividend divisor)
      (Binary64.signedUnits negative magnitude.units)
      (Binary64.signedUnits negative magnitude.units = roundUnits dividend divisor ∨
        significand (roundUnits dividend divisor) % 2 = 0) := by
  have zeroNarrow : Narrow 0 := by decide
  cases negative with
  | false => exact nearest_of_unsigned dividend positive magnitude.representable.2
  | true =>
      rcases Nat.eq_zero_or_pos magnitude.units with zero | some
      · have nearest := nearest_of_unsigned dividend positive zeroNarrow
        simpa [Binary64.signedUnits, zero] using nearest
      · have closest := (nearest_of_unsigned dividend positive zeroNarrow).1
        have farther := Nat.mul_pos positive some
        have away : gap dividend divisor (Binary64.signedUnits true magnitude.units) =
            dividend + divisor * magnitude.units := by
          rw [gap, Binary64.signedUnits, if_pos rfl, Int.mul_neg, Int.sub_neg, ← Int.natCast_mul,
            ← Int.natCast_add, Int.natAbs_natCast]
        rw [gap_natural dividend divisor 0] at closest
        rw [Precedes, away]
        exact ⟨by omega, by omega⟩

end

theorem units_per_one_pos : (0 : ℚ) < unitsPerOne :=
  Nat.cast_pos.mpr (Nat.two_pow_pos _)

namespace Binary64

def value? : Binary64 → Option ℚ
  | .finite negative magnitude => some (signedUnits negative magnitude.units / unitsPerOne)
  | _ => none

theorem finite_of_value {double : Binary64} {value : ℚ} (known : double.value? = some value) :
    ∃ negative magnitude, double = .finite negative magnitude := by
  cases double with
  | nan => cases known
  | infinity negative => cases known
  | finite negative magnitude => exact ⟨negative, magnitude, rfl⟩

/-- No finite double is nearer to `value` than `result`, and where another one is equally near the word of
`result` is even. -/
def Nearest (value : ℚ) (result : Binary64) : Prop :=
  ∃ own, result.value? = some own ∧ ∀ other candidate, value? other = some candidate →
    |value - own| ≤ |value - candidate| ∧
      (|value - own| = |value - candidate| → candidate = own ∨ result.toBits.toNat % 2 = 0)

/-- A number that is not negative is rounded to the nearest double without a sign, and to infinity from half a
step behind the largest one on. -/
def Rounds (value : ℚ) (result : Binary64) : Prop :=
  if 2 ^ 1024 - 2 ^ 970 ≤ value then result = .infinity false
  else Nearest value result ∧ result.toBits.toNat < signBits true

section

variable {dividend divisor : Nat}

theorem word_even (negative : Bool) (magnitude : Magnitude) :
    (finite negative magnitude).toBits.toNat % 2 = significand magnitude.units % 2 := by
  have sign : signBits negative % 2 = 0 := by cases negative <;> decide
  have width : 2 ^ fractionBits = 4503599627370496 := rfl
  rw [(to_nat_of_finite negative magnitude).1, width]
  omega

/-- Distances from a quotient of units are gaps, in a unit that does not depend on what is compared. -/
theorem distance_eq_gap (positive : 0 < divisor) (units : Int) :
    |(dividend / divisor / unitsPerOne - units / unitsPerOne : ℚ)| =
      gap dividend divisor units / (divisor * unitsPerOne) := by
  have unit := units_per_one_pos
  have part : (0 : ℚ) < divisor := Nat.cast_pos.mpr positive
  have common : (dividend / divisor / unitsPerOne - units / unitsPerOne : ℚ) =
      (dividend - divisor * units : Int) / (divisor * unitsPerOne) := by
    push_cast
    field_simp
  rw [common, abs_div, gap, Nat.cast_natAbs, Int.cast_abs, abs_of_pos (mul_pos part unit)]

theorem le_limit_iff (positive : 0 < divisor) :
    (2 ^ 1024 - 2 ^ 970 : ℚ) ≤ dividend / divisor / unitsPerOne ↔
      divisor * roundingLimit ≤ dividend := by
  have unit := units_per_one_pos
  have part : (0 : ℚ) < divisor := Nat.cast_pos.mpr positive
  have limit : (2 ^ 1024 - 2 ^ 970 : ℚ) * unitsPerOne = roundingLimit := by
    have within : halfStep ≤ overflowUnits := by decide +kernel
    rw [roundingLimit, Nat.cast_sub within, unitsPerOne, overflowUnits, halfStep, Nat.cast_pow,
      Nat.cast_pow, Nat.cast_pow, sub_mul, Nat.cast_ofNat, ← pow_add, ← pow_add]
    rfl
  rw [le_div_iff₀ unit, le_div_iff₀ part, limit, mul_comm]
  exact_mod_cast Iff.rfl

theorem round_nearest (positive : 0 < divisor) (below : roundUnits dividend divisor < overflowUnits) :
    Nearest (dividend / divisor / unitsPerOne) (round false dividend divisor) := by
  rw [round, dif_pos below]
  refine ⟨_, rfl, ?_⟩
  intro other candidate known
  cases other with
  | nan => cases known
  | infinity negative => cases known
  | finite negative magnitude =>
      cases known
      have unit : (0 : ℚ) < divisor * unitsPerOne :=
        mul_pos (Nat.cast_pos.mpr positive) (Nat.cast_pos.mpr (Nat.two_pow_pos _))
      obtain ⟨nearer, tie⟩ := nearest_of_signed dividend positive negative magnitude
      rw [distance_eq_gap positive, distance_eq_gap positive, div_le_div_iff_of_pos_right unit,
        div_left_inj' (ne_of_gt unit), Nat.cast_le, Nat.cast_inj, word_even]
      refine ⟨nearer, ?_⟩
      intro equal
      rcases tie equal with same | even
      · left
        rw [same]
        rfl
      · exact Or.inr even

/-- Rounding does what it is meant to. -/
theorem rounds_round (dividend : Nat) (positive : 0 < divisor) :
    Rounds (dividend / divisor / unitsPerOne) (round false dividend divisor) := by
  rw [Rounds]
  split
  · next reached =>
      have exceeds := (overflow_iff positive).mpr ((le_limit_iff positive).mp reached)
      rw [round, dif_neg (Nat.not_lt.mpr exceeds)]
  · next short =>
      rw [le_limit_iff positive, ← overflow_iff positive, Nat.not_le] at short
      refine ⟨round_nearest positive short, ?_⟩
      rw [round, dif_pos short]
      exact to_bits_of_unsigned _

end

section

variable {value larger : ℚ} {first second : Binary64}

theorem between_even {low high : Magnitude} (less : low.units < high.units)
    (lowEven : significand low.units % 2 = 0) (highEven : significand high.units % 2 = 0) :
    ∃ middle : Magnitude, low.units < middle.units ∧ middle.units < high.units := by
  have step := Nat.two_pow_pos (low.units.log2 - fractionBits)
  have few := significand_lt low.units
  have coarser := Nat.sub_le_sub_right (log2_mono (Nat.le_of_lt less)) fractionBits
  have lowWhole : significand low.units * 2 ^ (low.units.log2 - fractionBits) = low.units :=
    Nat.div_mul_cancel low.representable.2
  obtain ⟨count, highWhole⟩ :=
    Nat.dvd_trans (Nat.pow_dvd_pow 2 coarser) high.representable.2
  rw [Nat.mul_comm] at highWhole
  have more : significand low.units < count := by
    rw [← lowWhole, highWhole] at less
    exact Nat.lt_of_mul_lt_mul_right less
  have skips : significand low.units + 1 < count := by
    by_contra near
    have next : count = significand low.units + 1 := by omega
    have narrow : count < significandLimit := by
      have even : significandLimit % 2 = 0 := rfl
      omega
    have nonzero : high.units ≠ 0 := by omega
    have size : high.units.log2 < fractionBits + 1 + (low.units.log2 - fractionBits) := by
      rw [Nat.log2_lt nonzero, highWhole, Nat.pow_add]
      exact Nat.mul_lt_mul_of_pos_right narrow step
    have same : high.units.log2 - fractionBits = low.units.log2 - fractionBits := by omega
    have own : significand high.units = count := by
      rw [significand, same, highWhole, Nat.mul_div_cancel _ step]
    omega
  have below : (significand low.units + 1) * 2 ^ (low.units.log2 - fractionBits) < high.units := by
    rw [highWhole]
    exact Nat.mul_lt_mul_of_pos_right skips step
  refine ⟨⟨_, representable_mul_two_pow few (Nat.lt_trans below high.representable.1)⟩, ?_, below⟩
  show low.units < (significand low.units + 1) * 2 ^ (low.units.log2 - fractionBits)
  rw [Nat.succ_mul, lowWhole]
  exact Nat.lt_add_of_pos_right step

theorem value_of_unsigned (magnitude : Magnitude) :
    value? (.finite false magnitude) = some (magnitude.units / unitsPerOne : ℚ) := by
  rw [value?, signedUnits, if_neg Bool.false_ne_true, Int.cast_natCast]

theorem units_value_lt {low high : Nat} (less : low < high) :
    (low / unitsPerOne : ℚ) < high / unitsPerOne := by
  have unit := units_per_one_pos
  rw [div_lt_div_iff_of_pos_right unit, Nat.cast_lt]
  exact less

theorem nearer_to_low {low high : ℚ} (less : low < high) :
    |value - low| ≤ |value - high| ↔ 2 * value ≤ low + high := by
  rw [← sq_le_sq]
  constructor <;> intro _ <;> nlinarith

theorem nearer_to_high {low high : ℚ} (less : low < high) :
    |value - high| ≤ |value - low| ↔ low + high ≤ 2 * value := by
  rw [← sq_le_sq]
  constructor <;> intro _ <;> nlinarith

/-- Were two doubles nearest, the number would be half-way between them and both words even. Then a double in
between would be nearer. -/
theorem Nearest.not_lt {low high : Magnitude} (lowNearest : Nearest value (.finite false low))
    (highNearest : Nearest value (.finite false high)) : ¬low.units < high.units := by
  intro less
  have apart := units_value_lt less
  obtain ⟨_, lowKnown, lowClosest⟩ := lowNearest
  obtain ⟨_, highKnown, highClosest⟩ := highNearest
  rw [value_of_unsigned, Option.some.injEq] at lowKnown highKnown
  subst lowKnown highKnown
  obtain ⟨noFarther, lowTie⟩ := lowClosest _ _ (value_of_unsigned high)
  obtain ⟨noNearer, highTie⟩ := highClosest _ _ (value_of_unsigned low)
  have equal := le_antisymm noFarther noNearer
  have lowEven := (lowTie equal).resolve_left (ne_of_gt apart)
  have highEven := (highTie equal.symm).resolve_left (ne_of_lt apart)
  rw [word_even] at lowEven highEven
  obtain ⟨middle, above, below⟩ := between_even less lowEven highEven
  have closest := (lowClosest _ _ (value_of_unsigned middle)).1
  have middleHigh := units_value_lt below
  rw [nearer_to_low (units_value_lt above)] at closest
  rw [nearer_to_high apart] at noNearer
  linarith

theorem Nearest.not_lt_of_lt {low high : Magnitude} (ordered : value < larger)
    (lowNearest : Nearest value (.finite false low)) (highNearest : Nearest larger (.finite false high)) :
    ¬high.units < low.units := by
  intro less
  have apart := units_value_lt less
  obtain ⟨_, lowKnown, lowClosest⟩ := lowNearest
  obtain ⟨_, highKnown, highClosest⟩ := highNearest
  rw [value_of_unsigned, Option.some.injEq] at lowKnown highKnown
  subst lowKnown highKnown
  have lowCloser := (lowClosest _ _ (value_of_unsigned high)).1
  have highCloser := (highClosest _ _ (value_of_unsigned low)).1
  rw [nearer_to_high apart] at lowCloser
  rw [nearer_to_low apart] at highCloser
  linarith

theorem Nearest.unsigned (nearest : Nearest value first)
    (signless : first.toBits.toNat < signBits true) :
    ∃ magnitude, first = .finite false magnitude := by
  obtain ⟨_, known, _⟩ := nearest
  cases first with
  | nan => cases known
  | infinity negative => cases known
  | finite negative magnitude =>
      rw [(sign_of_to_bits negative magnitude).mp signless]
      exact ⟨magnitude, rfl⟩

theorem Rounds.unique (firstRounds : Rounds value first) (secondRounds : Rounds value second) :
    first = second := by
  rw [Rounds] at firstRounds secondRounds
  split at firstRounds
  · next exceeds =>
      rw [if_pos exceeds] at secondRounds
      rw [firstRounds, secondRounds]
  · next within =>
      rw [if_neg within] at secondRounds
      obtain ⟨low, rfl⟩ := firstRounds.1.unsigned firstRounds.2
      obtain ⟨high, rfl⟩ := secondRounds.1.unsigned secondRounds.2
      have notLess := firstRounds.1.not_lt secondRounds.1
      have notMore := secondRounds.1.not_lt firstRounds.1
      obtain ⟨lowUnits, _⟩ := low
      obtain ⟨highUnits, _⟩ := high
      have same : lowUnits = highUnits := Nat.le_antisymm (Nat.not_lt.mp notMore) (Nat.not_lt.mp notLess)
      subst same
      rfl

theorem Rounds.infinity_iff (rounds : Rounds value first) :
    first = .infinity false ↔ 2 ^ 1024 - 2 ^ 970 ≤ value := by
  rw [Rounds] at rounds
  split at rounds
  · next exceeds => exact iff_of_true rounds exceeds
  · next within =>
      obtain ⟨magnitude, rfl⟩ := rounds.1.unsigned rounds.2
      exact iff_of_false nofun within

theorem Rounds.signless (rounds : Rounds value first) : first.toBits.toNat < signBits true := by
  rw [Rounds] at rounds
  split at rounds
  · rw [rounds]
    decide +kernel
  · exact rounds.2

/-- The order of numbers, with the infinities at its ends. Not-a-number is in no order. -/
def AtMost : Binary64 → Binary64 → Prop
  | .nan, _ => False
  | _, .nan => False
  | .infinity negative, other => negative = true ∨ other = .infinity false
  | .finite _ _, .infinity negative => negative = false
  | .finite left low, .finite right high => signedUnits left low.units ≤ signedUnits right high.units

/-- A larger number is never rounded to a smaller double. -/
theorem Rounds.at_most (firstRounds : Rounds value first) (secondRounds : Rounds larger second)
    (ordered : value ≤ larger) : first.AtMost second := by
  rw [Rounds] at firstRounds secondRounds
  by_cases exceeds : 2 ^ 1024 - 2 ^ 970 ≤ larger
  · rw [if_pos exceeds] at secondRounds
    rw [secondRounds]
    split at firstRounds
    · rw [firstRounds]
      exact Or.inr rfl
    · obtain ⟨low, rfl⟩ := firstRounds.1.unsigned firstRounds.2
      rfl
  · rw [if_neg exceeds] at secondRounds
    rw [if_neg fun reached => exceeds (le_trans reached ordered)] at firstRounds
    obtain ⟨low, rfl⟩ := firstRounds.1.unsigned firstRounds.2
    obtain ⟨high, rfl⟩ := secondRounds.1.unsigned secondRounds.2
    have notLess : ¬high.units < low.units := by
      rcases eq_or_lt_of_le ordered with rfl | less
      · exact secondRounds.1.not_lt firstRounds.1
      · exact Nearest.not_lt_of_lt less firstRounds.1 secondRounds.1
    exact Int.ofNat_le.mpr (Nat.not_lt.mp notLess)

end

end Binary64

end Calculator
