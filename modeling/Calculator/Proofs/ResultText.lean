import Calculator.Proofs.Nearest

/-!
# What the text of a result tells

A whole value is printed with the exact digits of its size, any other finite value with a point. The two never
meet: a decimal that is an integer is rounded to an integer, so the shortest decimal of a value with a
fractional part has digits behind the point that are not all zero. And no text is that of two doubles.
-/

set_option autoImplicit false

namespace Calculator

-- Powers of natural numbers are core's, whatever algebra is in scope.
attribute [local instance (1001)] instPowNat

/-- The spacing of doubles divides one, or one divides it. -/
theorem unit_dvd_round_units (number : Nat) {divisor : Nat} (positive : 0 < divisor) :
    unitsPerOne ∣ roundUnits (number * unitsPerOne * divisor) divisor := by
  simp only [roundUnits]
  generalize spacingLog (number * unitsPerOne * divisor) divisor = shift
  rcases Nat.le_total unitLog shift with coarse | fine
  · exact Nat.dvd_trans (Nat.pow_dvd_pow 2 coarse) (Nat.dvd_mul_left _ _)
  · obtain ⟨steps, whole⟩ : 2 ^ shift ∣ unitsPerOne := Nat.pow_dvd_pow 2 fine
    have product : number * unitsPerOne * divisor = divisor * 2 ^ shift * (number * steps) := by
      rw [whole]
      ac_rfl
    rw [product, nearest_even_of_multiple _ (Nat.mul_pos positive (Nat.two_pow_pos shift)), Nat.mul_assoc,
      Nat.mul_comm steps, ← whole]
    exact Nat.dvd_mul_left _ _

theorem Binary64.units_of_round {negative : Bool} {dividend divisor : Nat} {magnitude : Magnitude}
    (rounded : Binary64.round negative dividend divisor = .finite negative magnitude) :
    roundUnits dividend divisor = magnitude.units := by
  rw [round] at rounded
  split at rounded
  · cases rounded
    rfl
  · cases rounded

namespace Decimal

variable {decimal : Decimal} {magnitude : Magnitude}

theorem unit_dvd_of_nearest (whole : decimal.divisor ∣ decimal.digits)
    (nearest : decimal.nearest = .finite false magnitude) : unitsPerOne ∣ magnitude.units := by
  obtain ⟨number, digits⟩ := whole
  have dividend : decimal.dividend =
      number * 10 ^ decimal.exponent.toNat * unitsPerOne * decimal.divisor := by
    rw [Decimal.dividend, digits, Nat.mul_comm decimal.divisor, Nat.mul_right_comm number,
      Nat.mul_right_comm (number * _)]
  rw [← Binary64.units_of_round nearest, dividend]
  exact unit_dvd_round_units _ (divisor_pos decimal)

theorem positional_of_fraction (nearest : decimal.nearest = .finite false magnitude)
    (broken : ¬unitsPerOne ∣ magnitude.units) :
    ∃ whole fraction, decimal.positional = whole ++ '.' :: fraction ∧ whole ≠ [] ∧
      whole.all Char.isDigit = true ∧ fraction.all Char.isDigit = true ∧
        ∃ digit ∈ fraction, digit ≠ '0' := by
  obtain ⟨number, exponent⟩ := decimal
  have uneven : ¬10 ^ (-exponent).toNat ∣ number := fun whole => broken (unit_dvd_of_nearest whole nearest)
  cases exponent with
  | ofNat zeros =>
      simp at uneven
  | negSucc places =>
      obtain ⟨whole, fraction, placed, nonempty, digits, length, value⟩ :=
        place_point_shape number (places + 1)
      have layout : positional ⟨number, Int.negSucc places⟩ =
          placePoint (Nat.toDigits 10 number) (places + 1) := by
        simp [positional, digitText]
      rw [List.all_append, Bool.and_eq_true] at digits
      refine ⟨whole, fraction, layout.trans placed, nonempty, digits.1, digits.2, ?_⟩
      by_contra zeros
      push Not at zeros
      apply uneven
      rw [← value, List.eq_replicate_iff.mpr ⟨length, zeros⟩, Nat.ofDigitChars_append,
        Nat.ofDigitChars_replicate_zero]
      exact Nat.dvd_mul_right _ _

end Decimal

def DenotesInteger (text : String) : Prop :=
  ∃ negative digits, text = Binary64.withSign negative digits ∧ digits ≠ [] ∧
    digits.all Char.isDigit = true

structure Canonical (text : List Char) : Prop where
  nonempty : text ≠ []
  digits : text.all Char.isDigit = true
  leading : text.head? = some '0' → text = ['0']

theorem to_digits_leading {number : Nat} (positive : 0 < number) :
    (Nat.toDigits 10 number).head? ≠ some '0' := by
  induction number using Nat.strongRecOn with
  | ind number ih =>
      rw [Nat.toDigits_eq_if (by decide)]
      split
      · next single =>
          have others : ∀ digit < 10, 0 < digit → some digit.digitChar ≠ some '0' := by decide
          exact others number single positive
      · next more =>
          rw [List.head?_append_of_ne_nil _ Nat.toDigits_ne_nil]
          exact ih (number / 10) (by omega) (by omega)

theorem Canonical.of_to_digits (number : Nat) : Canonical (Nat.toDigits 10 number) where
  nonempty := Nat.toDigits_ne_nil
  digits := Decimal.to_digits_digits number
  leading := by
    intro zero
    rcases Nat.eq_zero_or_pos number with rfl | positive
    · rfl
    · exact absurd zero (to_digits_leading positive)

theorem with_sign_injective {first second : Bool} {left right : List Char}
    (leftPlain : left.head? ≠ some '-') (rightPlain : right.head? ≠ some '-')
    (same : Binary64.withSign first left = Binary64.withSign second right) :
    first = second ∧ left = right := by
  have characters := String.ofList_injective same
  cases first <;> cases second
  · exact ⟨rfl, characters⟩
  · have plain : left = '-' :: right := characters
    rw [plain] at leftPlain
    exact absurd rfl leftPlain
  · have plain : '-' :: left = right := characters
    rw [← plain] at rightPlain
    exact absurd rfl rightPlain
  · exact ⟨rfl, List.tail_eq_of_cons_eq characters⟩

theorem head_of_digits {text : List Char} (digits : text.all Char.isDigit = true) :
    text.head? ≠ some '-' := by
  intro minus
  have member := List.mem_of_head? minus
  have digit := List.all_eq_true.mp digits '-' member
  cases digit

theorem denotes_integer_iff {negative : Bool} {body : List Char} (plain : body.head? ≠ some '-') :
    DenotesInteger (Binary64.withSign negative body) ↔ body ≠ [] ∧ body.all Char.isDigit = true := by
  constructor
  · rintro ⟨sign, digits, same, nonempty, all⟩
    obtain ⟨_, rfl⟩ := with_sign_injective plain (head_of_digits all) same
    exact ⟨nonempty, all⟩
  · rintro ⟨nonempty, all⟩
    exact ⟨negative, body, rfl, nonempty, all⟩

theorem DenotesInteger.no_point {text : String} (integer : DenotesInteger text) : '.' ∉ text.toList := by
  obtain ⟨negative, digits, rfl, _, all⟩ := integer
  have plain : '.' ∉ digits := fun point => bne_iff_ne.mp (Decimal.not_point_of_digits all '.' point) rfl
  cases negative <;> simpa [Binary64.withSign] using plain

theorem Numeral.head {text : List Char} {value : Binary64} (numeral : Numeral text value) :
    text.head? ≠ some '-' := by
  intro minus
  have gathered := numeral.gathers '-' (List.mem_of_head? minus)
  cases gathered

namespace Binary64

variable {negative : Bool} {magnitude : Magnitude} {word : UInt64}

def signBit (word : UInt64) : Bool :=
  decide (signBits true ≤ word.toNat)

theorem sign_bit_of_finite (negative : Bool) (magnitude : Magnitude) :
    signBit (finite negative magnitude).toBits = negative := by
  have sign := sign_of_to_bits negative magnitude
  rw [signBit]
  cases negative with
  | false => exact decide_eq_false (Nat.not_le.mpr (sign.mpr rfl))
  | true => exact decide_eq_true (Nat.not_lt.mp fun clear => nomatch sign.mp clear)

theorem sign_of_bits (decoded : ofBits word = .finite negative magnitude) : negative = signBit word := by
  have own : (finite negative magnitude).toBits = word := by
    rw [← decoded]
    exact to_bits_of_bits (by rw [decoded]; exact nofun)
  rw [← own, sign_bit_of_finite]

theorem is_integral_iff : (finite negative magnitude).isIntegral = true ↔ unitsPerOne ∣ magnitude.units := by
  rw [Nat.dvd_iff_mod_eq_zero]
  exact beq_iff_eq

/-- The test of the fractional part needs no guard. -/
theorem fract_is_zero (value : Binary64) : value.fract.isZero = value.isIntegral := by
  cases value <;> rfl

theorem result_text_of_whole (whole : unitsPerOne ∣ magnitude.units) :
    (finite negative magnitude).resultText =
      withSign negative (Nat.toDigits 10 (magnitude.units / unitsPerOne)) := by
  rw [resultText, fract_is_zero, if_pos (is_integral_iff.mpr whole)]
  rfl

theorem result_text_of_fraction (broken : ¬unitsPerOne ∣ magnitude.units) :
    (finite negative magnitude).resultText =
      withSign negative (Decimal.shortest magnitude.units).positional := by
  rw [resultText, fract_is_zero, if_neg (mt is_integral_iff.mp broken)]
  rfl

inductive Body : Binary64 → Bool → List Char → Prop where
  | infinity (negative : Bool) : Body (.infinity negative) negative ['i', 'n', 'f']
  | finite (negative : Bool) {magnitude : Magnitude} {text : List Char}
      (numeral : Numeral text (.finite false magnitude)) : Body (.finite negative magnitude) negative text

theorem Body.head {value : Binary64} {text : List Char} (body : Body value negative text) :
    text.head? ≠ some '-' := by
  cases body with
  | infinity => decide
  | finite _ numeral => exact numeral.head

theorem Body.unique {first second : Binary64} {text : List Char} (firstBody : Body first negative text)
    (secondBody : Body second negative text) : first = second := by
  cases firstBody with
  | infinity =>
      cases secondBody with
      | infinity => rfl
      | finite _ numeral => cases numeral.gathers 'i' List.mem_cons_self
  | finite _ numeral =>
      cases secondBody with
      | infinity => cases numeral.gathers 'i' List.mem_cons_self
      | finite _ other =>
          have same := Option.some.inj (numeral.reads.symm.trans other.reads)
          injection same with _ magnitude
          rw [magnitude]

theorem body_of_known {value : Binary64} (known : value ≠ .nan) :
    ∃ negative text, value.resultText = withSign negative text ∧ Body value negative text := by
  cases value with
  | nan => exact absurd rfl known
  | infinity negative => exact ⟨negative, _, rfl, .infinity negative⟩
  | finite negative magnitude =>
      obtain ⟨text, printed, numeral⟩ := Numeral.result_text negative magnitude
      exact ⟨negative, text, printed, .finite negative numeral⟩

theorem result_text_injective {first second : Binary64} (firstKnown : first ≠ .nan)
    (secondKnown : second ≠ .nan) (same : first.resultText = second.resultText) : first = second := by
  obtain ⟨left, text, printed, body⟩ := body_of_known firstKnown
  obtain ⟨right, other, otherPrinted, otherBody⟩ := body_of_known secondKnown
  rw [printed, otherPrinted] at same
  obtain ⟨rfl, rfl⟩ := with_sign_injective body.head otherBody.head same
  exact body.unique otherBody

theorem signed_units_mul (negative : Bool) (factor number : Nat) :
    signedUnits negative (factor * number) = factor * signedUnits negative number := by
  cases negative <;> simp [signedUnits]

theorem nat_abs_signed_units (negative : Bool) (units : Nat) : (signedUnits negative units).natAbs = units := by
  cases negative <;> simp [signedUnits]

theorem value_of_whole (negative : Bool) (whole : unitsPerOne ∣ magnitude.units) :
    (finite negative magnitude).value? =
      some (signedUnits negative (magnitude.units / unitsPerOne : Nat) : ℚ) := by
  have unit : 0 < unitsPerOne := Nat.two_pow_pos unitLog
  obtain ⟨number, units⟩ := whole
  rw [value?, units, Nat.mul_div_cancel_left number unit, signed_units_mul, Int.cast_mul,
    Int.cast_natCast, mul_div_cancel_left₀ _ (Nat.cast_ne_zero.mpr (Nat.ne_of_gt unit))]

theorem result_text_broken (negative : Bool) (broken : ¬unitsPerOne ∣ magnitude.units) :
    ∃ whole fraction,
      (finite negative magnitude).resultText = withSign negative (whole ++ '.' :: fraction) ∧
        whole ≠ [] ∧ whole.all Char.isDigit = true ∧ fraction.all Char.isDigit = true ∧
          ∃ digit ∈ fraction, digit ≠ '0' := by
  obtain ⟨whole, fraction, layout, digits⟩ :=
    Decimal.positional_of_fraction (Decimal.nearest_shortest magnitude) broken
  exact ⟨whole, fraction, by rw [result_text_of_fraction broken, layout], digits⟩

theorem denotes_integer_iff_integral (value : Binary64) :
    DenotesInteger value.resultText ↔ value.isIntegral = true := by
  cases value with
  | nan =>
      have text : resultText .nan = withSign false ['N', 'a', 'N'] := rfl
      rw [text, denotes_integer_iff (by decide)]
      decide
  | infinity negative =>
      have text : resultText (.infinity negative) = withSign negative ['i', 'n', 'f'] := rfl
      rw [text, denotes_integer_iff (by decide)]
      decide +revert
  | finite negative magnitude =>
      rw [is_integral_iff]
      by_cases whole : unitsPerOne ∣ magnitude.units
      · rw [result_text_of_whole whole,
          denotes_integer_iff (head_of_digits (Decimal.to_digits_digits _))]
        exact iff_of_true ⟨Nat.toDigits_ne_nil, Decimal.to_digits_digits _⟩ whole
      · obtain ⟨front, fraction, text, _⟩ := result_text_broken negative whole
        refine iff_of_false ?_ whole
        intro integer
        apply integer.no_point
        rw [text]
        cases negative <;> simp [withSign]

end Binary64

/-- The text of a whole value has no point and is its exact digits; that of another finite value has a point
and digits behind it that are not all zero. Two words, neither of them not-a-number, have different texts. -/
theorem result_text_faithful :
    (∀ value : Binary64, value.fract.isZero = value.isIntegral ∧
        ('.' ∉ value.resultText.toList ∧ DenotesInteger value.resultText ↔ value.isIntegral = true)) ∧
      (∀ word value, Binary64.ofBits word = value → value.isIntegral = true →
        ∃ digits, value.resultText = Binary64.withSign (Binary64.signBit word) digits ∧
          Canonical digits ∧ value.value? =
            some (Binary64.signedUnits (Binary64.signBit word) (Nat.ofDigitChars 10 digits 0) : ℚ)) ∧
        (∀ word value, Binary64.ofBits word = value → value.isFinite = true → value.isIntegral = false →
          ∃ whole fraction, value.resultText =
              Binary64.withSign (Binary64.signBit word) (whole ++ '.' :: fraction) ∧
            whole ≠ [] ∧ whole.all Char.isDigit = true ∧ fraction.all Char.isDigit = true ∧
              ∃ digit ∈ fraction, digit ≠ '0') ∧
          ∀ first second, first ≠ second → Binary64.ofBits first ≠ .nan → Binary64.ofBits second ≠ .nan →
            (Binary64.ofBits first).resultText ≠ (Binary64.ofBits second).resultText := by
  refine ⟨?_, ?_, ?_, ?_⟩
  · intro value
    refine ⟨Binary64.fract_is_zero value, ?_⟩
    rw [← Binary64.denotes_integer_iff_integral value]
    exact and_iff_right_of_imp DenotesInteger.no_point
  · intro word value decoded integral
    cases value with
    | nan => cases integral
    | infinity negative => cases integral
    | finite negative magnitude =>
        have whole := Binary64.is_integral_iff.mp integral
        rw [← Binary64.sign_of_bits decoded]
        refine ⟨_, Binary64.result_text_of_whole whole, Canonical.of_to_digits _, ?_⟩
        rw [Nat.ofDigitChars_ten_toDigits]
        exact Binary64.value_of_whole negative whole
  · intro word value decoded finite broken
    cases value with
    | nan => cases finite
    | infinity negative => cases finite
    | finite negative magnitude =>
        rw [← Binary64.sign_of_bits decoded]
        refine Binary64.result_text_broken negative ?_
        intro whole
        rw [Binary64.is_integral_iff.mpr whole] at broken
        cases broken
  · intro first second apart firstKnown secondKnown same
    have equal := congrArg Binary64.toBits (Binary64.result_text_injective firstKnown secondKnown same)
    rw [Binary64.to_bits_of_bits firstKnown, Binary64.to_bits_of_bits secondKnown] at equal
    exact apart equal

/-- The double nearest to the twenty-third power of ten is not that power, and is not printed as if it were. -/
example : (Binary64.ofBits 0x44b52d02c7e14af6).resultText = "99999999999999991611392" := by
  decide +kernel

end Calculator
