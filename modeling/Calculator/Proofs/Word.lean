import Calculator.Binary64.Basic

/-!
# The words of doubles

A word and its double determine one another, but for the many words that encode not-a-number. Equal values
are equal bit by bit. The top bit of a word is the sign.
-/

set_option autoImplicit false

namespace Calculator.Binary64

-- Powers of natural numbers are core's, whatever algebra is in scope.
attribute [local instance (1001)] instPowNat

variable {fraction shift : Nat}

/-- The sign, the exponent and the fraction make up the word. -/
theorem fields_of_word (word : UInt64) :
    signBits (decide (signBits true ≤ word.toNat)) +
        word.toNat / 2 ^ fractionBits % 2 ^ exponentBits * 2 ^ fractionBits +
          word.toNat % 2 ^ fractionBits = word.toNat := by
  have bounded := word.toNat_lt
  have top : signBits true = 9223372036854775808 := rfl
  have width : 2 ^ fractionBits = 4503599627370496 := rfl
  have range : 2 ^ exponentBits = 2048 := rfl
  rw [top, width, range]
  by_cases negative : 9223372036854775808 ≤ word.toNat
  · rw [decide_eq_true negative, top]
    omega
  · rw [decide_eq_false negative]
    show 0 + _ + _ = _
    omega

theorem shift_of_subnormal (short : fraction < 2 ^ fractionBits) :
    fraction.log2 - fractionBits = 0 := by
  by_cases zero : fraction = 0
  · rw [zero]
    rfl
  · have narrow := (Nat.log2_lt zero).mpr short
    omega

theorem shift_of_normal (short : fraction < 2 ^ fractionBits) :
    ((2 ^ fractionBits + fraction) * 2 ^ shift).log2 - fractionBits = shift := by
  have leading : 2 ^ (fractionBits + shift) ≤ (2 ^ fractionBits + fraction) * 2 ^ shift := by
    rw [Nat.pow_add]
    exact Nat.mul_le_mul_right _ (Nat.le_add_right _ _)
  have narrow : (2 ^ fractionBits + fraction) * 2 ^ shift < 2 ^ (fractionBits + shift + 1) := by
    rw [Nat.add_right_comm, Nat.pow_add, Nat.pow_succ, Nat.mul_two]
    exact Nat.mul_lt_mul_of_pos_right (Nat.add_lt_add_left short _) (Nat.two_pow_pos shift)
  have positive := Nat.lt_of_lt_of_le (Nat.two_pow_pos _) leading
  have log := (Nat.log2_eq_iff (Nat.ne_of_gt positive)).mpr ⟨leading, narrow⟩
  omega

theorem to_bits_of_subnormal (negative : Bool) (short : fraction < 2 ^ fractionBits)
    (narrow : fraction < significandLimit) (low : 0 ≤ 2045) :
    toBits (.finite negative (.ofFields fraction 0 narrow low)) =
      .ofNat (signBits negative + fraction) := by
  simp only [toBits, Magnitude.ofFields]
  rw [Nat.pow_zero, Nat.mul_one, shift_of_subnormal short, Nat.zero_mul, Nat.add_zero, Nat.pow_zero,
    Nat.div_one]

theorem to_bits_of_normal (negative : Bool) (short : fraction < 2 ^ fractionBits)
    (narrow : 2 ^ fractionBits + fraction < significandLimit) (low : shift ≤ 2045) :
    toBits (.finite negative (.ofFields (2 ^ fractionBits + fraction) shift narrow low)) =
      .ofNat (signBits negative + (shift + 1) * 2 ^ fractionBits + fraction) := by
  simp only [toBits, Magnitude.ofFields]
  rw [shift_of_normal short, Nat.mul_div_cancel _ (Nat.two_pow_pos shift)]
  simp only [Nat.succ_mul, Nat.add_assoc]

theorem to_bits_of_bits {word : UInt64} (known : ofBits word ≠ .nan) :
    (ofBits word).toBits = word := by
  have fields := fields_of_word word
  have short : word.toNat % 2 ^ fractionBits < 2 ^ fractionBits := Nat.mod_lt _ (Nat.two_pow_pos _)
  have narrow : word.toNat / 2 ^ fractionBits % 2 ^ exponentBits < topExponent + 1 :=
    Nat.mod_lt _ (by decide)
  have whole : UInt64.ofNat (signBits (decide (signBits true ≤ word.toNat)) +
      word.toNat / 2 ^ fractionBits % 2 ^ exponentBits * 2 ^ fractionBits +
        word.toNat % 2 ^ fractionBits) = word := by
    rw [fields, UInt64.ofNat_toNat]
  simp only [ofBits] at known ⊢
  split
  · next subnormal =>
      rw [subnormal, Nat.zero_mul, Nat.add_zero] at whole
      rw [to_bits_of_subnormal _ short]
      exact whole
  · next leading =>
      split
      · next ordinary =>
          rw [to_bits_of_normal _ short, Nat.sub_add_cancel (Nat.pos_of_ne_zero leading)]
          exact whole
      · next top =>
          have exponent := Nat.le_antisymm (Nat.le_of_lt_succ narrow) (Nat.not_lt.mp top)
          split
          · next noFraction =>
              rw [exponent, noFraction, Nat.add_zero] at whole
              exact whole
          · next someFraction =>
              rw [if_neg leading, dif_neg top, if_neg someFraction] at known
              exact absurd rfl known

def significand (units : Nat) : Nat :=
  units / 2 ^ (units.log2 - fractionBits)

theorem significand_lt (units : Nat) : significand units < significandLimit := by
  apply Nat.div_lt_of_lt_mul
  rw [significandLimit, ← Nat.pow_add]
  exact Nat.lt_of_lt_of_le Nat.lt_log2_self (Nat.pow_le_pow_right (by decide) (by omega))

theorem shift_le {units : Nat} (representable : Representable units) :
    units.log2 - fractionBits ≤ 2045 := by
  rcases Nat.eq_zero_or_pos units with zero | positive
  · rw [zero]
    decide
  · have short := (Nat.log2_lt (Nat.ne_of_gt positive)).mpr representable.1
    simp only [overflowLog, fractionBits] at short ⊢
    omega

theorem to_nat_of_finite (negative : Bool) (magnitude : Magnitude) :
    (finite negative magnitude).toBits.toNat =
      signBits negative + ((magnitude.units.log2 - fractionBits) * 2 ^ fractionBits +
          significand magnitude.units) ∧
      (magnitude.units.log2 - fractionBits) * 2 ^ fractionBits + significand magnitude.units <
        signBits true := by
  have narrow := significand_lt magnitude.units
  have field := Nat.mul_le_mul_right (2 ^ fractionBits) (shift_le magnitude.representable)
  have top : signBits true = 9223372036854775808 := rfl
  have width : 2 ^ fractionBits = 4503599627370496 := rfl
  have limit : significandLimit = 9007199254740992 := rfl
  have sign : signBits negative ≤ signBits true := by cases negative <;> decide
  have word : (finite negative magnitude).toBits =
      .ofNat (signBits negative + (magnitude.units.log2 - fractionBits) * 2 ^ fractionBits +
        significand magnitude.units) := rfl
  rw [word, UInt64.toNat_ofNat', width]
  rw [width] at field
  omega

theorem sign_of_to_bits (negative : Bool) (magnitude : Magnitude) :
    (finite negative magnitude).toBits.toNat < signBits true ↔ negative = false := by
  obtain ⟨whole, below⟩ := to_nat_of_finite negative magnitude
  cases negative with
  | false =>
      have noSign : signBits false = 0 := rfl
      simp only [iff_true]
      omega
  | true =>
      simp only [Bool.true_eq_false, iff_false]
      omega

theorem to_bits_of_unsigned (magnitude : Magnitude) :
    (finite false magnitude).toBits.toNat < signBits true :=
  (sign_of_to_bits false magnitude).mpr rfl

end Calculator.Binary64
