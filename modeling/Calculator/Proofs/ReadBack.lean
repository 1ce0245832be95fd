import Calculator.Binary64.Text

/-!
# Printed digits are read back

A count of units that is a double rounds to itself. So the shortest decimal of a magnitude is read as that
magnitude, whichever way the search for it ends, and so are the exact digits of a whole one. The text of a
decimal is digits with at most one point among them, and reading it loses nothing.
-/

set_option autoImplicit false

namespace Calculator

-- Powers of natural numbers are core's, whatever algebra is in scope.
attribute [local instance (1001)] instPowNat

theorem nearest_even_of_multiple (quotient : Nat) {divisor : Nat} (positive : 0 < divisor) :
    nearestEven (divisor * quotient) divisor = quotient := by
  have rest : divisor * quotient % divisor = 0 := Nat.mul_mod_right divisor quotient
  simp only [nearestEven, rest, Nat.mul_div_cancel_left quotient positive]
  rw [if_pos]
  left
  exact positive

/-- No digit of a double is rounded away. -/
theorem round_units_exact {units divisor : Nat} (representable : Representable units)
    (positive : 0 < divisor) : roundUnits (units * divisor) divisor = units := by
  have quotient : units * divisor / divisor = units := Nat.mul_div_cancel units positive
  obtain ⟨significand, whole⟩ := representable.2
  have product : units * divisor =
      divisor * 2 ^ (units.log2 - fractionBits) * significand := by
    rw [Nat.mul_assoc, ← whole, Nat.mul_comm]
  simp only [roundUnits, spacingLog, quotient]
  rw [product, nearest_even_of_multiple significand (Nat.mul_pos positive (Nat.two_pow_pos _)),
    Nat.mul_comm]
  exact whole.symm

theorem Binary64.round_of_units {negative : Bool} {dividend divisor : Nat} {magnitude : Magnitude}
    (same : roundUnits dividend divisor = magnitude.units) :
    Binary64.round negative dividend divisor = .finite negative magnitude := by
  obtain ⟨units, representable⟩ := magnitude
  have kept : roundUnits dividend divisor = units := same
  subst kept
  exact dif_pos representable.1

theorem Binary64.round_exact (negative : Bool) (magnitude : Magnitude) {divisor : Nat}
    (positive : 0 < divisor) :
    Binary64.round negative (magnitude.units * divisor) divisor = .finite negative magnitude :=
  round_of_units (round_units_exact magnitude.representable positive)

namespace Decimal

variable {units : Nat} {exponent : Int} {decimal : Decimal}

theorem divisor_pos (decimal : Decimal) : 0 < decimal.divisor :=
  Nat.pow_pos (by decide)

theorem units_exact (representable : Representable units) : (exact units).units = units := by
  have tens (power : Nat) : 5 ^ power * 2 ^ power = 10 ^ power := (Nat.mul_pow 5 2 power).symm
  have dividend : (exact units).dividend = units * (exact units).divisor := by
    simp only [Decimal.dividend, Decimal.divisor, exact, unitsPerOne, Int.neg_neg,
      Int.toNat_natCast, Int.toNat_neg_natCast, Nat.pow_zero, Nat.mul_one]
    rw [Nat.mul_assoc, tens]
  rw [Decimal.units, dividend]
  exact round_units_exact representable (divisor_pos _)

theorem units_of_neighbour (found : neighbour? units exponent = some decimal) :
    decimal.units = units := by
  simp only [neighbour?] at found
  split at found
  · next below =>
      split at found
      · next above =>
          cases found
          exact above.1
      · cases found
        exact below
  · split at found
    · next above =>
        cases found
        exact above
    · cases found

theorem units_search (representable : Representable units) (grids : Nat) (exponent : Int) :
    (search units grids exponent).units = units := by
  induction grids generalizing exponent with
  | zero =>
      rw [search]
      exact units_exact representable
  | succ grids ih =>
      rw [search]
      cases found : neighbour? units exponent with
      | some decimal => exact units_of_neighbour found
      | none => exact ih (exponent - 1)

theorem units_shortest (representable : Representable units) : (shortest units).units = units := by
  rw [shortest]
  split
  · next zero =>
      subst zero
      decide +kernel
  · exact units_search representable _ _

theorem nearest_shortest (magnitude : Magnitude) :
    (shortest magnitude.units).nearest = .finite false magnitude := by
  have same := units_shortest magnitude.representable
  rw [nearest]
  exact Binary64.round_of_units same

theorem not_point_of_digits {text : List Char} (digits : text.all Char.isDigit = true) :
    ∀ character ∈ text, (character != '.') = true := by
  intro character member
  have digit := List.all_eq_true.mp digits character member
  rw [bne_iff_ne]
  rintro rfl
  cases digit

theorem split_of_point {whole : List Char} (digits : whole.all Char.isDigit = true)
    (fraction : List Char) : split (whole ++ '.' :: fraction) = (whole ++ fraction, fraction.length) := by
  have noPoint := not_point_of_digits digits
  simp [split, List.takeWhile_append_of_pos noPoint, List.dropWhile_append_of_pos noPoint]

theorem split_of_digits {text : List Char} (digits : text.all Char.isDigit = true) :
    split text = (text, 0) := by
  have noPoint := not_point_of_digits digits
  rw [split, ← List.append_nil text, List.takeWhile_append_of_pos noPoint,
    List.dropWhile_append_of_pos noPoint]
  simp

theorem read_of_digits {text : List Char} (digits : text.all Char.isDigit = true)
    (nonempty : text ≠ []) :
    read? text = some { digits := Nat.ofDigitChars 10 text 0, exponent := 0 } := by
  rw [read?, split_of_digits digits]
  exact if_pos ⟨nonempty, digits⟩

theorem read_of_point {whole fraction : List Char} (digits : (whole ++ fraction).all Char.isDigit = true)
    (nonempty : whole ++ fraction ≠ []) :
    read? (whole ++ '.' :: fraction) =
      some { digits := Nat.ofDigitChars 10 (whole ++ fraction) 0, exponent := -fraction.length } := by
  have wholeDigits : whole.all Char.isDigit = true := by
    rw [List.all_append, Bool.and_eq_true] at digits
    exact digits.1
  rw [read?, split_of_point wholeDigits]
  exact if_pos ⟨nonempty, digits⟩

theorem to_digits_digits (number : Nat) : (Nat.toDigits 10 number).all Char.isDigit = true :=
  List.all_eq_true.mpr fun _ member => Nat.isDigit_of_mem_toDigits (by decide) (by decide) member

theorem zeros_digits (count : Nat) : (List.replicate count '0').all Char.isDigit = true := by
  simp

/-- The point falls into the padded digits, with `places` of them behind it and one before it at least. -/
theorem place_point_shape (number places : Nat) :
    ∃ whole fraction, placePoint (Nat.toDigits 10 number) places = whole ++ '.' :: fraction ∧
      whole ≠ [] ∧ (whole ++ fraction).all Char.isDigit = true ∧ fraction.length = places ∧
        Nat.ofDigitChars 10 (whole ++ fraction) 0 = number := by
  have digits := to_digits_digits number
  have value := @Nat.ofDigitChars_ten_toDigits number
  rw [placePoint]
  generalize Nat.toDigits 10 number = text at digits value ⊢
  refine ⟨_, _, rfl, ?_, ?_, ?_, ?_⟩
  · apply List.ne_nil_of_length_pos
    simp only [List.length_take, List.length_append, List.length_replicate]
    omega
  · rw [List.take_append_drop, List.all_append, zeros_digits, digits]
    rfl
  · simp only [List.length_drop, List.length_append, List.length_replicate]
    omega
  · rw [List.take_append_drop, Nat.ofDigitChars_append, Nat.ofDigitChars_replicate_zero, Nat.mul_zero,
      value]

end Decimal

structure Numeral (text : List Char) (value : Binary64) : Prop where
  gathers : ∀ character ∈ text, (character.isDigit || character == '.') = true
  reads : (Decimal.read? text).map Decimal.nearest = some value

namespace Numeral

theorem of_digits {text : List Char} (digits : text.all Char.isDigit = true) (nonempty : text ≠ []) :
    Numeral text (Decimal.nearest { digits := Nat.ofDigitChars 10 text 0, exponent := 0 }) where
  gathers := by
    intro character member
    rw [List.all_eq_true.mp digits character member]
    rfl
  reads := by
    rw [Decimal.read_of_digits digits nonempty]
    rfl

theorem of_point {whole fraction : List Char} (digits : (whole ++ fraction).all Char.isDigit = true)
    (nonempty : whole ++ fraction ≠ []) :
    Numeral (whole ++ '.' :: fraction) (Decimal.nearest
      { digits := Nat.ofDigitChars 10 (whole ++ fraction) 0, exponent := -fraction.length }) where
  gathers := by
    intro character member
    rw [List.mem_append, List.mem_cons] at member
    rcases member with inWhole | rfl | inFraction
    · rw [List.all_eq_true.mp digits character (List.mem_append_left fraction inWhole)]
      rfl
    · rfl
    · rw [List.all_eq_true.mp digits character (List.mem_append_right whole inFraction)]
      rfl
  reads := by
    rw [Decimal.read_of_point digits nonempty]
    rfl

theorem of_shifted (number zeros : Nat) :
    Numeral (Nat.toDigits 10 number ++ List.replicate zeros '0')
      (Decimal.nearest { digits := number * 10 ^ zeros, exponent := 0 }) := by
  have digits : (Nat.toDigits 10 number ++ List.replicate zeros '0').all Char.isDigit = true := by
    rw [List.all_append, Decimal.to_digits_digits, Decimal.zeros_digits]
    rfl
  have nonempty := List.append_ne_nil_of_left_ne_nil (@Nat.toDigits_ne_nil number 10)
    (List.replicate zeros '0')
  have numeral := of_digits digits nonempty
  rw [Nat.ofDigitChars_append, Nat.ofDigitChars_ten_toDigits, Nat.ofDigitChars_replicate_zero,
    Nat.mul_comm] at numeral
  exact numeral

theorem of_place_point (number places : Nat) :
    Numeral (Decimal.placePoint (Nat.toDigits 10 number) places)
      (Decimal.nearest { digits := number, exponent := -places }) := by
  obtain ⟨whole, fraction, placed, nonempty, digits, length, value⟩ :=
    Decimal.place_point_shape number places
  have numeral := of_point digits (List.append_ne_nil_of_left_ne_nil nonempty fraction)
  rw [length, value] at numeral
  rw [placed]
  exact numeral

/-- The number is read back, though zeros that stood for a power of ten have become digits. -/
theorem positional (decimal : Decimal) : Numeral decimal.positional decimal.nearest := by
  obtain ⟨number, exponent⟩ := decimal
  cases exponent with
  | ofNat zeros =>
      have layout : Decimal.positional ⟨number, zeros⟩ =
          Nat.toDigits 10 number ++ List.replicate zeros '0' := by
        simp [Decimal.positional, Decimal.digitText]
      have same : Decimal.nearest ⟨number, zeros⟩ = Decimal.nearest ⟨number * 10 ^ zeros, 0⟩ := by
        simp [Decimal.nearest, Decimal.dividend, Decimal.divisor]
      rw [Int.ofNat_eq_natCast, layout, same]
      exact of_shifted number zeros
  | negSucc places =>
      have layout : Decimal.positional ⟨number, Int.negSucc places⟩ =
          Decimal.placePoint (Nat.toDigits 10 number) (places + 1) := by
        simp [Decimal.positional, Decimal.digitText]
      rw [layout]
      exact of_place_point number (places + 1)

theorem shortest (magnitude : Magnitude) :
    Numeral (Decimal.shortest magnitude.units).positional (.finite false magnitude) := by
  have numeral := positional (Decimal.shortest magnitude.units)
  rw [Decimal.nearest_shortest] at numeral
  exact numeral

/-- A whole magnitude has no digits behind the point, so nothing is lost in printing none. -/
theorem whole {magnitude : Magnitude} (noFraction : magnitude.units % unitsPerOne = 0) :
    Numeral (Nat.toDigits 10 (magnitude.units / unitsPerOne)) (.finite false magnitude) := by
  have units : magnitude.units / unitsPerOne * unitsPerOne = magnitude.units :=
    Nat.div_mul_cancel (Nat.dvd_of_mod_eq_zero noFraction)
  have value : Decimal.nearest { digits := magnitude.units / unitsPerOne, exponent := 0 } =
      .finite false magnitude := by
    have exact := Binary64.round_exact false magnitude Nat.one_pos
    simpa [Decimal.nearest, Decimal.dividend, Decimal.divisor, units] using exact
  have numeral := of_digits (Decimal.to_digits_digits (magnitude.units / unitsPerOne))
    Nat.toDigits_ne_nil
  rw [Nat.ofDigitChars_ten_toDigits, value] at numeral
  exact numeral

theorem result_text (negative : Bool) (magnitude : Magnitude) :
    ∃ text, (Binary64.finite negative magnitude).resultText = Binary64.withSign negative text ∧
      Numeral text (.finite false magnitude) := by
  rw [Binary64.resultText]
  split
  · next fractionless =>
      have noFraction : magnitude.units % unitsPerOne = 0 := beq_iff_eq.mp fractionless
      exact ⟨_, rfl, whole noFraction⟩
  · exact ⟨_, rfl, shortest magnitude⟩

end Numeral

end Calculator
