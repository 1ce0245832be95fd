import Calculator.Proofs.PartialProducts

/-!
# The factorial and the loop that it cuts off

The factorial is a loop that multiplies factor after factor while the next one is at most the argument, but an
argument above 170 is answered before the loop is entered. What is answered there is what the loop would come
to, wherever it comes to an end. From `2 ^ 53` on it would not: the factors stall there, and the last one is
still at most the argument.
-/

set_option autoImplicit false

namespace Calculator

namespace Binary64

variable {first second : Binary64} {low high : ℚ} {number : Nat}

theorem value_of_nat (small : number ≤ significandLimit) : (ofNat number).value? = some (number : ℚ) := by
  have unit : (unitsPerOne : ℚ) ≠ 0 := ne_of_gt units_per_one_pos
  rw [of_nat_exact small, value_of_unsigned, Nat.cast_mul, mul_div_cancel_right₀ _ unit]

theorem at_most_iff_le (firstValue : first.value? = some low) (secondValue : second.value? = some high) :
    first.AtMost second ↔ low ≤ high := by
  obtain ⟨left, size, rfl⟩ := finite_of_value firstValue
  obtain ⟨right, other, rfl⟩ := finite_of_value secondValue
  have unit := units_per_one_pos
  cases firstValue
  cases secondValue
  rw [div_le_div_iff_of_pos_right unit, Int.cast_le]
  rfl

theorem integer_eq_some_iff {value : Binary64} {whole : ℤ} :
    value.integer? = some whole ↔ value.value? = some (whole : ℚ) := by
  cases value with
  | nan => simp [integer?, value?]
  | infinity negative => simp [integer?, value?]
  | finite negative magnitude =>
      have unit : (unitsPerOne : ℚ) ≠ 0 := ne_of_gt units_per_one_pos
      by_cases divides : unitsPerOne ∣ magnitude.units
      · rw [integer?, if_pos (Nat.mod_eq_zero_of_dvd divides), value_of_whole negative divides,
          Option.some.injEq, Option.some.injEq, Int.cast_inj]
      · rw [integer?, if_neg (mt Nat.dvd_of_mod_eq_zero divides), value?, Option.some.injEq,
          div_eq_iff unit]
        refine iff_of_false (Option.some_ne_none whole).symm ?_
        intro product
        apply divides
        have units : signedUnits negative magnitude.units = whole * (unitsPerOne : ℤ) := by
          exact_mod_cast product
        have sizes := congrArg Int.natAbs units
        rw [nat_abs_signed_units, Int.natAbs_mul, Int.natAbs_natCast] at sizes
        exact ⟨whole.natAbs, sizes.trans (Nat.mul_comm _ _)⟩

theorem of_nat_at_most_iff {argument : Binary64} {whole : ℤ} (known : argument.value? = some (whole : ℚ))
    (small : number ≤ significandLimit) : (ofNat number).AtMost argument ↔ (number : ℤ) ≤ whole := by
  rw [at_most_iff_le (value_of_nat small) known]
  exact_mod_cast Iff.rfl

theorem at_most_of_nat_iff {argument : Binary64} {whole : ℤ} (known : argument.value? = some (whole : ℚ))
    (small : number ≤ significandLimit) : argument.AtMost (ofNat number) ↔ whole ≤ number := by
  rw [at_most_iff_le known (value_of_nat small)]
  exact_mod_cast Iff.rfl

/-- What is not a whole number is not finite, or it has a fractional part. -/
theorem integer_eq_none_iff (argument : Binary64) :
    argument.integer? = none ↔ argument.isFinite = false ∨
      ∃ value, argument.value? = some value ∧ ∀ whole : ℤ, value ≠ whole := by
  cases argument with
  | nan => exact iff_of_true rfl (Or.inl rfl)
  | infinity negative => exact iff_of_true rfl (Or.inl rfl)
  | finite negative magnitude =>
      simp only [Option.eq_none_iff_forall_ne_some, ne_eq, integer_eq_some_iff]
      constructor
      · intro broken
        refine Or.inr ⟨_, rfl, ?_⟩
        intro whole same
        exact broken whole (congrArg some same)
      · rintro (infinite | ⟨value, known, broken⟩)
        · cases infinite
        · intro whole same
          exact broken whole (Option.some.inj (known.symm.trans same))

end Binary64

namespace PartialProduct

/-- While the next factor is at most the argument it is multiplied in. The loop ends after that many rounds
with the product. -/
inductive Ends (argument : Binary64) : PartialProduct → Nat → Binary64 → Prop where
  | passed {state : PartialProduct} (beyond : ¬state.factor.AtMost argument) :
      Ends argument state 0 state.product
  | round {state : PartialProduct} {rounds : Nat} {product : Binary64}
      (within : state.factor.AtMost argument) (rest : Ends argument state.multiply rounds product) :
      Ends argument state (rounds + 1) product

section

variable {argument product : Binary64} {rounds : Nat}

/-- The loop ends at the first factor that is not at most the argument. -/
theorem ends_from_iff (begun : Nat) : Ends argument (after begun) rounds product ↔
    (∀ earlier < rounds, (after (begun + earlier)).factor.AtMost argument) ∧
      ¬(after (begun + rounds)).factor.AtMost argument ∧ product = (after (begun + rounds)).product := by
  induction rounds generalizing begun with
  | zero =>
      constructor
      · rintro ⟨beyond⟩
        exact ⟨nofun, beyond, rfl⟩
      · rintro ⟨_, beyond, rfl⟩
        exact .passed beyond
  | succ rounds ih =>
      have next : begun + 1 + rounds = begun + (rounds + 1) := by omega
      constructor
      · rintro (_ | ⟨within, rest⟩)
        obtain ⟨reached, beyond, same⟩ := (ih (begun + 1)).mp rest
        rw [next] at beyond same
        refine ⟨?_, beyond, same⟩
        intro earlier less
        cases earlier with
        | zero => exact within
        | succ earlier =>
            rw [← Nat.add_assoc, Nat.add_right_comm]
            exact reached earlier (Nat.lt_of_succ_lt_succ less)
      · rintro ⟨reached, beyond, same⟩
        refine .round (reached 0 (Nat.succ_pos rounds)) ((ih (begun + 1)).mpr ?_)
        rw [next]
        refine ⟨?_, beyond, same⟩
        intro earlier less
        rw [Nat.add_right_comm]
        exact reached (earlier + 1) (Nat.succ_lt_succ less)

theorem ends_from_start_iff : Ends argument .start rounds product ↔
    (∀ earlier < rounds, (after earlier).factor.AtMost argument) ∧
      ¬(after rounds).factor.AtMost argument ∧ product = (after rounds).product := by
  have start : after 0 = .start := rfl
  rw [← start, ends_from_iff]
  simp only [Nat.zero_add]

variable {whole : ℤ} (known : argument.value? = some (whole : ℚ))

include known

theorem factor_at_most_iff (rounds : Nat) :
    (after rounds).factor.AtMost argument ↔ ((min (rounds + 2) significandLimit : Nat) : ℤ) ≤ whole := by
  rw [factor_after]
  exact Binary64.of_nat_at_most_iff known (Nat.min_le_right _ _)

/-- Where the counter is exact, the loop ends, and there is one way for it to end. -/
theorem ends_iff (small : whole < significandLimit) : Ends argument .start rounds product ↔
    rounds = (whole - 1).toNat ∧ product = (after (whole - 1).toNat).product := by
  have limit : significandLimit = 9007199254740992 := rfl
  simp only [ends_from_start_iff, factor_at_most_iff known]
  rw [limit] at small ⊢
  constructor
  · rintro ⟨reached, beyond, rfl⟩
    have same : rounds = (whole - 1).toNat := by
      have last := reached (rounds - 1)
      omega
    rw [same]
    exact ⟨rfl, rfl⟩
  · rintro ⟨rfl, rfl⟩
    refine ⟨?_, ?_, rfl⟩
    · intro earlier less
      omega
    · omega

/-- Where the factors stall before they reach the argument, the loop does not end. -/
theorem never_ends (large : significandLimit ≤ whole) : ¬Ends argument .start rounds product := by
  rw [ends_from_start_iff]
  rintro ⟨_, beyond, _⟩
  rw [factor_at_most_iff known] at beyond
  have stalled : min (rounds + 2) significandLimit ≤ significandLimit := Nat.min_le_right _ _
  omega

end

end PartialProduct

/-- How a factorial is taken: the argument is refused, or cut off, or factors are multiplied in, in that many
rounds. -/
inductive FactorialTakes (argument : Binary64) : Nat → Except Fault Binary64 → Prop where
  | refused (broken : argument.isIntegral = false) : FactorialTakes argument 0 (.error .integerExpected)
  | cutOff (integral : argument.isIntegral = true)
      (large : ¬argument.AtMost (.ofNat largestFactorialArgument)) :
      FactorialTakes argument 0 (.ok (.infinity false))
  | multiplied {rounds : Nat} {product : Binary64} (integral : argument.isIntegral = true)
      (small : argument.AtMost (.ofNat largestFactorialArgument))
      (ends : PartialProduct.Ends argument .start rounds product) :
      FactorialTakes argument rounds (.ok product)

section

variable {argument : Binary64} {whole : ℤ}

theorem factorial_refused_iff (argument : Binary64) :
    factorial argument = .error .integerExpected ↔ argument.integer? = none := by
  cases known : argument.integer? with
  | none => simp [factorial, known]
  | some whole =>
      simp only [factorial, known]
      split <;> exact iff_of_false nofun nofun

theorem factorial_of_large (known : argument.integer? = some whole) (large : 170 < whole) :
    factorial argument = .ok (.infinity false) := by
  simp only [factorial, known]
  exact if_pos large

/-- With or without the cut-off the answer is the product after a round for each factor. -/
theorem factorial_of_whole (known : argument.integer? = some whole) :
    factorial argument = .ok (PartialProduct.after (whole - 1).toNat).product := by
  rcases Int.lt_or_le 170 whole with large | few
  · have many : lastFiniteRound < (whole - 1).toNat := by
      rw [lastFiniteRound]
      omega
    rw [factorial_of_large known large, PartialProduct.product_infinite many]
  · simp only [factorial, known]
    exact if_neg (Int.not_lt.mpr few)

theorem product_of_few (few : whole ≤ 170) :
    (PartialProduct.after (whole - 1).toNat).product.isFinite = true := by
  have within : (whole - 1).toNat ≤ lastFiniteRound := by
    rw [lastFiniteRound]
    omega
  obtain ⟨magnitude, product, _⟩ := PartialProduct.product_near within
  rw [product]
  rfl

theorem factorial_takes (argument : Binary64) :
    ∃ rounds ≤ 169, FactorialTakes argument rounds (factorial argument) := by
  have integral := argument.is_some_integer
  cases known : argument.integer? with
  | none =>
      rw [known] at integral
      rw [(factorial_refused_iff argument).mpr known]
      exact ⟨0, Nat.zero_le _, .refused integral.symm⟩
  | some whole =>
      rw [known] at integral
      have value := Binary64.integer_eq_some_iff.mp known
      have largest : largestFactorialArgument ≤ significandLimit := by decide
      have cut := Binary64.at_most_of_nat_iff value largest
      rw [largestFactorialArgument] at cut
      rcases Int.lt_or_le 170 whole with large | few
      · rw [factorial_of_large known large]
        exact ⟨0, Nat.zero_le _, .cutOff integral.symm (mt cut.mp (Int.not_le.mpr large))⟩
      · have countable : whole < significandLimit := Int.lt_of_le_of_lt few (by decide)
        rw [factorial_of_whole known]
        refine ⟨(whole - 1).toNat, by omega, .multiplied integral.symm (cut.mpr few) ?_⟩
        exact (PartialProduct.ends_iff value countable).mpr ⟨rfl, rfl⟩

end

/-- The factorial ends after few rounds, and refuses what is not a whole number. Whole numbers up to one have
the factorial one, those up to 170 a finite one and larger ones an infinite one. Below `2 ^ 53` that is what
the loop comes to without its cut-off, in as many rounds as there are factors. From there on it would not end,
because the factors do not grow any more. -/
theorem factorial_agrees_with_loop (argument : Binary64) :
    (∃ rounds ≤ 169, FactorialTakes argument rounds (factorial argument)) ∧
      (factorial argument = .error .integerExpected ↔ argument.isFinite = false ∨
        ∃ value, argument.value? = some value ∧ ∀ whole : ℤ, value ≠ whole) ∧
        ∀ whole : ℤ, argument.value? = some (whole : ℚ) →
          ∃ result, factorial argument = .ok result ∧
            (whole ≤ 1 → result = .one) ∧
              (whole ≤ 170 → result.isFinite = true) ∧
                (170 < whole → result = .infinity false) ∧
                  (whole < 2 ^ 53 → ∀ rounds product, PartialProduct.Ends argument .start rounds product ↔
                    rounds = (whole - 1).toNat ∧ product = result) ∧
                    (2 ^ 53 ≤ whole → ∀ rounds,
                      (∀ product, ¬PartialProduct.Ends argument .start rounds product) ∧
                        (2 ^ 53 ≤ rounds + 2 → (PartialProduct.after rounds).factor = .ofNat (2 ^ 53))) := by
  refine ⟨factorial_takes argument, ?_, ?_⟩
  · rw [factorial_refused_iff, Binary64.integer_eq_none_iff]
  · intro whole value
    have result := factorial_of_whole (Binary64.integer_eq_some_iff.mpr value)
    have limit : significandLimit = 2 ^ 53 := rfl
    refine ⟨_, result, ?_, product_of_few, ?_, ?_, ?_⟩
    · intro least
      rw [Int.toNat_of_nonpos (by omega), PartialProduct.after, PartialProduct.start]
    · intro large
      have cutOff := factorial_of_large (Binary64.integer_eq_some_iff.mpr value) large
      exact Except.ok.inj (result.symm.trans cutOff)
    · intro small rounds product
      refine PartialProduct.ends_iff value ?_
      rw [limit]
      exact_mod_cast small
    · intro large rounds
      refine ⟨fun product => PartialProduct.never_ends value ?_, ?_⟩
      · rw [limit]
        exact_mod_cast large
      · intro stalled
        rw [PartialProduct.factor_after, limit, Nat.min_eq_right stalled]

end Calculator
