import Calculator.Proofs.Runs
import Calculator.Proofs.Word

/-!
# Printed results are evaluated to themselves

A finite result is printed as a numeral, behind a minus if it is negative. Read again, the minus is a sign
and takes the numeral from zero. That is exact, so every result comes back but one: taking zero from zero
leaves the other zero.
-/

set_option autoImplicit false

namespace Calculator

def Tree.ofResult (negative : Bool) (magnitude : Magnitude) : Tree .expression :=
  match negative with
  | true => .ofTerm (.ofUnary (.signed .minus (by decide) (.number (.finite false magnitude))))
  | false => .ofTerm (.ofUnary (.ofFactor (.number (.finite false magnitude))))

theorem Binary64.zero_sub {magnitude : Magnitude} (nonzero : magnitude.units ≠ 0) :
    Binary64.zero.sub (.finite false magnitude) = .finite true magnitude := by
  have sum : signedUnits false Magnitude.zero.units + signedUnits true magnitude.units =
      -(magnitude.units : Int) := by
    simp [signedUnits, Magnitude.zero]
  have units : (-(magnitude.units : Int)).natAbs = magnitude.units * 1 := by omega
  have below : -(magnitude.units : Int) < 0 := by omega
  show add (.finite false .zero) (.finite true magnitude) = _
  simp only [add, sum]
  rw [if_neg (by omega), decide_eq_true below, units]
  exact round_exact true magnitude Nat.one_pos

theorem Magnitude.units_ne_zero {magnitude : Magnitude} (nonzero : magnitude ≠ .zero) :
    magnitude.units ≠ 0 := by
  intro none
  apply nonzero
  obtain ⟨units, representable⟩ := magnitude
  have same : units = 0 := none
  subst same
  rfl

namespace Tree

theorem of_result_value {negative : Bool} {magnitude : Magnitude}
    (notNegativeZero : Binary64.finite negative magnitude ≠ .finite true .zero) :
    (ofResult negative magnitude).value = .ok (.finite negative magnitude) := by
  cases negative with
  | false => rfl
  | true =>
      have nonzero := Magnitude.units_ne_zero fun zero => notNegativeZero (congrArg _ zero)
      show Except.ok (Binary64.zero.sub (.finite false magnitude)) = _
      rw [Binary64.zero_sub nonzero]

theorem of_result_value_negative_zero : (ofResult true .zero).value = .ok .zero := by
  rfl

theorem group_counts_of_result {negative : Bool} {magnitude : Magnitude} {openGroups count : Nat}
    (member : count ∈ groupCounts openGroups (ofResult negative magnitude).tokens) :
    count = openGroups := by
  cases negative with
  | false => exact List.mem_singleton.mp member
  | true =>
      rcases List.mem_cons.mp member with same | later
      · exact same
      · exact List.mem_singleton.mp later

end Tree

theorem printed_runs (negative : Bool) (magnitude : Magnitude) :
    (Lexeme.runs
        (Text.stripWhitespace (Binary64.finite negative magnitude).resultText).toList).map Token.ofRun? =
      (Tree.ofResult negative magnitude).tokens.map some := by
  obtain ⟨text, printed, numeral⟩ := Numeral.result_text negative magnitude
  have blankless : ∀ character ∈ text, Text.isWhitespace character = false :=
    fun character member => Text.not_blank_of_numeral_character (numeral.gathers character member)
  rw [printed]
  cases negative with
  | false =>
      rw [Binary64.withSign, if_neg Bool.false_ne_true, Text.strip_whitespace_of_no_blank blankless,
        numeral.runs, List.map_singleton, numeral.token]
      rfl
  | true =>
      have signBlankless : ∀ character ∈ '-' :: text, Text.isWhitespace character = false := by
        intro character member
        rcases List.mem_cons.mp member with rfl | inText
        · decide
        · exact blankless character inText
      have sign := @Lexeme.extend_of_mark '-' .minus rfl (Lexeme.runs text)
      rw [Binary64.withSign, if_pos rfl, Text.strip_whitespace_of_no_blank signBlankless,
        Lexeme.runs_cons, sign, numeral.runs, List.map_cons, List.map_singleton, numeral.token]
      rfl

theorem evaluate_printed {negative : Bool} {magnitude : Magnitude} {value : Binary64}
    (valued : (Tree.ofResult negative magnitude).value = .ok value) :
    evaluate (Binary64.finite negative magnitude).resultText = .ok value := by
  have shallow : deepest (Tree.ofResult negative magnitude).tokens ≤ nestingLimit := by
    rw [deepest_le_iff]
    intro count member
    rw [Tree.group_counts_of_result member]
    exact Nat.zero_le _
  rw [evaluate_eq_conclude]
  exact Standing.conclude_tree (printed_runs negative magnitude) shallow valued

/-- Every finite result but negative zero comes back, bit by bit; negative zero comes back as zero. -/
theorem evaluate_result_text :
    (∀ value : Binary64, value.isFinite = true → value ≠ .finite true .zero →
        evaluate value.resultText = .ok value) ∧
      evaluate (Binary64.finite true .zero).resultText = .ok .zero ∧
        ∀ word : UInt64, (Binary64.ofBits word).isFinite = true →
          Binary64.ofBits word ≠ .finite true .zero →
            (evaluate (Binary64.ofBits word).resultText).map Binary64.toBits = .ok word := by
  have back : ∀ value : Binary64, value.isFinite = true → value ≠ .finite true .zero →
      evaluate value.resultText = .ok value := by
    intro value finite notNegativeZero
    cases value with
    | nan => cases finite
    | infinity negative => cases finite
    | finite negative magnitude => exact evaluate_printed (Tree.of_result_value notNegativeZero)
  refine ⟨back, evaluate_printed Tree.of_result_value_negative_zero, ?_⟩
  intro word finite notNegativeZero
  have known : Binary64.ofBits word ≠ .nan := by
    intro undefined
    rw [undefined] at finite
    cases finite
  rw [back _ finite notNegativeZero]
  exact congrArg Except.ok (Binary64.to_bits_of_bits known)

end Calculator
