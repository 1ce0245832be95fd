import Calculator.Descent
import Calculator.Grammar

/-!
# Sentences and their values

Which token lists are expressions, which are the beginning of one, and which trees have a value. Only
a factorial can leave a tree without a value, and the call that does so stands among the tokens of the
tree: `defined_or_faulty_call` finds it, so that a reader of tokens alone can tell.
-/

set_option autoImplicit false

namespace Calculator

/-- The tokens are a complete expression, however deep its groups are nested. -/
def IsSentence (tokens : List Token) : Prop :=
  ∃ tree : Tree .expression, tree.tokens = tokens

def Viable (tokens : List Token) : Prop :=
  ∃ rest, IsSentence (tokens ++ rest)

/-- A factorial stands complete among the tokens, and the value of its argument is no whole number. -/
def FaultyCall (tokens : List Token) : Prop :=
  ∃ before, ∃ argument : Tree .expression, ∃ value after,
    tokens = before ++ (.symbol .fact :: .symbol .openParen :: argument.tokens ++
      [.symbol .closeParen]) ++ after ∧
      argument.value = .ok value ∧ value.isIntegral = false

theorem FaultyCall.within {tokens : List Token} (faulty : FaultyCall tokens)
    (before after : List Token) : FaultyCall (before ++ tokens ++ after) := by
  obtain ⟨front, argument, value, behind, rfl, defined, broken⟩ := faulty
  exact ⟨before ++ front, argument, value, behind ++ after, by simp, defined, broken⟩

theorem FaultyCall.append_left {tokens : List Token} (faulty : FaultyCall tokens)
    (before : List Token) : FaultyCall (before ++ tokens) := by
  simpa using faulty.within before []

theorem FaultyCall.append_right {tokens : List Token} (faulty : FaultyCall tokens)
    (after : List Token) : FaultyCall (tokens ++ after) := by
  simpa using faulty.within [] after

theorem both_or_faulty {first second : Prop} {front behind : List Token}
    (left : first ∨ FaultyCall front) (right : second ∨ FaultyCall behind) :
    (first ∧ second) ∨ FaultyCall (front ++ behind) := by
  rcases left with firstHolds | faulty
  · rcases right with secondHolds | faulty
    · exact Or.inl ⟨firstHolds, secondHolds⟩
    · exact Or.inr (faulty.append_left front)
  · exact Or.inr (faulty.append_right behind)

theorem FaultyCall.closed {tokens : List Token} (faulty : FaultyCall tokens) :
    .symbol .closeParen ∈ tokens := by
  obtain ⟨before, argument, value, after, rfl, _⟩ := faulty
  simp

theorem Viable.of_append {tokens rest : List Token} (viable : Viable (tokens ++ rest)) :
    Viable tokens := by
  obtain ⟨more, sentence⟩ := viable
  exact ⟨rest ++ more, by simpa using sentence⟩

theorem IsSentence.viable {tokens : List Token} (sentence : IsSentence tokens) : Viable tokens :=
  ⟨[], by simpa using sentence⟩

namespace Operator

theorem combine_additive {operator : Operator} (additive : operator ∈ Operator.additive)
    (left right : Binary64) : ∃ value, operator.combine left right = .ok value := by
  simp only [Operator.additive, List.mem_cons, List.not_mem_nil, or_false] at additive
  rcases additive with rfl | rfl
  · exact ⟨_, rfl⟩
  · exact ⟨_, rfl⟩

theorem combine_multiplicative {operator : Operator}
    (multiplicative : operator ∈ Operator.multiplicative) (left right : Binary64) :
    ∃ value, operator.combine left right = .ok value := by
  simp only [Operator.multiplicative, List.mem_cons, List.not_mem_nil, or_false] at multiplicative
  rcases multiplicative with rfl | rfl | rfl
  · exact ⟨_, rfl⟩
  · exact ⟨_, rfl⟩
  · exact ⟨_, rfl⟩

theorem apply_binary_known {function : Operator} (known : function ∈ Operator.binaryFunctions)
    (first second : Binary64) : ∃ value, function.applyBinary first second = .ok value := by
  simp only [Operator.binaryFunctions, List.mem_cons, List.not_mem_nil, or_false] at known
  rcases known with rfl | rfl
  · exact ⟨_, rfl⟩
  · exact ⟨_, rfl⟩

/-- Only whole numbers have a factorial. -/
theorem factorial_defined_or_broken (argument : Binary64) :
    (∃ value, factorial argument = .ok value) ∧ argument.isIntegral = true ∨
      factorial argument = .error .integerExpected ∧ argument.isIntegral = false := by
  have integral := Binary64.is_some_integer argument
  cases whole : argument.integer? with
  | none =>
      right
      rw [whole] at integral
      exact ⟨by rw [factorial, whole], integral.symm⟩
  | some number =>
      left
      rw [whole] at integral
      refine ⟨?_, integral.symm⟩
      simp only [factorial, whole]
      split
      · exact ⟨_, rfl⟩
      · exact ⟨_, rfl⟩

theorem apply_unary_known {function : Operator} (known : function ∈ Operator.unaryFunctions)
    (argument : Binary64) :
    (∃ value, function.applyUnary argument = .ok value) ∧
        (function = .fact → argument.isIntegral = true) ∨
      function = .fact ∧ function.applyUnary argument = .error .integerExpected ∧
        argument.isIntegral = false := by
  simp only [Operator.unaryFunctions, List.mem_cons, List.not_mem_nil, or_false] at known
  rcases known with rfl | rfl | rfl
  · exact Or.inl ⟨⟨_, rfl⟩, nofun⟩
  · exact Or.inl ⟨⟨_, rfl⟩, nofun⟩
  · rcases factorial_defined_or_broken argument with ⟨defined, integral⟩ | ⟨undefined, broken⟩
    · exact Or.inl ⟨defined, fun _ => integral⟩
    · exact Or.inr ⟨rfl, undefined, broken⟩

theorem apply_unary_fault {function : Operator} (known : function ∈ Operator.unaryFunctions)
    {argument : Binary64} {fault : Fault} (failed : function.applyUnary argument = .error fault) :
    fault = .integerExpected := by
  rcases apply_unary_known known argument with ⟨⟨value, defined⟩, _⟩ | ⟨_, undefined, _⟩
  · rw [defined] at failed
    cases failed
  · rw [undefined] at failed
    cases failed
    rfl

end Operator

/-- The parts of a sum, a product, a sign and a call are evaluated before anything is made of them. -/
theorem bind_defined {α β : Type} {first : Except Fault α} {next : α → Except Fault β} {result : β}
    (defined : first >>= next = .ok result) :
    ∃ value, first = .ok value ∧ next value = .ok result := by
  cases first with
  | error fault => cases defined
  | ok value => exact ⟨value, rfl, defined⟩

namespace Tree

variable {category : Category}

def Defined (tree : Tree category) : Prop :=
  ∃ value, tree.value = .ok value

theorem sum_value {left : Tree .expression} {operator : Operator}
    {additive : operator ∈ Operator.additive} {right : Tree .term} {first second : Binary64}
    (leftValue : left.value = .ok first) (rightValue : right.value = .ok second) :
    (sum left operator additive right).value = operator.combine first second := by
  rw [value, leftValue, rightValue]
  rfl

theorem product_value {left : Tree .term} {operator : Operator}
    {multiplicative : operator ∈ Operator.multiplicative} {right : Tree .unary}
    {first second : Binary64} (leftValue : left.value = .ok first)
    (rightValue : right.value = .ok second) :
    (product left operator multiplicative right).value = operator.combine first second := by
  rw [value, leftValue, rightValue]
  rfl

theorem signed_value {sign : Operator} {additive : sign ∈ Operator.additive}
    {factor : Tree .factor} {plain : Binary64} (factorValue : factor.value = .ok plain) :
    (signed sign additive factor).value = sign.combine .zero plain := by
  rw [value, factorValue]
  rfl

theorem unary_call_value {function : Operator} {known : function ∈ Operator.unaryFunctions}
    {argument : Tree .expression} {plain : Binary64} (argumentValue : argument.value = .ok plain) :
    (unaryCall function known argument).value = function.applyUnary plain := by
  rw [value, argumentValue]
  rfl

theorem binary_call_value {function : Operator} {known : function ∈ Operator.binaryFunctions}
    {left right : Tree .expression} {first second : Binary64}
    (leftValue : left.value = .ok first) (rightValue : right.value = .ok second) :
    (binaryCall function known left right).value = function.applyBinary first second := by
  rw [value, leftValue, rightValue]
  rfl

theorem defined_sum {left : Tree .expression} {operator : Operator}
    {additive : operator ∈ Operator.additive} {right : Tree .term} :
    (sum left operator additive right).Defined ↔ left.Defined ∧ right.Defined := by
  constructor
  · intro evaluated
    obtain ⟨result, defined⟩ := evaluated
    obtain ⟨first, leftValue, rest⟩ := bind_defined defined
    obtain ⟨second, rightValue, _⟩ := bind_defined rest
    exact ⟨⟨first, leftValue⟩, second, rightValue⟩
  · intro both
    obtain ⟨⟨first, leftValue⟩, second, rightValue⟩ := both
    rw [Defined, sum_value leftValue rightValue]
    exact Operator.combine_additive additive first second

theorem defined_product {left : Tree .term} {operator : Operator}
    {multiplicative : operator ∈ Operator.multiplicative} {right : Tree .unary} :
    (product left operator multiplicative right).Defined ↔ left.Defined ∧ right.Defined := by
  constructor
  · intro evaluated
    obtain ⟨result, defined⟩ := evaluated
    obtain ⟨first, leftValue, rest⟩ := bind_defined defined
    obtain ⟨second, rightValue, _⟩ := bind_defined rest
    exact ⟨⟨first, leftValue⟩, second, rightValue⟩
  · intro both
    obtain ⟨⟨first, leftValue⟩, second, rightValue⟩ := both
    rw [Defined, product_value leftValue rightValue]
    exact Operator.combine_multiplicative multiplicative first second

theorem defined_signed {sign : Operator} {additive : sign ∈ Operator.additive}
    {factor : Tree .factor} : (signed sign additive factor).Defined ↔ factor.Defined := by
  constructor
  · intro evaluated
    obtain ⟨result, defined⟩ := evaluated
    obtain ⟨plain, factorValue, _⟩ := bind_defined defined
    exact ⟨plain, factorValue⟩
  · intro evaluated
    obtain ⟨plain, factorValue⟩ := evaluated
    rw [Defined, signed_value factorValue]
    exact Operator.combine_additive additive .zero plain

theorem defined_binary_call {function : Operator} {known : function ∈ Operator.binaryFunctions}
    {left right : Tree .expression} :
    (binaryCall function known left right).Defined ↔ left.Defined ∧ right.Defined := by
  constructor
  · intro evaluated
    obtain ⟨result, defined⟩ := evaluated
    obtain ⟨first, leftValue, rest⟩ := bind_defined defined
    obtain ⟨second, rightValue, _⟩ := bind_defined rest
    exact ⟨⟨first, leftValue⟩, second, rightValue⟩
  · intro both
    obtain ⟨⟨first, leftValue⟩, second, rightValue⟩ := both
    rw [Defined, binary_call_value leftValue rightValue]
    exact Operator.apply_binary_known known first second

theorem defined_argument {function : Operator} {known : function ∈ Operator.unaryFunctions}
    {argument : Tree .expression} (defined : (unaryCall function known argument).Defined) :
    argument.Defined := by
  obtain ⟨result, defined⟩ := defined
  obtain ⟨plain, argumentValue, _⟩ := bind_defined defined
  exact ⟨plain, argumentValue⟩

/-- A tree has no value only where a factorial has none. -/
theorem defined_or_faulty_call (tree : Tree category) : tree.Defined ∨ FaultyCall tree.tokens := by
  induction tree with
  | ofTerm term term_ih => exact term_ih
  | ofUnary unary unary_ih => exact unary_ih
  | ofFactor factor factor_ih => exact factor_ih
  | ofGroup group group_ih => exact group_ih
  | number value => exact Or.inl ⟨value, rfl⟩
  | sum left operator additive right left_ih right_ih =>
      rw [defined_sum, tokens]
      exact both_or_faulty left_ih (right_ih.imp_right fun faulty => faulty.append_left [_])
  | product left operator multiplicative right left_ih right_ih =>
      rw [defined_product, tokens]
      exact both_or_faulty left_ih (right_ih.imp_right fun faulty => faulty.append_left [_])
  | signed sign additive factor factor_ih =>
      rw [defined_signed, tokens]
      exact factor_ih.imp_right fun faulty => faulty.append_left [.symbol sign]
  | parenthesized inner inner_ih =>
      exact inner_ih.imp_right fun faulty =>
        faulty.within [.symbol .openParen] [.symbol .closeParen]
  | unaryCall function known argument argument_ih =>
      rcases argument_ih with ⟨plain, argumentValue⟩ | faulty
      · rcases Operator.apply_unary_known known plain with ⟨defined, _⟩ | ⟨rfl, _, broken⟩
        · left
          rw [Defined, unary_call_value argumentValue]
          exact defined
        · exact Or.inr ⟨[], argument, plain, [], by simp [tokens], argumentValue, broken⟩
      · exact Or.inr (faulty.within [.symbol function, .symbol .openParen] [.symbol .closeParen])
  | binaryCall function known left right left_ih right_ih =>
      rw [defined_binary_call, tokens]
      have firstPart := left_ih.imp_right fun faulty =>
        faulty.within [.symbol function, .symbol .openParen] [.symbol .comma]
      have secondPart := right_ih.imp_right fun faulty => faulty.append_right [.symbol .closeParen]
      have located := both_or_faulty firstPart secondPart
      simpa using located

theorem faulty_call_undefined {argument : Tree .expression} {plain : Binary64}
    {known : Operator.fact ∈ Operator.unaryFunctions} (argumentValue : argument.value = .ok plain)
    (broken : plain.isIntegral = false) : ¬(unaryCall .fact known argument).Defined := by
  intro evaluated
  obtain ⟨result, defined⟩ := evaluated
  rw [unary_call_value argumentValue] at defined
  rcases Operator.apply_unary_known known plain with ⟨_, whole⟩ | ⟨_, undefined, _⟩
  · rw [whole rfl] at broken
    cases broken
  · rw [undefined] at defined
    cases defined

end Tree

end Calculator
