import Calculator.Proofs.Sentence

/-!
# What stands before a part

A context is an expression with a part missing and nothing yet behind it: all that has been read when
the part begins, with the operands already complete and the groups still open. There is one constructor
for each place of the grammar, so that a context of a category can be filled with any tree of it, and
`fill` closes whatever is open with as little as the grammar allows.
-/

set_option autoImplicit false

namespace Calculator

inductive Context : Category → Type where
  | start : Context .expression
  | parenthesized (outer : Context .group) : Context .expression
  | unaryArgument (function : Operator) (known : function ∈ Operator.unaryFunctions)
      (outer : Context .group) : Context .expression
  | firstArgument (function : Operator) (known : function ∈ Operator.binaryFunctions)
      (outer : Context .group) : Context .expression
  | secondArgument (function : Operator) (known : function ∈ Operator.binaryFunctions)
      (first : Tree .expression) (outer : Context .group) : Context .expression
  | firstTerm (outer : Context .expression) : Context .term
  | addend (left : Tree .expression) (operator : Operator)
      (additive : operator ∈ Operator.additive) (outer : Context .expression) : Context .term
  | firstOperand (outer : Context .term) : Context .unary
  | multiplier (left : Tree .term) (operator : Operator)
      (multiplicative : operator ∈ Operator.multiplicative) (outer : Context .term) : Context .unary
  | unsigned (outer : Context .unary) : Context .factor
  | signed (sign : Operator) (additive : sign ∈ Operator.additive) (outer : Context .unary) :
      Context .factor
  | grouped (outer : Context .factor) : Context .group

def Tree.fillerOperand : Tree .unary :=
  .ofFactor (.number .zero)

def Tree.filler : Tree .expression :=
  .ofTerm (.ofUnary .fillerOperand)

namespace Context

def tokens : {category : Category} → Context category → List Token
  | _, start => []
  | _, parenthesized outer => outer.tokens ++ [.symbol .openParen]
  | _, unaryArgument function _ outer => outer.tokens ++ [.symbol function, .symbol .openParen]
  | _, firstArgument function _ outer => outer.tokens ++ [.symbol function, .symbol .openParen]
  | _, secondArgument function _ first outer =>
      outer.tokens ++ (.symbol function :: .symbol .openParen :: first.tokens ++ [.symbol .comma])
  | _, firstTerm outer => outer.tokens
  | _, addend left operator _ outer => outer.tokens ++ (left.tokens ++ [.symbol operator])
  | _, firstOperand outer => outer.tokens
  | _, multiplier left operator _ outer => outer.tokens ++ (left.tokens ++ [.symbol operator])
  | _, unsigned outer => outer.tokens
  | _, signed sign _ outer => outer.tokens ++ [.symbol sign]
  | _, grouped outer => outer.tokens

/-- The whole expression with the part put in and every open group closed behind it. -/
def fill : {category : Category} → Context category → Tree category → Tree .expression
  | _, start, tree => tree
  | _, parenthesized outer, tree => outer.fill (.parenthesized tree)
  | _, unaryArgument function known outer, tree => outer.fill (.unaryCall function known tree)
  | _, firstArgument function known outer, tree =>
      outer.fill (.binaryCall function known tree .filler)
  | _, secondArgument function known first outer, tree =>
      outer.fill (.binaryCall function known first tree)
  | _, firstTerm outer, tree => outer.fill (.ofTerm tree)
  | _, addend left operator additive outer, tree => outer.fill (.sum left operator additive tree)
  | _, firstOperand outer, tree => outer.fill (.ofUnary tree)
  | _, multiplier left operator multiplicative outer, tree =>
      outer.fill (.product left operator multiplicative tree)
  | _, unsigned outer, tree => outer.fill (.ofFactor tree)
  | _, signed sign additive outer, tree => outer.fill (.signed sign additive tree)
  | _, grouped outer, tree => outer.fill (.ofGroup tree)

def closing : {category : Category} → Context category → List Token
  | _, start => []
  | _, parenthesized outer => .symbol .closeParen :: outer.closing
  | _, unaryArgument _ _ outer => .symbol .closeParen :: outer.closing
  | _, firstArgument _ _ outer =>
      .symbol .comma :: Tree.filler.tokens ++ .symbol .closeParen :: outer.closing
  | _, secondArgument _ _ _ outer => .symbol .closeParen :: outer.closing
  | _, firstTerm outer => outer.closing
  | _, addend _ _ _ outer => outer.closing
  | _, firstOperand outer => outer.closing
  | _, multiplier _ _ _ outer => outer.closing
  | _, unsigned outer => outer.closing
  | _, signed _ _ outer => outer.closing
  | _, grouped outer => outer.closing

theorem fill_tokens {category : Category} (context : Context category) (tree : Tree category) :
    (context.fill tree).tokens = context.tokens ++ tree.tokens ++ context.closing := by
  induction context with
  | start => simp [fill, tokens, closing]
  | parenthesized outer ih => simp [fill, tokens, closing, ih, Tree.tokens]
  | unaryArgument function known outer ih => simp [fill, tokens, closing, ih, Tree.tokens]
  | firstArgument function known outer ih => simp [fill, tokens, closing, ih, Tree.tokens]
  | secondArgument function known first outer ih => simp [fill, tokens, closing, ih, Tree.tokens]
  | firstTerm outer ih => exact ih _
  | addend left operator additive outer ih => simp [fill, tokens, closing, ih, Tree.tokens]
  | firstOperand outer ih => exact ih _
  | multiplier left operator multiplicative outer ih =>
      simp [fill, tokens, closing, ih, Tree.tokens]
  | unsigned outer ih => exact ih _
  | signed sign additive outer ih => simp [fill, tokens, closing, ih, Tree.tokens]
  | grouped outer ih => exact ih _

theorem viable_append_tree {category : Category} (context : Context category)
    (tree : Tree category) : Viable (context.tokens ++ tree.tokens) :=
  ⟨context.closing, context.fill tree, context.fill_tokens tree⟩

def Defined : {category : Category} → Context category → Prop
  | _, start => True
  | _, parenthesized outer => outer.Defined
  | _, unaryArgument _ _ outer => outer.Defined
  | _, firstArgument _ _ outer => outer.Defined
  | _, secondArgument _ _ first outer => outer.Defined ∧ first.Defined
  | _, firstTerm outer => outer.Defined
  | _, addend left _ _ outer => outer.Defined ∧ left.Defined
  | _, firstOperand outer => outer.Defined
  | _, multiplier left _ _ outer => outer.Defined ∧ left.Defined
  | _, unsigned outer => outer.Defined
  | _, signed _ _ outer => outer.Defined
  | _, grouped outer => outer.Defined

theorem defined_or_faulty_call {category : Category} (context : Context category) :
    context.Defined ∨ FaultyCall context.tokens := by
  induction context with
  | start => exact Or.inl trivial
  | parenthesized outer ih => exact ih.imp_right fun faulty => faulty.append_right _
  | unaryArgument function known outer ih => exact ih.imp_right fun faulty => faulty.append_right _
  | firstArgument function known outer ih => exact ih.imp_right fun faulty => faulty.append_right _
  | secondArgument function known first outer ih =>
      have argument := first.defined_or_faulty_call.imp_right fun faulty =>
        faulty.within [.symbol function, .symbol .openParen] [.symbol .comma]
      exact both_or_faulty ih argument
  | firstTerm outer ih => exact ih
  | addend left operator additive outer ih =>
      have front := left.defined_or_faulty_call.imp_right fun faulty =>
        faulty.append_right [.symbol operator]
      exact both_or_faulty ih front
  | firstOperand outer ih => exact ih
  | multiplier left operator multiplicative outer ih =>
      have front := left.defined_or_faulty_call.imp_right fun faulty =>
        faulty.append_right [.symbol operator]
      exact both_or_faulty ih front
  | unsigned outer ih => exact ih
  | signed sign additive outer ih => exact ih.imp_right fun faulty => faulty.append_right _
  | grouped outer ih => exact ih

end Context

end Calculator
