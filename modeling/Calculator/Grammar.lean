import Calculator.Operation
import Calculator.Token

/-!
# The grammar of expressions

What an expression is, without a reader: a tree whose leaves in order are its tokens and whose value is
computed from its parts. Chains lean to the left, so that a tree has one shape for each way of reading a
chain. Nothing here limits how deep groups are nested; `deepest` measures it on the tokens alone.
-/

set_option autoImplicit false

namespace Calculator

inductive Category where
  | expression
  | term
  | unary
  | factor
  | group
  deriving DecidableEq

inductive Tree : Category → Type where
  | ofTerm (term : Tree .term) : Tree .expression
  | sum (left : Tree .expression) (operator : Operator)
      (additive : operator ∈ Operator.additive) (right : Tree .term) : Tree .expression
  | ofUnary (unary : Tree .unary) : Tree .term
  | product (left : Tree .term) (operator : Operator)
      (multiplicative : operator ∈ Operator.multiplicative) (right : Tree .unary) : Tree .term
  | ofFactor (factor : Tree .factor) : Tree .unary
  | signed (sign : Operator) (additive : sign ∈ Operator.additive) (factor : Tree .factor) :
      Tree .unary
  | number (value : Binary64) : Tree .factor
  | ofGroup (group : Tree .group) : Tree .factor
  | parenthesized (inner : Tree .expression) : Tree .group
  | unaryCall (function : Operator) (known : function ∈ Operator.unaryFunctions)
      (argument : Tree .expression) : Tree .group
  | binaryCall (function : Operator) (known : function ∈ Operator.binaryFunctions)
      (first second : Tree .expression) : Tree .group

namespace Tree

def tokens : {category : Category} → Tree category → List Token
  | _, ofTerm term => term.tokens
  | _, sum left operator _ right => left.tokens ++ .symbol operator :: right.tokens
  | _, ofUnary unary => unary.tokens
  | _, product left operator _ right => left.tokens ++ .symbol operator :: right.tokens
  | _, ofFactor factor => factor.tokens
  | _, signed sign _ factor => .symbol sign :: factor.tokens
  | _, number value => [.number value]
  | _, ofGroup group => group.tokens
  | _, parenthesized inner => .symbol .openParen :: inner.tokens ++ [.symbol .closeParen]
  | _, unaryCall function _ argument =>
      .symbol function :: .symbol .openParen :: argument.tokens ++ [.symbol .closeParen]
  | _, binaryCall function _ first second =>
      .symbol function :: .symbol .openParen :: first.tokens ++
        .symbol .comma :: second.tokens ++ [.symbol .closeParen]

/-- The value of a tree, from the values of its parts in the order in which they are written. -/
def value : {category : Category} → Tree category → Except Fault Binary64
  | _, ofTerm term => term.value
  | _, sum left operator _ right => do operator.combine (← left.value) (← right.value)
  | _, ofUnary unary => unary.value
  | _, product left operator _ right => do operator.combine (← left.value) (← right.value)
  | _, ofFactor factor => factor.value
  | _, signed sign _ factor => do sign.combine .zero (← factor.value)
  | _, number value => .ok value
  | _, ofGroup group => group.value
  | _, parenthesized inner => inner.value
  | _, unaryCall function _ argument => do function.applyUnary (← argument.value)
  | _, binaryCall function _ first second => do
      function.applyBinary (← first.value) (← second.value)

end Tree

/-- The open groups behind each token, with `openGroups` before the first. -/
def groupCounts (openGroups : Nat) : List Token → List Nat
  | [] => []
  | .symbol operator :: rest =>
      operator.groupsAfter openGroups :: groupCounts (operator.groupsAfter openGroups) rest
  | _ :: rest => openGroups :: groupCounts openGroups rest

/-- The most groups that are open at a time. -/
def deepest (tokens : List Token) : Nat :=
  (groupCounts 0 tokens).foldr max 0

end Calculator
