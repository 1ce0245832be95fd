import Calculator.Proofs.Balance
import Calculator.Proofs.Reachable

/-!
# Chains

Sums and products are read alike: as long as an operator of the level follows, it and an operand are taken
and folded into the value so far. A chain is what stands behind its first operand, link by link.
-/

set_option autoImplicit false

namespace Calculator

namespace Tree

theorem group_begins (tree : Tree .group) : ∃ operator rest, tree.tokens = .symbol operator :: rest ∧
    operator ∈ .openParen :: Operator.unaryFunctions ++ Operator.binaryFunctions := by
  cases tree with
  | parenthesized inner => exact ⟨.openParen, _, rfl, List.mem_cons_self⟩
  | unaryCall function known argument =>
      exact ⟨function, _, rfl, List.mem_append_left _ (List.mem_cons_of_mem _ known)⟩
  | binaryCall function known first second =>
      exact ⟨function, _, rfl, List.mem_append_right _ known⟩

theorem group_begin_not_additive : ∀ operator ∈ .openParen :: Operator.unaryFunctions ++
    Operator.binaryFunctions, operator ∉ Operator.additive := by
  decide

theorem factor_begins (tree : Tree .factor) :
    ∃ token rest, tree.tokens = token :: rest ∧ token.isAmong Operator.additive = false := by
  cases tree with
  | number value => exact ⟨.number value, [], rfl, rfl⟩
  | ofGroup group =>
      obtain ⟨operator, rest, begins, listed⟩ := group.group_begins
      refine ⟨.symbol operator, rest, begins, ?_⟩
      simpa [Token.isAmong] using group_begin_not_additive operator listed

end Tree

inductive Chain where
  | sum
  | product
  deriving DecidableEq

namespace Chain

def operators : Chain → List Operator
  | sum => Operator.additive
  | product => Operator.multiplicative

def operand : Chain → Category
  | sum => .term
  | product => .unary

def tail : Chain → Binary64 → Rule
  | sum => .expressionTail
  | product => .termTail

structure Link (chain : Chain) where
  operator : Operator
  listed : operator ∈ chain.operators
  operand : Tree chain.operand

variable {chain : Chain} {operator : Operator}

def Link.tokens (link : Link chain) : List Token :=
  .symbol link.operator :: link.operand.tokens

def tokens (links : List (Link chain)) : List Token :=
  links.flatMap Link.tokens

def fold (left : Binary64) : List (Link chain) → Except Fault Binary64
  | [] => .ok left
  | link :: rest => do fold (← link.operator.combine left (← link.operand.value)) rest

/-- What would go on with a chain: another link, and where there is one, whatever goes on with its
operand. -/
def continuations : List (Link chain) → List Operator
  | [] => chain.operators
  | _ :: _ => chain.operators ++ chain.operand.continuations

theorem fold_cons {left right : Binary64} {link : Link chain} {rest : List (Link chain)}
    (valued : link.operand.value = .ok right) :
    fold left (link :: rest) =
      (link.operator.combine left right) >>= fun value => fold value rest := by
  rw [fold, valued]
  rfl

/-- One turn of the loop, for both levels. -/
theorem parse_tail (chain : Chain) (left : Binary64) (cursor : Cursor) :
    parse (chain.tail left) cursor =
      if cursor.lookahead.isAmong chain.operators then
        cursor.takeOperator.andThen fun operator next =>
          (parse chain.operand.rule next).andThen fun right next =>
            (Outcome.ofExcept next (operator.combine left right)).andThen fun value next =>
              parse (chain.tail value) next
      else
        .done left cursor := by
  cases chain with
  | sum => exact parse_expression_tail left cursor
  | product => exact parse_term_tail left cursor

theorem combine_listed (listed : operator ∈ chain.operators) (left right : Binary64) :
    ∃ value, operator.combine left right = .ok value := by
  cases chain with
  | sum => exact Operator.combine_additive listed left right
  | product => exact Operator.combine_multiplicative listed left right

theorem listed_known (listed : operator ∈ chain.operators) :
    operator ∈ Operator.additive ++ Operator.multiplicative ++ Operator.unaryFunctions ++
      Operator.binaryFunctions := by
  cases chain with
  | sum => exact List.mem_append_left _ (List.mem_append_left _ (List.mem_append_left _ listed))
  | product => exact List.mem_append_left _ (List.mem_append_left _ (List.mem_append_right _ listed))

theorem listed_not_continuing (listed : operator ∈ chain.operators) :
    operator ∉ chain.operand.continuations := by
  cases chain with
  | sum => exact Operator.additive_not_multiplicative operator listed
  | product => exact List.not_mem_nil

theorem Link.balanced (link : Link chain) : Balanced link.tokens :=
  link.operand.balanced.cons (link.operator.groups_after_of_mem (listed_known link.listed))

theorem balanced (links : List (Link chain)) : Balanced (tokens links) := by
  induction links with
  | nil => exact Balanced.nil
  | cons link rest ih => exact link.balanced.append ih

end Chain

end Calculator
