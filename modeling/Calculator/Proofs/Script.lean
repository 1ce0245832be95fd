import Calculator.Proofs.Passage

/-!
# What the rules call

A rule does nothing to a cursor by itself. It looks at the token in view and calls: for a token to be taken,
for a value to be computed, for another rule. A script is a rule written as these calls, each with what is
done behind its answer; where a call fails the script ends with its fault. The part that lies inside a group is
marked. Run with `parse` for the rules that are asked for, a script has the outcome of its rule
(`Rule.run_script`), so its calls are those that the outcome comes from.

`Script.Orderly` is what has to be known of a rule. Its calls are made one behind another from where the
cursor stands, each finds what it asks for, and a rule that is asked for has less before it or is a tighter one.
-/

set_option autoImplicit false

namespace Calculator

namespace Outcome

variable {α β γ : Type}

def fault? : Outcome α → Option Fault
  | done _ _ => none
  | failed fault _ => some fault

theorem and_then_self (outcome : Outcome α) : outcome.andThen done = outcome := by
  cases outcome <;> rfl

theorem and_then_assoc (outcome : Outcome α) (more : α → Cursor → Outcome β)
    (further : β → Cursor → Outcome γ) :
    (outcome.andThen more).andThen further =
      outcome.andThen fun answer next => (more answer next).andThen further := by
  cases outcome <;> rfl

theorem map_and_then (outcome : Outcome α) (change : α → β) (further : β → Cursor → Outcome γ) :
    (outcome.map change).andThen further =
      outcome.andThen fun answer next => further (change answer) next := by
  cases outcome <;> rfl

theorem map_eq_and_then (outcome : Outcome α) (change : α → β) :
    outcome.map change = outcome.andThen fun answer next => done (change answer) next :=
  rfl

end Outcome

inductive Action where
  | takeNumber
  | takeOperator
  | combine (operator : Operator) (left right : Binary64)
  | applyUnary (function : Operator) (argument : Binary64)
  | applyBinary (function : Operator) (first second : Binary64)
  deriving DecidableEq

namespace Action

@[reducible]
def Answer : Action → Type
  | takeOperator => Operator
  | _ => Binary64

def run : (action : Action) → Cursor → Outcome action.Answer
  | takeNumber, cursor => cursor.takeNumber
  | takeOperator, cursor => cursor.takeOperator
  | combine operator left right, cursor => .ofExcept cursor (operator.combine left right)
  | applyUnary function argument, cursor => .ofExcept cursor (function.applyUnary argument)
  | applyBinary function first second, cursor => .ofExcept cursor (function.applyBinary first second)

/-- A token is asked for, whether or not it can be taken. -/
def takes : Action → Bool
  | takeNumber => true
  | takeOperator => true
  | _ => false

end Action

structure Call where
  action : Action
  cursor : Cursor
  deriving DecidableEq

/-- What is called for is there: a token of the kind, or an operator of the sort. -/
def Call.Fits (call : Call) : Prop :=
  match call.action with
  | .takeNumber => call.cursor.lookahead.isNumber = true
  | .takeOperator => ∃ operator, call.cursor.lookahead = .symbol operator
  | .combine operator _ _ => operator ∈ Operator.additive ++ Operator.multiplicative
  | .applyUnary function _ => function ∈ Operator.unaryFunctions
  | .applyBinary function _ _ => function ∈ Operator.binaryFunctions

/-- What is still to be done. The body of `within` is the part inside a group: from behind the opening
parenthesis to the closing one. -/
inductive Script : Type → Type 1 where
  | done {α : Type} (answer : α) (cursor : Cursor) : Script α
  | failed {α : Type} (fault : Fault) (cursor : Cursor) : Script α
  | call {α : Type} (action : Action) (cursor : Cursor) (more : action.Answer → Cursor → Script α) :
      Script α
  | ask {α : Type} (rule : Rule) (cursor : Cursor) (more : Binary64 → Cursor → Script α) : Script α
  | within {α β : Type} (body : Script β) (more : β → Cursor → Script α) : Script α

namespace Script

variable {α β : Type}

def behind (outcome : Outcome β) (more : β → Cursor → Script α) : Script α :=
  match outcome with
  | .done answer cursor => more answer cursor
  | .failed fault cursor => failed fault cursor

/-- The outcome, if `parse` answers for the rules asked for. -/
def run : {α : Type} → Script α → Outcome α
  | _, done answer cursor => .done answer cursor
  | _, failed fault cursor => .failed fault cursor
  | _, call action cursor more =>
      (action.run cursor).andThen fun answer next => (more answer next).run
  | _, ask rule cursor more => (parse rule cursor).andThen fun value next => (more value next).run
  | _, within body more => body.run.andThen fun answer next => (more answer next).run

def expect (operator : Operator) (fault : Fault) (cursor : Cursor) (more : Cursor → Script α) :
    Script α :=
  if cursor.lookahead.isAmong [operator] then
    call .takeOperator cursor fun _ next => more next
  else
    failed fault cursor

def openGroup (cursor : Cursor) (more : Cursor → Script α) : Script α :=
  expect .openParen .parenthesizedEquationExpected cursor fun inside =>
    if nestingLimit < inside.openGroups then
      failed (.nestingTooDeep nestingLimit) inside
    else
      more inside

def nextParameter (cursor : Cursor) (more : Cursor → Script α) : Script α :=
  expect .comma .secondParameterExpected cursor more

def closeGroup (cursor : Cursor) (answer : α) : Script α :=
  expect .closeParen .unclosedParenthesis cursor (done answer)

/-- One turn of a chain; for the next turn the same tail is asked for again. -/
def tail (chain : Chain) (left : Binary64) (cursor : Cursor) : Script Binary64 :=
  if cursor.lookahead.isAmong chain.operators then
    call .takeOperator cursor fun operator next =>
      ask chain.operand.rule next fun right next =>
        call (.combine operator left right) next fun value next =>
          ask (chain.tail value) next done
  else
    done left cursor

def group (cursor : Cursor) : Script Binary64 :=
  if cursor.lookahead.isAmong [.openParen] then
    openGroup cursor fun inside =>
      within (ask .expression inside fun value next => closeGroup next value) done
  else if cursor.lookahead.isAmong Operator.unaryFunctions then
    call .takeOperator cursor fun function next =>
      openGroup next fun inside =>
        within (ask .expression inside fun argument next => closeGroup next argument)
          fun argument next => call (.applyUnary function argument) next done
  else if cursor.lookahead.isAmong Operator.binaryFunctions then
    call .takeOperator cursor fun function next =>
      openGroup next fun inside =>
        within (ask .expression inside fun first next =>
          nextParameter next fun between =>
            ask .expression between fun second next => closeGroup next (first, second))
          fun arguments next => call (.applyBinary function arguments.1 arguments.2) next done
  else
    failed .numberExpected cursor

end Script

def Rule.script (rule : Rule) (cursor : Cursor) : Script Binary64 :=
  match rule with
  | expression => .ask .term cursor fun value next => .ask (.expressionTail value) next .done
  | expressionTail left => .tail .sum left cursor
  | term => .ask .unary cursor fun value next => .ask (.termTail value) next .done
  | termTail left => .tail .product left cursor
  | unary =>
      if cursor.lookahead.isAmong Operator.additive then
        .call .takeOperator cursor fun sign next =>
          .ask .factor next fun value next => .call (.combine sign .zero value) next .done
      else
        .ask .factor cursor .done
  | factor =>
      if cursor.lookahead.isNumber then
        .call .takeNumber cursor .done
      else
        .ask .group cursor .done
  | group => .group cursor

/-! ## A script has the outcome of its rule -/

namespace Script

variable {α β : Type}

theorem run_behind (outcome : Outcome β) (more : β → Cursor → Script α) :
    (behind outcome more).run = outcome.andThen fun answer next => (more answer next).run := by
  cases outcome with
  | done answer next => rfl
  | failed fault stopped => simp only [behind, run, Outcome.andThen]

theorem run_expect (operator : Operator) (fault : Fault) (cursor : Cursor)
    (more : Cursor → Script α) :
    (expect operator fault cursor more).run =
      (cursor.expect operator fault).andThen fun _ next => (more next).run := by
  rw [expect, Cursor.expect]
  split
  · rw [run, Outcome.map_and_then]
    rfl
  · simp only [run, Outcome.andThen]

theorem run_open_group (cursor : Cursor) (more : Cursor → Script α) :
    (openGroup cursor more).run = cursor.openGroup.andThen fun _ inside => (more inside).run := by
  rw [openGroup, run_expect, Cursor.openGroup, Outcome.and_then_assoc]
  congr 1
  funext _ inside
  rw [Cursor.checkNesting]
  split
  · simp only [run, Outcome.andThen]
  · rfl

theorem run_next_parameter (cursor : Cursor) (more : Cursor → Script α) :
    (nextParameter cursor more).run =
      cursor.nextParameter.andThen fun _ between => (more between).run :=
  run_expect _ _ _ _

theorem run_close_group (cursor : Cursor) (answer : α) :
    (closeGroup cursor answer).run = cursor.closeGroup.map fun _ => answer := by
  rw [closeGroup, run_expect, Outcome.map_eq_and_then]
  simp only [run]
  rfl

theorem run_tail (chain : Chain) (left : Binary64) (cursor : Cursor) :
    (tail chain left cursor).run = parse (chain.tail left) cursor := by
  rw [Chain.parse_tail, tail]
  split
  · simp only [run, Action.run, Outcome.and_then_self]
  · simp only [run]

theorem run_group (cursor : Cursor) : (group cursor).run = parse .group cursor := by
  rw [parse_group, group]
  split
  · simp only [run_open_group, run_close_group, run, Outcome.and_then_self]
  split
  · simp only [run_open_group, run_close_group, run, Action.run, Outcome.and_then_self,
      Outcome.and_then_assoc, Outcome.map_and_then]
  split
  · simp only [run_open_group, run_next_parameter, run_close_group, run, Action.run,
      Outcome.and_then_self, Outcome.and_then_assoc, Outcome.map_and_then]
  · simp only [run]

end Script

theorem Rule.run_script (rule : Rule) (cursor : Cursor) :
    (rule.script cursor).run = parse rule cursor := by
  cases rule with
  | expression => simp only [script, Script.run, parse_expression, Outcome.and_then_self]
  | expressionTail left => exact Script.run_tail .sum left cursor
  | term => simp only [script, Script.run, parse_term, Outcome.and_then_self]
  | termTail left => exact Script.run_tail .product left cursor
  | unary =>
      rw [parse_unary, script]
      split
      · simp only [Script.run, Action.run, Outcome.and_then_self]
      · simp only [Script.run, Outcome.and_then_self]
  | factor =>
      rw [parse_factor, script]
      split
      · simp only [Script.run, Action.run, Outcome.and_then_self]
      · simp only [Script.run, Outcome.and_then_self]
  | group => exact Script.run_group cursor

/-! ## What there is to know of a script -/

def Fault.isOfRule : Fault → Bool
  | .unknownOperator _ => false
  | .unexpectedToken _ => false
  | _ => true

namespace Script

/-- From the cursor on the calls are made one behind another. What is called for is there, and a rule that is
asked for weighs less than `limit`. A fault that no call has answered is one of the rules. -/
def Orderly (limit : Nat) : {α : Type} → Script α → Cursor → Prop
  | _, done _ last, cursor => last = cursor
  | _, failed fault stopped, cursor => stopped = cursor ∧ fault.isOfRule = true
  | _, call action start more, cursor =>
      start = cursor ∧ Call.Fits ⟨action, start⟩ ∧
        ∀ answer next, action.run start = .done answer next → (more answer next).Orderly limit next
  | _, ask rule start more, cursor =>
      start = cursor ∧ rule.weight start < limit ∧
        ∀ value next, parse rule start = .done value next → (more value next).Orderly limit next
  | _, within body more, cursor =>
      body.Orderly limit cursor ∧
        ∀ answer next, body.run = .done answer next → (more answer next).Orderly limit next

variable {α β : Type} {limit : Nat} {cursor : Cursor} {candidates : List Operator}

theorem orderly_done (answer : α) (cursor : Cursor) : (done answer cursor).Orderly limit cursor := by
  rw [Orderly]

theorem orderly_failed {fault : Fault} (own : fault.isOfRule = true) (cursor : Cursor) :
    (failed fault cursor : Script α).Orderly limit cursor :=
  ⟨rfl, own⟩

theorem orderly_take {more : Operator → Cursor → Script α}
    (waiting : cursor.lookahead.isAmong candidates = true)
    (rest : ∀ operator ∈ candidates, ∀ next : Cursor, next.remaining < cursor.remaining →
      (more operator next).Orderly limit next) :
    (call .takeOperator cursor more).Orderly limit cursor := by
  obtain ⟨operator, listed, ahead⟩ := Token.is_among_iff.mp waiting
  refine ⟨rfl, ⟨operator, ahead⟩, ?_⟩
  intro taken next took
  have same := Cursor.lookahead_of_take_operator took
  rw [ahead] at same
  injection same with same
  rw [← same]
  exact rest operator listed next (take_operator_falls waiting took)

theorem orderly_expect {operator : Operator} {fault : Fault} {more : Cursor → Script α}
    (own : fault.isOfRule = true)
    (rest : ∀ next : Cursor, next.remaining < cursor.remaining → (more next).Orderly limit next) :
    (expect operator fault cursor more).Orderly limit cursor := by
  unfold expect
  split
  · next waiting => exact orderly_take waiting fun _ _ => rest
  · exact orderly_failed own cursor

theorem orderly_open_group {more : Cursor → Script α}
    (inside : ∀ next : Cursor, next.remaining < cursor.remaining → (more next).Orderly limit next) :
    (openGroup cursor more).Orderly limit cursor := by
  apply orderly_expect rfl
  intro next falls
  split
  · exact orderly_failed rfl next
  · exact inside next falls

theorem orderly_close_group (answer : α) (cursor : Cursor) :
    (closeGroup cursor answer).Orderly limit cursor :=
  orderly_expect rfl fun next _ => orderly_done answer next

theorem orderly_ask {rule : Rule} {more : Binary64 → Cursor → Script α}
    (smaller : rule.weight cursor < limit)
    (rest : ∀ value next, next.remaining ≤ cursor.remaining → (more value next).Orderly limit next) :
    (ask rule cursor more).Orderly limit cursor := by
  refine ⟨rfl, smaller, ?_⟩
  intro value next parsed
  exact rest value next (parse_remaining parsed)

theorem orderly_ask_last {rule : Rule} (smaller : rule.weight cursor < limit) :
    (ask rule cursor done).Orderly limit cursor :=
  orderly_ask smaller fun value next _ => orderly_done value next

theorem orderly_of_except {action : Action} {more : action.Answer → Cursor → Script α}
    (result : Except Fault action.Answer) (computes : action.run cursor = .ofExcept cursor result)
    (fits : Call.Fits ⟨action, cursor⟩) (rest : ∀ value, (more value cursor).Orderly limit cursor) :
    (call action cursor more).Orderly limit cursor := by
  refine ⟨rfl, fits, ?_⟩
  intro value next computed
  have stays := Outcome.cursor_of_except cursor result
  rw [← computes, computed] at stays
  have place : next = cursor := stays
  rw [place]
  exact rest value

theorem orderly_combine {operator : Operator} {left right : Binary64}
    {more : Binary64 → Cursor → Script α}
    (known : operator ∈ Operator.additive ++ Operator.multiplicative)
    (rest : ∀ value, (more value cursor).Orderly limit cursor) :
    (call (.combine operator left right) cursor more).Orderly limit cursor :=
  orderly_of_except (operator.combine left right) rfl known rest

theorem tail_orderly (chain : Chain) (left : Binary64) (cursor : Cursor) :
    (tail chain left cursor).Orderly (5 * cursor.remaining) cursor := by
  unfold tail
  split
  · next waiting =>
      apply orderly_take waiting
      intro operator listed next falls
      have known : operator ∈ Operator.additive ++ Operator.multiplicative := by
        cases chain with
        | sum => exact List.mem_append_left _ listed
        | product => exact List.mem_append_right _ listed
      have operandSmaller : chain.operand.rule.weight next < 5 * cursor.remaining := by
        cases chain <;> simp only [Chain.operand, Category.rule, Rule.weight, Rule.rank] <;> omega
      apply orderly_ask operandSmaller
      intro right after keeps
      apply orderly_combine known
      intro value
      exact orderly_ask_last (by cases chain <;> simp only [Chain.tail, Rule.weight, Rule.rank] <;> omega)
  · exact orderly_done left cursor

theorem group_orderly (cursor : Cursor) :
    (group cursor).Orderly (5 * cursor.remaining) cursor := by
  have smaller : ∀ inside : Cursor, inside.remaining < cursor.remaining →
      Rule.expression.weight inside < 5 * cursor.remaining := by
    intro inside falls
    simp only [Rule.weight, Rule.rank]
    omega
  unfold group
  split
  · apply orderly_open_group
    intro inside falls
    refine ⟨?_, fun value last _ => orderly_done value last⟩
    apply orderly_ask (smaller inside falls)
    exact fun value next _ => orderly_close_group value next
  split
  · next waiting =>
      apply orderly_take waiting
      intro function known next fallsNext
      apply orderly_open_group
      intro inside fallsInside
      constructor
      · apply orderly_ask (smaller inside (Nat.lt_trans fallsInside fallsNext))
        exact fun argument behind _ => orderly_close_group argument behind
      · intro argument last _
        exact orderly_of_except (function.applyUnary argument) rfl known fun value =>
          orderly_done value last
  split
  · next waiting =>
      apply orderly_take waiting
      intro function known next fallsNext
      apply orderly_open_group
      intro inside fallsInside
      have fallsBoth := Nat.lt_trans fallsInside fallsNext
      constructor
      · apply orderly_ask (smaller inside fallsBoth)
        intro first behind keeps
        apply orderly_expect rfl
        intro between fallsBetween
        apply orderly_ask (smaller between (by omega))
        exact fun second last _ => orderly_close_group (first, second) last
      · intro arguments last _
        exact orderly_of_except (function.applyBinary arguments.1 arguments.2) rfl known fun value =>
          orderly_done value last
  · exact orderly_failed rfl cursor

end Script

theorem Rule.script_orderly (rule : Rule) (cursor : Cursor) :
    (rule.script cursor).Orderly (rule.weight cursor) cursor := by
  cases rule with
  | expression =>
      apply Script.orderly_ask (by simp only [weight, rank]; omega)
      intro value next keeps
      exact Script.orderly_ask_last (by simp only [weight, rank]; omega)
  | expressionTail left => exact Script.tail_orderly .sum left cursor
  | term =>
      apply Script.orderly_ask (by simp only [weight, rank]; omega)
      intro value next keeps
      exact Script.orderly_ask_last (by simp only [weight, rank]; omega)
  | termTail left => exact Script.tail_orderly .product left cursor
  | unary =>
      rw [script]
      split
      · next waiting =>
          apply Script.orderly_take waiting
          intro sign additive next falls
          apply Script.orderly_ask (by simp only [weight, rank]; omega)
          intro value after keeps
          exact Script.orderly_combine (List.mem_append_left _ additive) fun result =>
            Script.orderly_done result after
      · exact Script.orderly_ask_last (by simp only [weight, rank]; omega)
  | factor =>
      rw [script]
      split
      · next waiting => exact ⟨rfl, waiting, fun value next _ => Script.orderly_done value next⟩
      · exact Script.orderly_ask_last (by simp only [weight, rank]; omega)
  | group => exact Script.group_orderly cursor

/-! ## A whole evaluation -/

namespace Script

def evaluation (expression : String) : Script Binary64 :=
  behind (Cursor.openSource (Text.stripWhitespace expression)) fun _ first =>
    ask .expression first fun value next => behind (next.finish value) done

theorem run_evaluation (expression : String) :
    (evaluation expression).run = readSource (Text.stripWhitespace expression) := by
  simp only [evaluation, run_behind, run, Outcome.and_then_self]
  rfl

end Script

end Calculator
