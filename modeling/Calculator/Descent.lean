import Calculator.Cursor
import Calculator.Operation

/-!
# Recursive descent

The grammar is read and evaluated in one pass. Expressions are chains of terms, terms chains of unary
operands, and both chains fold from the left. A sign stands before a factor only, so `--1` is no
expression and `-2*3` negates the two.

`parse` has one rule for each place of the grammar and needs no bound from outside: every step that
calls an earlier rule again has taken a token, and `Cursor.remaining` has fallen. `descend` carries that
fact beside each outcome; the equations of `parse` below it are what the rest of the library uses.
-/

set_option autoImplicit false

namespace Calculator

/-- The parts of an expression, from the loosest to the tightest. A tail goes on with a chain whose
value so far is `left`. -/
inductive Rule where
  | expression
  | expressionTail (left : Binary64)
  | term
  | termTail (left : Binary64)
  | unary
  | factor
  | group
  deriving DecidableEq

def nestingLimit : Nat := 128

namespace Cursor

def expect (operator : Operator) (fault : Fault) (cursor : Cursor) : Outcome Unit :=
  if cursor.lookahead.isAmong [operator] then
    cursor.takeOperator.map fun _ => ()
  else
    .failed fault cursor

def checkNesting (cursor : Cursor) : Outcome Unit :=
  if nestingLimit < cursor.openGroups then
    .failed (.nestingTooDeep nestingLimit) cursor
  else
    .done () cursor

/-- The parenthesis is taken, and the lexeme behind it scanned, before the nesting is looked at. -/
def openGroup (cursor : Cursor) : Outcome Unit :=
  (cursor.expect .openParen .parenthesizedEquationExpected).andThen fun _ inside => inside.checkNesting

def nextParameter (cursor : Cursor) : Outcome Unit :=
  cursor.expect .comma .secondParameterExpected

def closeGroup (cursor : Cursor) : Outcome Unit :=
  cursor.expect .closeParen .unclosedParenthesis

theorem expect_remaining (operator : Operator) (fault : Fault) (cursor : Cursor) :
    (cursor.expect operator fault).cursor.remaining < cursor.remaining + 1 := by
  simp only [expect]
  split
  · next waiting =>
      rw [Outcome.cursor_map]
      exact Nat.lt_succ_of_lt (take_operator_remaining waiting)
  · exact Nat.lt_succ_self _

theorem check_nesting_cursor (cursor : Cursor) : cursor.checkNesting.cursor = cursor := by
  simp only [checkNesting]
  split <;> rfl

theorem open_group_remaining (cursor : Cursor) :
    cursor.openGroup.cursor.remaining < cursor.remaining + 1 := by
  have taken := expect_remaining .openParen .parenthesizedEquationExpected cursor
  simp only [openGroup]
  cases outcome : cursor.expect .openParen .parenthesizedEquationExpected with
  | done answer inside =>
      rw [outcome] at taken
      simp only [Outcome.andThen, check_nesting_cursor]
      exact taken
  | failed fault stopped =>
      rw [outcome] at taken
      exact taken

theorem open_group_remaining_of_waiting {cursor : Cursor}
    (waiting : cursor.lookahead.isAmong [.openParen] = true) :
    cursor.openGroup.cursor.remaining < cursor.remaining := by
  have taken := take_operator_remaining waiting
  simp only [openGroup, expect, if_pos waiting]
  cases outcome : cursor.takeOperator with
  | done operator inside =>
      rw [outcome] at taken
      simp only [Outcome.map, Outcome.andThen, check_nesting_cursor]
      exact taken
  | failed fault stopped =>
      rw [outcome] at taken
      exact taken

end Cursor

structure Bounded (bound : Nat) (α : Type) where
  outcome : Outcome α
  below : outcome.cursor.remaining < bound

namespace Bounded

variable {bound : Nat} {α β : Type}

def andThen (step : Bounded bound α)
    (next : α → (cursor : Cursor) → cursor.remaining < bound → Bounded bound β) : Bounded bound β :=
  match step with
  | { outcome := .done answer cursor, below } => next answer cursor below
  | { outcome := .failed fault cursor, below } => { outcome := .failed fault cursor, below }

def loosen {looser : Nat} (result : Bounded bound α) (ordered : bound ≤ looser) :
    Bounded looser α where
  outcome := result.outcome
  below := Nat.lt_of_lt_of_le result.below ordered

def map (change : α → β) (result : Bounded bound α) : Bounded bound β where
  outcome := result.outcome.map change
  below := by rw [Outcome.cursor_map]; exact result.below

def ofExcept (cursor : Cursor) (below : cursor.remaining < bound) (result : Except Fault α) :
    Bounded bound α where
  outcome := .ofExcept cursor result
  below := by rw [Outcome.cursor_of_except]; exact below

def step (cursor : Cursor) (below : cursor.remaining < bound) (run : Cursor → Outcome α)
    (falls : (run cursor).cursor.remaining < cursor.remaining + 1) : Bounded bound α where
  outcome := run cursor
  below := Nat.lt_of_lt_of_le falls below

def take (cursor : Cursor) {candidates : List Operator}
    (waiting : cursor.lookahead.isAmong candidates = true) : Bounded cursor.remaining Operator where
  outcome := cursor.takeOperator
  below := Cursor.take_operator_remaining waiting

def enter (cursor : Cursor) (waiting : cursor.lookahead.isAmong [.openParen] = true) :
    Bounded cursor.remaining Unit where
  outcome := cursor.openGroup
  below := Cursor.open_group_remaining_of_waiting waiting

theorem outcome_loosen {looser : Nat} (result : Bounded bound α) (ordered : bound ≤ looser) :
    (result.loosen ordered).outcome = result.outcome :=
  rfl

theorem outcome_and_then (step : Bounded bound α)
    (next : α → (cursor : Cursor) → cursor.remaining < bound → Bounded bound β)
    (plain : α → Cursor → Outcome β)
    (same : ∀ answer cursor below, (next answer cursor below).outcome = plain answer cursor) :
    (step.andThen next).outcome = step.outcome.andThen plain := by
  rcases step with ⟨outcome, below⟩
  cases outcome with
  | done answer cursor => exact same answer cursor below
  | failed fault cursor => rfl

end Bounded

namespace Rule

/-- The rules that may be asked of the same cursor, the caller above the called. -/
def rank : Rule → Nat
  | expression => 4
  | term => 3
  | unary => 2
  | factor => 1
  | _ => 0

end Rule

def descend (rule : Rule) (cursor : Cursor) : Bounded (cursor.remaining + 1) Binary64 :=
  match rule with
  | .expression =>
      (descend .term cursor).andThen fun value next below =>
        (descend (.expressionTail value) next).loosen below
  | .expressionTail left =>
      if waiting : cursor.lookahead.isAmong Operator.additive then
        ((Bounded.take cursor waiting).andThen fun operator next below =>
          ((descend .term next).loosen below).andThen fun right next below =>
            (Bounded.ofExcept next below (operator.combine left right)).andThen
              fun value next below =>
                (descend (.expressionTail value) next).loosen below).loosen (Nat.le_succ _)
      else
        { outcome := .done left cursor, below := Nat.lt_succ_self _ }
  | .term =>
      (descend .unary cursor).andThen fun value next below =>
        (descend (.termTail value) next).loosen below
  | .termTail left =>
      if waiting : cursor.lookahead.isAmong Operator.multiplicative then
        ((Bounded.take cursor waiting).andThen fun operator next below =>
          ((descend .unary next).loosen below).andThen fun right next below =>
            (Bounded.ofExcept next below (operator.combine left right)).andThen
              fun value next below =>
                (descend (.termTail value) next).loosen below).loosen (Nat.le_succ _)
      else
        { outcome := .done left cursor, below := Nat.lt_succ_self _ }
  | .unary =>
      if waiting : cursor.lookahead.isAmong Operator.additive then
        ((Bounded.take cursor waiting).andThen fun sign next below =>
          ((descend .factor next).loosen below).andThen fun value next below =>
            Bounded.ofExcept next below (sign.combine .zero value)).loosen (Nat.le_succ _)
      else
        descend .factor cursor
  | .factor =>
      if waiting : cursor.lookahead.isNumber then
        { outcome := cursor.takeNumber
          below := Nat.lt_succ_of_lt (Cursor.take_number_remaining waiting) }
      else
        descend .group cursor
  | .group =>
      if waiting : cursor.lookahead.isAmong [.openParen] then
        ((Bounded.enter cursor waiting).andThen fun _ next below =>
          ((descend .expression next).loosen below).andThen fun value next below =>
            (Bounded.step next below Cursor.closeGroup (Cursor.expect_remaining _ _ _)).map
              fun _ => value).loosen (Nat.le_succ _)
      else if waiting : cursor.lookahead.isAmong Operator.unaryFunctions then
        ((Bounded.take cursor waiting).andThen fun function next below =>
          (Bounded.step next below Cursor.openGroup (Cursor.open_group_remaining _)).andThen
            fun _ next below =>
          ((descend .expression next).loosen below).andThen fun argument next below =>
          (Bounded.step next below Cursor.closeGroup (Cursor.expect_remaining _ _ _)).andThen
            fun _ next below =>
          Bounded.ofExcept next below (function.applyUnary argument)).loosen (Nat.le_succ _)
      else if waiting : cursor.lookahead.isAmong Operator.binaryFunctions then
        ((Bounded.take cursor waiting).andThen fun function next below =>
          (Bounded.step next below Cursor.openGroup (Cursor.open_group_remaining _)).andThen
            fun _ next below =>
          ((descend .expression next).loosen below).andThen fun first next below =>
          (Bounded.step next below Cursor.nextParameter (Cursor.expect_remaining _ _ _)).andThen
            fun _ next below =>
          ((descend .expression next).loosen below).andThen fun second next below =>
          (Bounded.step next below Cursor.closeGroup (Cursor.expect_remaining _ _ _)).andThen
            fun _ next below =>
          Bounded.ofExcept next below (function.applyBinary first second)).loosen (Nat.le_succ _)
      else
        { outcome := .failed .numberExpected cursor, below := Nat.lt_succ_self _ }
termination_by 5 * cursor.remaining + rule.rank
decreasing_by all_goals simp only [Rule.rank]; omega

def parse (rule : Rule) (cursor : Cursor) : Outcome Binary64 :=
  (descend rule cursor).outcome

theorem parse_expression (cursor : Cursor) :
    parse .expression cursor =
      (parse .term cursor).andThen fun value next => parse (.expressionTail value) next := by
  rw [parse, descend]
  exact Bounded.outcome_and_then _ _ _ fun _ _ _ => rfl

theorem parse_expression_tail (left : Binary64) (cursor : Cursor) :
    parse (.expressionTail left) cursor =
      if cursor.lookahead.isAmong Operator.additive then
        cursor.takeOperator.andThen fun operator next =>
          (parse .term next).andThen fun right next =>
            (Outcome.ofExcept next (operator.combine left right)).andThen fun value next =>
              parse (.expressionTail value) next
      else
        .done left cursor := by
  rw [parse, descend]
  split
  · rw [Bounded.outcome_loosen]
    refine Bounded.outcome_and_then _ _ _ fun _ _ _ => ?_
    refine Bounded.outcome_and_then _ _ _ fun _ _ _ => ?_
    refine Bounded.outcome_and_then _ _ _ fun _ _ _ => ?_
    rfl
  · rfl

theorem parse_term (cursor : Cursor) :
    parse .term cursor =
      (parse .unary cursor).andThen fun value next => parse (.termTail value) next := by
  rw [parse, descend]
  exact Bounded.outcome_and_then _ _ _ fun _ _ _ => rfl

theorem parse_term_tail (left : Binary64) (cursor : Cursor) :
    parse (.termTail left) cursor =
      if cursor.lookahead.isAmong Operator.multiplicative then
        cursor.takeOperator.andThen fun operator next =>
          (parse .unary next).andThen fun right next =>
            (Outcome.ofExcept next (operator.combine left right)).andThen fun value next =>
              parse (.termTail value) next
      else
        .done left cursor := by
  rw [parse, descend]
  split
  · rw [Bounded.outcome_loosen]
    refine Bounded.outcome_and_then _ _ _ fun _ _ _ => ?_
    refine Bounded.outcome_and_then _ _ _ fun _ _ _ => ?_
    refine Bounded.outcome_and_then _ _ _ fun _ _ _ => ?_
    rfl
  · rfl

theorem parse_unary (cursor : Cursor) :
    parse .unary cursor =
      if cursor.lookahead.isAmong Operator.additive then
        cursor.takeOperator.andThen fun sign next =>
          (parse .factor next).andThen fun value next =>
            Outcome.ofExcept next (sign.combine .zero value)
      else
        parse .factor cursor := by
  rw [parse, descend]
  split
  · rw [Bounded.outcome_loosen]
    refine Bounded.outcome_and_then _ _ _ fun _ _ _ => ?_
    refine Bounded.outcome_and_then _ _ _ fun _ _ _ => ?_
    rfl
  · rfl

theorem parse_factor (cursor : Cursor) :
    parse .factor cursor =
      if cursor.lookahead.isNumber then cursor.takeNumber else parse .group cursor := by
  rw [parse, descend]
  split <;> rfl

theorem parse_group (cursor : Cursor) :
    parse .group cursor =
      if cursor.lookahead.isAmong [.openParen] then
        cursor.openGroup.andThen fun _ next =>
          (parse .expression next).andThen fun value next =>
            next.closeGroup.map fun _ => value
      else if cursor.lookahead.isAmong Operator.unaryFunctions then
        cursor.takeOperator.andThen fun function next =>
          next.openGroup.andThen fun _ next =>
            (parse .expression next).andThen fun argument next =>
              next.closeGroup.andThen fun _ next =>
                Outcome.ofExcept next (function.applyUnary argument)
      else if cursor.lookahead.isAmong Operator.binaryFunctions then
        cursor.takeOperator.andThen fun function next =>
          next.openGroup.andThen fun _ next =>
            (parse .expression next).andThen fun first next =>
              next.nextParameter.andThen fun _ next =>
                (parse .expression next).andThen fun second next =>
                  next.closeGroup.andThen fun _ next =>
                    Outcome.ofExcept next (function.applyBinary first second)
      else
        .failed .numberExpected cursor := by
  rw [parse, descend]
  split
  · rw [Bounded.outcome_loosen]
    refine Bounded.outcome_and_then _ _ _ fun _ _ _ => ?_
    refine Bounded.outcome_and_then _ _ _ fun _ _ _ => ?_
    rfl
  split
  · rw [Bounded.outcome_loosen]
    refine Bounded.outcome_and_then _ _ _ fun _ _ _ => ?_
    refine Bounded.outcome_and_then _ _ _ fun _ _ _ => ?_
    refine Bounded.outcome_and_then _ _ _ fun _ _ _ => ?_
    refine Bounded.outcome_and_then _ _ _ fun _ _ _ => ?_
    rfl
  split
  · rw [Bounded.outcome_loosen]
    refine Bounded.outcome_and_then _ _ _ fun _ _ _ => ?_
    refine Bounded.outcome_and_then _ _ _ fun _ _ _ => ?_
    refine Bounded.outcome_and_then _ _ _ fun _ _ _ => ?_
    refine Bounded.outcome_and_then _ _ _ fun _ _ _ => ?_
    refine Bounded.outcome_and_then _ _ _ fun _ _ _ => ?_
    refine Bounded.outcome_and_then _ _ _ fun _ _ _ => ?_
    rfl
  · rfl

def parseGroup? (cursor : Cursor) : Outcome (Option Binary64) :=
  if cursor.lookahead.isAmong (.openParen :: Operator.unaryFunctions ++ Operator.binaryFunctions) then
    (parse .group cursor).map some
  else
    .done none cursor

end Calculator
