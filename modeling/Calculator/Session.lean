import Calculator.Evaluation

/-!
# Sessions over a cursor

A session asks one thing after another of a cursor, and a fault does not end it. The steps are all the
ways in which a cursor moves: taking a token of either kind, and reading one rule of the grammar.
-/

set_option autoImplicit false

namespace Calculator

namespace Session

inductive Step where
  | takeNumber
  | takeOperator
  | parseAll
  | parse (rule : Rule)
  | parseGroup
  deriving DecidableEq

/-- `noGroup` says that no group starts at the cursor. -/
inductive Answer where
  | number (value : Binary64)
  | operator (operator : Operator)
  | noGroup
  deriving DecidableEq

def Step.run (step : Step) (cursor : Cursor) : Outcome Answer :=
  match step with
  | .takeNumber => cursor.takeNumber.map .number
  | .takeOperator => cursor.takeOperator.map .operator
  | .parseAll => (Calculator.parseAll cursor).map .number
  | .parse rule => (Calculator.parse rule cursor).map .number
  | .parseGroup =>
      (parseGroup? cursor).map fun group? =>
        match group? with
        | some value => .number value
        | none => .noGroup

def perform (cursor : Cursor) : List Step → List (Outcome Answer)
  | [] => []
  | step :: steps =>
      let outcome := step.run cursor
      outcome :: perform outcome.cursor steps

def fitting (token : Token) : Step :=
  if token.isNumber then .takeNumber else .takeOperator

theorem fitting_remaining {cursor : Cursor} (waiting : cursor.lookahead.isFinish = false) :
    ((fitting cursor.lookahead).run cursor).cursor.remaining < cursor.remaining := by
  cases token : cursor.lookahead with
  | number value =>
      simp only [fitting, Token.isNumber, if_true, Step.run, Outcome.cursor_map]
      exact Cursor.take_number_remaining (by rw [token]; rfl)
  | symbol operator =>
      simp only [fitting, Token.isNumber, Bool.false_eq_true, if_false, Step.run,
        Outcome.cursor_map]
      exact @Cursor.take_operator_remaining cursor [operator] (by simp [token, Token.isAmong])
  | finish => simp [token, Token.isFinish] at waiting

/-- Takes every token to the end, each with its text as written. A fault ends the list. -/
def drain (cursor : Cursor) : List (Token × String) × Option Fault :=
  if waiting : cursor.lookahead.isFinish = true then
    ([], none)
  else
    have falls := fitting_remaining (Bool.eq_false_iff.mpr waiting)
    match outcome : (fitting cursor.lookahead).run cursor with
    | .done _ next =>
        have : next.remaining < cursor.remaining := by rw [outcome] at falls; exact falls
        let (tokens, fault?) := drain next
        ((cursor.lookahead, cursor.text) :: tokens, fault?)
    | .failed fault _ => ([(cursor.lookahead, cursor.text)], some fault)
termination_by cursor.remaining

def tokensOf (source : String) : List (Token × String) × Option Fault :=
  match Cursor.openSource source with
  | .done _ cursor => drain cursor
  | .failed fault _ => ([], some fault)

end Session

end Calculator
