import Calculator.Event

/-!
# The cursor over a source

A cursor stands before one token, the look-ahead, and has not yet looked at the lexemes behind it.
Taking the look-ahead scans one lexeme more. When that lexeme has no token the step fails, the
look-ahead stays where it was, and the lexeme is gone: a second attempt takes the same token again and
goes on behind the bad run.

`remaining` counts what is left. A step that takes the kind of token it was asked for lowers it, also
when it fails; any other step leaves the cursor as it is.
-/

set_option autoImplicit false

namespace Calculator

/-- `text` is the look-ahead as written, `openGroups` the parentheses taken and not yet closed, and
`log` what was reported so far, the latest first. -/
structure Cursor where
  lookahead : Token
  text : String
  openGroups : Nat
  pending : List Lexeme
  log : List Event
  deriving DecidableEq

/-- What a step over a source answers. A fault leaves the cursor where the step stopped. -/
inductive Outcome (α : Type) where
  | done (answer : α) (cursor : Cursor)
  | failed (fault : Fault) (cursor : Cursor)
  deriving DecidableEq

namespace Outcome

variable {α β : Type}

def cursor : Outcome α → Cursor
  | done _ cursor => cursor
  | failed _ cursor => cursor

def andThen (outcome : Outcome α) (next : α → Cursor → Outcome β) : Outcome β :=
  match outcome with
  | done answer cursor => next answer cursor
  | failed fault cursor => failed fault cursor

def map (change : α → β) (outcome : Outcome α) : Outcome β :=
  outcome.andThen fun answer cursor => done (change answer) cursor

def toExcept : Outcome α → Except Fault α
  | done answer _ => .ok answer
  | failed fault _ => .error fault

def ofExcept (cursor : Cursor) : Except Fault α → Outcome α
  | .ok answer => done answer cursor
  | .error fault => failed fault cursor

theorem cursor_map (change : α → β) (outcome : Outcome α) :
    (outcome.map change).cursor = outcome.cursor := by
  cases outcome <;> rfl

theorem cursor_of_except (cursor : Cursor) (result : Except Fault α) :
    (ofExcept cursor result).cursor = cursor := by
  cases result <;> rfl

end Outcome

namespace Cursor

def ofSource (source : String) : Cursor where
  lookahead := .finish
  text := ""
  openGroups := 0
  pending := Lexeme.ofSource source
  log := []

/-- Scans the next lexeme into the look-ahead; behind the last lexeme the source is finished. -/
def advance (cursor : Cursor) : Outcome Unit :=
  match cursor.pending with
  | [] => .done () { cursor with lookahead := .finish, text := "" }
  | lexeme :: pending =>
      match Token.ofLexeme? lexeme with
      | none => .failed (.unknownOperator lexeme.text) { cursor with pending }
      | some token =>
          .done ()
            { cursor with
              lookahead := token
              text := lexeme.text
              pending
              log := .scanned token lexeme.start lexeme.stop :: cursor.log }

def openSource (source : String) : Outcome Unit :=
  (ofSource source).advance

def countGroup (cursor : Cursor) (operator : Operator) : Cursor :=
  { cursor with openGroups := operator.groupsAfter cursor.openGroups }

def takeNumber (cursor : Cursor) : Outcome Binary64 :=
  match cursor.lookahead with
  | .number value => cursor.advance.map fun _ => value
  | _ => .failed .numberExpected cursor

/-- The group is counted before the next lexeme is scanned, so it counts also when that fails. -/
def takeOperator (cursor : Cursor) : Outcome Operator :=
  match cursor.lookahead with
  | .symbol operator => (cursor.countGroup operator).advance.map fun _ => operator
  | token => .failed (.unexpectedToken token.text) cursor

/-- The lexemes not yet scanned, and one more for a look-ahead that can still be taken. -/
def remaining (cursor : Cursor) : Nat :=
  cursor.pending.length + if cursor.lookahead.isFinish then 0 else 1

theorem remaining_le (cursor : Cursor) : cursor.remaining ≤ cursor.pending.length + 1 := by
  simp only [remaining]
  cases cursor.lookahead.isFinish <;> simp

theorem remaining_of_waiting (cursor : Cursor) (waiting : cursor.lookahead.isFinish = false) :
    cursor.remaining = cursor.pending.length + 1 := by
  simp [remaining, waiting]

theorem advance_remaining (cursor : Cursor) :
    cursor.advance.cursor.remaining ≤ cursor.pending.length := by
  simp only [advance]
  cases pending : cursor.pending with
  | nil => simp [Outcome.cursor, remaining, Token.isFinish]
  | cons lexeme rest =>
      simp only [List.length_cons]
      cases Token.ofLexeme? lexeme with
      | none => exact remaining_le _
      | some token => exact remaining_le _

theorem take_number_remaining {cursor : Cursor} (waiting : cursor.lookahead.isNumber = true) :
    cursor.takeNumber.cursor.remaining < cursor.remaining := by
  cases token : cursor.lookahead with
  | number value =>
      rw [remaining_of_waiting cursor (by rw [token]; rfl)]
      simp only [takeNumber, token, Outcome.cursor_map]
      exact Nat.lt_succ_of_le (advance_remaining cursor)
  | symbol operator => simp [token, Token.isNumber] at waiting
  | finish => simp [token, Token.isNumber] at waiting

theorem take_operator_remaining {cursor : Cursor} {candidates : List Operator}
    (waiting : cursor.lookahead.isAmong candidates = true) :
    cursor.takeOperator.cursor.remaining < cursor.remaining := by
  cases token : cursor.lookahead with
  | number value => simp [token, Token.isAmong] at waiting
  | symbol operator =>
      rw [remaining_of_waiting cursor (by rw [token]; rfl)]
      simp only [takeOperator, token, Outcome.cursor_map]
      exact Nat.lt_succ_of_le (advance_remaining (cursor.countGroup operator))
  | finish => simp [token, Token.isAmong] at waiting

end Cursor

end Calculator
