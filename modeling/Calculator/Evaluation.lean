import Calculator.Descent
import Calculator.Text.Whitespace

/-!
# Evaluation

An expression is stripped of white space, read to its end, and has either a value or a fault. What was
reported on the way goes with the result and never decides it.
-/

set_option autoImplicit false

namespace Calculator

namespace Cursor

/-- A complete expression takes the whole source; what is left over is named as written. -/
def finish (value : Binary64) (cursor : Cursor) : Outcome Binary64 :=
  if cursor.lookahead.isFinish then
    .done value cursor
  else
    .failed (.unexpectedToken cursor.text) { cursor with log := .trailingInput cursor.text :: cursor.log }

end Cursor

def parseAll (cursor : Cursor) : Outcome Binary64 :=
  (parse .expression cursor).andThen Cursor.finish

/-- Reads a source that holds no white space. The outcome shows the cursor where the reading stopped. -/
def readSource (source : String) : Outcome Binary64 :=
  (Cursor.openSource source).andThen fun _ cursor => parseAll cursor

structure Evaluation where
  events : List Event
  result : Except Fault Binary64

namespace Evaluation

def lastEvent (source : String) : Except Fault Binary64 → Event
  | .ok value => .evaluated source value
  | .error fault => .failed source fault

def ofSource (source : String) : Evaluation :=
  let outcome := readSource source
  let result := outcome.toExcept
  { events := .evaluating source :: outcome.cursor.log.reverse ++ [lastEvent source result]
    result }

def ofExpression (expression : String) : Evaluation :=
  ofSource (Text.stripWhitespace expression)

end Evaluation

def evaluate (expression : String) : Except Fault Binary64 :=
  (Evaluation.ofExpression expression).result

end Calculator
