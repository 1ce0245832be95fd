/-!
# Faults

Why an expression has no value. Each cause is one constructor and its wording stands in `message`
alone. A text carried by a fault is the text of the source as written, not the way a token is printed.
-/

set_option autoImplicit false

namespace Calculator

inductive Fault where
  | unknownOperator (text : String)
  | unclosedParenthesis
  | numberExpected
  | secondParameterExpected
  | parenthesizedEquationExpected
  | integerExpected
  | nestingTooDeep (limit : Nat)
  | unexpectedToken (text : String)
  deriving DecidableEq

namespace Fault

def quote (text : String) : String :=
  "\"" ++ text ++ "\""

def message : Fault → String
  | unknownOperator text => "Semantic error: unknown operator " ++ quote text ++ "."
  | unclosedParenthesis => "Syntax error: unclosed parenthesis."
  | numberExpected => "Syntax error: number expected."
  | secondParameterExpected => "Syntax error: second parameter expected."
  | parenthesizedEquationExpected => "Syntax error: parenthesized equation expected."
  | integerExpected => "Syntax error: integer expected."
  | nestingTooDeep limit =>
      "Syntax error: parentheses nested too deeply (limit " ++ Nat.repr limit ++ ")."
  | unexpectedToken text => "Syntax error: unexpected token " ++ quote text ++ "."

/-- Whether the fault lies in a single run of the text and not in how the tokens stand together. -/
def isLexical : Fault → Bool
  | unknownOperator _ => true
  | _ => false

end Fault

end Calculator
