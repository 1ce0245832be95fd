import Calculator.Lexeme
import Calculator.Binary64.Text

/-!
# Tokens

A token is what a lexeme means. A numeral means the double nearest to it, a word one of the function
names, a mark itself. A run that means nothing has no token: two points in a numeral, a point without a
digit, or an unknown word.
-/

set_option autoImplicit false

namespace Calculator

/-- `finish` stands behind the last lexeme of every source. -/
inductive Token where
  | number (value : Binary64)
  | symbol (operator : Operator)
  | finish
  deriving DecidableEq

namespace Token

def text : Token → String
  | number value => value.plainText
  | symbol operator => operator.symbol
  | finish => "end of input"

def isNumber : Token → Bool
  | number _ => true
  | _ => false

def isFinish : Token → Bool
  | finish => true
  | _ => false

def isAmong (candidates : List Operator) : Token → Bool
  | symbol operator => candidates.contains operator
  | _ => false

def ofLexeme? (lexeme : Lexeme) : Option Token :=
  match lexeme.kind with
  | .numeral => (Decimal.read? lexeme.text.toList).map fun decimal => .number decimal.nearest
  | .word => (Operator.ofSymbol? lexeme.text).map .symbol
  | .mark operator => some (.symbol operator)

end Token

end Calculator
