/-!
# Operators and function names

The thirteen symbols the calculator knows. Eight of them are marks, one character each; the other five
are function names. What an operator does to values stands in `Calculator.Operation`, and where it may
stand in an expression in `Calculator.Descent`.
-/

set_option autoImplicit false

namespace Calculator

inductive Operator where
  | plus
  | minus
  | times
  | divide
  | remainder
  | openParen
  | closeParen
  | comma
  | sqrt
  | lg
  | fact
  | pow
  | log
  deriving DecidableEq

namespace Operator

def symbol : Operator → String
  | plus => "+"
  | minus => "-"
  | times => "*"
  | divide => "/"
  | remainder => "%"
  | openParen => "("
  | closeParen => ")"
  | comma => ","
  | sqrt => "sqrt"
  | lg => "lg"
  | fact => "fact"
  | pow => "pow"
  | log => "log"

def name : Operator → String
  | plus => "Plus"
  | minus => "Minus"
  | times => "Multiply"
  | divide => "Divide"
  | remainder => "Remainder"
  | openParen => "ParenOpen"
  | closeParen => "ParenClose"
  | comma => "Comma"
  | sqrt => "Sqrt"
  | lg => "Lg"
  | fact => "Fact"
  | pow => "Pow"
  | log => "Log"

def all : List Operator :=
  [plus, minus, times, divide, remainder, openParen, closeParen, comma, sqrt, lg, fact, pow, log]

def additive : List Operator :=
  [plus, minus]

def multiplicative : List Operator :=
  [times, divide, remainder]

def unaryFunctions : List Operator :=
  [sqrt, lg, fact]

def binaryFunctions : List Operator :=
  [pow, log]

/-- Symbols are compared exactly, so `Sqrt` names nothing. -/
def ofSymbol? (text : String) : Option Operator :=
  all.find? fun operator => operator.symbol = text

def ofMark? : Char → Option Operator
  | '+' => some plus
  | '-' => some minus
  | '*' => some times
  | '/' => some divide
  | '%' => some remainder
  | '(' => some openParen
  | ')' => some closeParen
  | ',' => some comma
  | _ => none

/-- The open groups behind an operator; a closing parenthesis without one closes nothing. -/
def groupsAfter (operator : Operator) (openGroups : Nat) : Nat :=
  match operator with
  | openParen => openGroups + 1
  | closeParen => openGroups - 1
  | _ => openGroups

theorem of_symbol_symbol (operator : Operator) : ofSymbol? operator.symbol = some operator := by
  cases operator <;> decide +kernel

theorem symbol_of_of_symbol {text : String} {operator : Operator}
    (known : ofSymbol? text = some operator) : operator.symbol = text := by
  simpa using List.find?_some known

end Operator

end Calculator
