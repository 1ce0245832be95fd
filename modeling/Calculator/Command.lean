import Calculator.Text.Lowercase
import Calculator.Text.Whitespace

/-!
# Commands

What a line at the prompt asks for. White space and case do not matter: a line is stripped and lowered
before it is looked at, and an expression is evaluated in that form.
-/

set_option autoImplicit false

namespace Calculator

inductive Command where
  | empty
  | help
  | quit
  | evaluate (expression : String)
  deriving DecidableEq

namespace Command

def ofLine (line : String) : Command :=
  let normalized := Text.lowercase (Text.stripWhitespace line)
  if normalized = "" then .empty
  else if normalized = "help" then .help
  else if normalized = "quit" then .quit
  else .evaluate normalized

def helpText : String :=
  "options: help, quit; available operators: + - * / % ( )\n" ++
    "functions: sqrt(x), lg(x), fact(int), pow(base,power), log(base,value)"

end Command

end Calculator
