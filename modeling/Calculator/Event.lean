import Calculator.Token
import Calculator.Fault
import Calculator.Text.Quoted

/-!
# The event log

What an evaluation reports of its course: the text it starts from, each token as it is scanned, a token
left over behind a complete expression, and how it ended. Texts of the source are quoted, so that an
event keeps to one line whatever the source holds.
-/

set_option autoImplicit false

namespace Calculator

inductive Level where
  | warn
  | info
  | debug
  | trace
  deriving DecidableEq

namespace Level

def rank : Level → Nat
  | warn => 0
  | info => 1
  | debug => 2
  | trace => 3

def label : Level → String
  | warn => "WARN"
  | info => "INFO"
  | debug => "DEBUG"
  | trace => "TRACE"

def ofVerbosity : Nat → Level
  | 0 => warn
  | 1 => info
  | 2 => debug
  | _ => trace

end Level

/-- The bytes of a scanned token run from `start` to below `stop`. -/
inductive Event where
  | evaluating (source : String)
  | scanned (token : Token) (start stop : Nat)
  | trailingInput (text : String)
  | evaluated (source : String) (value : Binary64)
  | failed (source : String) (fault : Fault)
  deriving DecidableEq

namespace Event

def level : Event → Level
  | scanned _ _ _ => .trace
  | _ => .debug

def target : Event → String
  | scanned _ _ _ => "calcdescent::interpreter::tokenizer"
  | trailingInput _ => "calcdescent::interpreter::parser::core"
  | _ => "calcdescent"

def tokenText : Token → String
  | .number value => "Number(" ++ value.loggedText ++ ")"
  | .symbol operator => "Operator(" ++ operator.name ++ ")"
  | .finish => "End"

def message : Event → String
  | evaluating source => "evaluating " ++ Text.quoted source
  | scanned token start stop =>
      "token " ++ tokenText token ++ " at " ++ Nat.repr start ++ ".." ++ Nat.repr stop
  | trailingInput text => "trailing input starting at " ++ Text.quoted text
  | evaluated source value => Text.quoted source ++ " evaluated to " ++ value.plainText
  | failed source fault => Text.quoted source ++ " failed: " ++ fault.message

def lineWith (event : Event) (message : String) : String :=
  event.level.label ++ " " ++ event.target ++ ": " ++ message

def line (event : Event) : String :=
  event.lineWith event.message

end Event

end Calculator
