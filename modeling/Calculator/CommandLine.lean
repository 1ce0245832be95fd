/-!
# The command line

Arguments are read from left to right, and the first that decides ends the reading: a request for help
or for the version, or a fault of usage. Short options may be joined behind one dash; an option takes no
value. Behind two dashes every argument is an expression, and there is at most one.
-/

set_option autoImplicit false

namespace Calculator

/-- Without an expression the prompt is started. -/
structure Options where
  verbosity : Nat
  helpBanner : Bool
  expression : Option String
  deriving DecidableEq

inductive Request where
  | help
  | version
  | usageFault
  | run (options : Options)
  deriving DecidableEq

namespace Options

def initial : Options where
  verbosity := 0
  helpBanner := true
  expression := none

/-- Further requests beyond this many change nothing. -/
def verbosityLimit : Nat := 255

def moreVerbose (options : Options) : Options :=
  { options with verbosity := min (options.verbosity + 1) verbosityLimit }

/-- The banner can be left out once. -/
def withoutBanner (options : Options) : Except Request Options :=
  if options.helpBanner then .ok { options with helpBanner := false } else .error .usageFault

def withExpression (options : Options) (expression : String) : Except Request Options :=
  match options.expression with
  | none => .ok { options with expression := some expression }
  | some _ => .error .usageFault

def readLong (options : Options) (name : String) : Except Request Options :=
  if name = "help" then .error .help
  else if name = "version" then .error .version
  else if name = "verbose" then .ok options.moreVerbose
  else if name = "no-help-banner" then options.withoutBanner
  else .error .usageFault

def readShort (options : Options) : List Char → Except Request Options
  | [] => .ok options
  | 'v' :: rest => options.moreVerbose.readShort rest
  | 'h' :: _ => .error .help
  | 'V' :: _ => .error .version
  | _ => .error .usageFault

/-- A lone dash and an empty argument are expressions. -/
def readArgument (options : Options) (argument : String) : Except Request Options :=
  match argument.toList with
  | '-' :: '-' :: name => options.readLong (String.ofList name)
  | '-' :: first :: rest => options.readShort (first :: rest)
  | _ => options.withExpression argument

def readExpressions (options : Options) : List String → Request
  | [] => .run options
  | argument :: rest =>
      match options.withExpression argument with
      | .ok options => options.readExpressions rest
      | .error request => request

def read (options : Options) : List String → Request
  | [] => .run options
  | argument :: rest =>
      if argument = "--" then
        options.readExpressions rest
      else
        match options.readArgument argument with
        | .ok options => options.read rest
        | .error request => request

end Options

namespace Request

def ofArguments (arguments : List String) : Request :=
  Options.initial.read arguments

end Request

def versionText : String := "calcdescent 0.1.0"

def usageText : String := "Usage: calcdescent [OPTIONS] [EXPRESSION]"

def optionsText : String :=
  "An interactive arithmetic expression evaluator built on a recursive-descent parser.\n\n" ++
    usageText ++ "\n\n" ++
    "Arguments:\n" ++
    "  [EXPRESSION]  Evaluates this expression once and exits instead of starting the prompt\n\n" ++
    "Options:\n" ++
    "  -v, --verbose...      " ++
    "Increases log output on stderr (-v info, -vv debug, -vvv trace)\n" ++
    "      --no-help-banner  " ++
    "Skips the help text normally printed when the prompt starts\n" ++
    "  -h, --help            Print help\n" ++
    "  -V, --version         Print version"

end Calculator
