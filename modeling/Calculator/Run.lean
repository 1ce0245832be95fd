import Calculator.CommandLine
import Calculator.Command
import Calculator.Evaluation
import Calculator.InputLine
import Calculator.Text.Sanitized

/-!
# Runs of the program

A run is what the program writes, in order, and the status it ends with. Which events are shown depends
on the verbosity and is decided last: the course of a run is the same at every level.
-/

set_option autoImplicit false

namespace Calculator

/-- `answer` is a line of standard output and `complaint` a line of standard error. -/
inductive Output where
  | answer (line : String)
  | complaint (line : String)
  | logged (event : Event)
  deriving DecidableEq

structure Run where
  outputs : List Output
  status : Nat
  deriving DecidableEq

namespace Output

def stdout? : Output → Option String
  | answer line => some line
  | _ => none

/-- The lines of standard error at a level; the text of an event is made safe for a terminal. -/
def stderr? (level : Level) : Output → Option String
  | answer _ => none
  | complaint line => some line
  | logged event =>
      if event.level.rank ≤ level.rank then
        some (event.lineWith (Text.sanitized event.message))
      else
        none

end Output

namespace Run

def precededBy (run : Run) (outputs : List Output) : Run :=
  { run with outputs := outputs ++ run.outputs }

def ofExpression (expression : String) : Run :=
  let evaluation := Evaluation.ofExpression expression
  let events := evaluation.events.map Output.logged
  match evaluation.result with
  | .ok value => { outputs := events ++ [.answer value.resultText], status := 0 }
  | .error fault => { outputs := events ++ [.complaint fault.message], status := 1 }

def answerLine : Except Fault Binary64 → String
  | .ok value => "== " ++ value.resultText
  | .error fault => "!! " ++ fault.message

def respond : Command → List Output
  | .empty => []
  | .quit => []
  | .help => [.answer Command.helpText]
  | .evaluate expression =>
      let evaluation := Evaluation.ofExpression expression
      evaluation.events.map Output.logged ++ [.answer (answerLine evaluation.result)]

/-- A line that is not text is refused. One whose backspaces split a character crashes the program, and what is
written and the status stand for the crash. -/
def ofInputFault (fault : InputFault) : Run :=
  { outputs := [.complaint ("Failed to read input: " ++ fault.message)]
    status := match fault with
      | .notText => 1
      | .splitCharacter => 101 }

/-- What a line does at the prompt: the prompt writes something and goes on, or the run ends. -/
inductive Reply where
  | goOn (outputs : List Output)
  | stop (run : Run)
  deriving DecidableEq

def reply (line : InputLine) : Reply :=
  match line.text with
  | .error fault => .stop (ofInputFault fault)
  | .ok text =>
      match Command.ofLine text with
      | .quit => .stop { outputs := [], status := 0 }
      | command => .goOn (respond command)

def ofLines : List InputLine → Run
  | [] => { outputs := [], status := 0 }
  | line :: lines =>
      match reply line with
      | .goOn outputs => (ofLines lines).precededBy outputs
      | .stop run => run

def greeting (options : Options) : List Output :=
  if options.helpBanner then [.answer Command.helpText] else []

def ofOptions (options : Options) (input : List UInt8) : Run :=
  match options.expression with
  | some expression => ofExpression expression
  | none =>
      (ofLines (InputLine.split input)).precededBy (greeting options)

def ofRequest (request : Request) (input : List UInt8) : Run :=
  match request with
  | .help => { outputs := [.answer optionsText], status := 0 }
  | .version => { outputs := [.answer versionText], status := 0 }
  | .usageFault => { outputs := [.complaint usageText], status := 2 }
  | .run options => ofOptions options input

/-- Only a request to evaluate has a verbosity. -/
def levelOf : Request → Level
  | .run options => .ofVerbosity options.verbosity
  | _ => .warn

def linesText (lines : List String) : String :=
  String.join (lines.map fun line => line ++ "\n")

def stdout (run : Run) : String :=
  linesText (run.outputs.filterMap Output.stdout?)

def stderr (run : Run) (level : Level) : String :=
  linesText (run.outputs.filterMap (Output.stderr? level))

end Run

end Calculator
