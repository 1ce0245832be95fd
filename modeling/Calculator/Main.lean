import Calculator.Run

/-!
# The program

The arguments decide what is done. Only the prompt reads standard input, and it answers each line before
it reads the next. What is written is decided in `Calculator.Run`.
-/

set_option autoImplicit false

namespace Calculator

def writeOutput (level : Level) (output : Output) : IO Unit := do
  if let some line := output.stdout? then
    IO.println line
  if let some line := output.stderr? level then
    IO.eprintln line

/-- Reads byte by byte to the end of a line; nothing when the input has ended. -/
partial def readLine (stream : IO.FS.Stream) (sofar : List UInt8) : IO (Option InputLine) := do
  match (← stream.read 1).toList with
  | byte :: _ =>
      if byte = InputLine.newline then
        return some { bytes := sofar.reverse, terminated := true }
      readLine stream (byte :: sofar)
  | [] =>
      return if sofar.isEmpty then none else some { bytes := sofar.reverse, terminated := false }

partial def prompt (level : Level) (stream : IO.FS.Stream) : IO UInt32 := do
  match (← readLine stream []) with
  | none => return 0
  | some line =>
      match Run.reply line with
      | .goOn outputs =>
          outputs.forM (writeOutput level)
          prompt level stream
      | .stop run =>
          run.outputs.forM (writeOutput level)
          return run.status.toUInt32

def runProgram (arguments : List String) : IO UInt32 := do
  let request := Request.ofArguments arguments
  let level := Run.levelOf request
  match request with
  | .run { expression := none, .. } =>
      (Run.ofRequest request []).outputs.forM (writeOutput level)
      prompt level (← IO.getStdin)
  | _ =>
      let run := Run.ofRequest request []
      run.outputs.forM (writeOutput level)
      return run.status.toUInt32

end Calculator

def main (arguments : List String) : IO UInt32 :=
  Calculator.runProgram arguments
