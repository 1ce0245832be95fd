import Calculator.Text.Backspace

/-!
# Lines of input

Input is bytes. A line ends behind a newline or at the end of the input, and an empty rest is no line.
A carriage return before the newline belongs to the line end. Whether a line is text is decided for each
line by itself, and backspaces in it are carried out before it is read. Both steps can fail.
-/

set_option autoImplicit false

namespace Calculator

/-- The bytes before the newline, and whether there was one. -/
structure InputLine where
  bytes : List UInt8
  terminated : Bool
  deriving DecidableEq

/-- Why a line cannot be read. A line editor that is left with a part of a character crashes and has no message
of its own; `splitCharacter` and its wording stand for the crash. -/
inductive InputFault where
  | notText
  | splitCharacter
  deriving DecidableEq

def InputFault.message : InputFault → String
  | .notText => "stream did not contain valid UTF-8"
  | .splitCharacter => "a backspace splits a character"

namespace InputLine

def newline : UInt8 := 10

def carriageReturn : UInt8 := 13

def split : List UInt8 → List InputLine
  | [] => []
  | byte :: rest =>
      if byte = newline then
        { bytes := [], terminated := true } :: split rest
      else
        match split rest with
        | [] => [{ bytes := [byte], terminated := false }]
        | line :: lines => { line with bytes := byte :: line.bytes } :: lines

def content (line : InputLine) : List UInt8 :=
  if line.terminated && line.bytes.getLast? == some carriageReturn then
    line.bytes.dropLast
  else
    line.bytes

def text (line : InputLine) : Except InputFault String :=
  match String.fromUTF8? (ByteArray.mk line.content.toArray) with
  | none => .error .notText
  | some typed =>
      match Text.applyBackspaces? typed with
      | none => .error .splitCharacter
      | some text => .ok text

end InputLine

end Calculator
