/-!
# Text made safe for a terminal

Characters that a terminal could take for the start of a command are written out: five controls by two
hexadecimal digits, and the controls from 0x80 to 0x9f by their number in braces. Every other character
stays as it is.
-/

set_option autoImplicit false

namespace Calculator.Text

def sanitize (character : Char) : List Char :=
  match character with
  | '\x07' => ['\\', 'x', '0', '7']
  | '\x08' => ['\\', 'x', '0', '8']
  | '\x0c' => ['\\', 'x', '0', 'c']
  | '\x1b' => ['\\', 'x', '1', 'b']
  | '\x7f' => ['\\', 'x', '7', 'f']
  | _ =>
      if 0x80 ≤ character.toNat ∧ character.toNat ≤ 0x9f then
        ['\\', 'u', '\x7b'] ++ Nat.toDigits 16 character.toNat ++ ['\x7d']
      else
        [character]

def sanitized (text : String) : String :=
  String.ofList (text.toList.flatMap sanitize)

end Calculator.Text
