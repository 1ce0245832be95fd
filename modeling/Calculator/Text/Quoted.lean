import Calculator.Text.Unprintable

/-!
# Quoted text

A text between quotation marks in which every character can be seen: the mark itself and the backslash
are preceded by a backslash, four controls have a letter of their own, and every other unprintable
character is written by its number.
-/

set_option autoImplicit false

namespace Calculator.Text

def numbered (character : Char) : List Char :=
  ['\\', 'u', '\x7b'] ++ Nat.toDigits 16 character.toNat ++ ['\x7d']

def escape (character : Char) : List Char :=
  match character with
  | '"' => ['\\', '"']
  | '\\' => ['\\', '\\']
  | '\n' => ['\\', 'n']
  | '\r' => ['\\', 'r']
  | '\t' => ['\\', 't']
  | '\x00' => ['\\', '0']
  | _ => if isUnprintable character then numbered character else [character]

def quoted (text : String) : String :=
  String.ofList ('"' :: text.toList.flatMap escape ++ ['"'])

end Calculator.Text
