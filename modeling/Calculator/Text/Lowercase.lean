import Calculator.Text.Cased
import Calculator.Text.LowerChar

/-!
# Lower case of a text

Full lower case: one character may become two, and a capital sigma becomes a final sigma when it ends a
word. It ends a word when a cased letter stands before it and none behind it, both looked for past
characters that leave case alone.
-/

set_option autoImplicit false

namespace Calculator.Text

def meetsCased (text : List Char) : Bool :=
  match text.dropWhile isCaseIgnorable with
  | character :: _ => isCased character
  | [] => false

def capitalSigma : Char := 'Σ'
def smallSigma : Char := 'σ'
def finalSigma : Char := 'ς'

/-- The only character whose lower case is two: an `i` and the dot that stays above it. -/
def capitalDottedI : Char := 'İ'
def combiningDot : Char := Char.ofNat 0x307

def lowerBetween (before : List Char) (character : Char) (behind : List Char) : List Char :=
  if character = capitalSigma then
    if meetsCased before && !meetsCased behind then [finalSigma] else [smallSigma]
  else if character = capitalDottedI then
    ['i', combiningDot]
  else
    [lowerChar character]

def lowerFrom (before : List Char) : List Char → List Char
  | [] => []
  | character :: behind =>
      lowerBetween before character behind ++ lowerFrom (character :: before) behind

def lowercase (text : String) : String :=
  String.ofList (lowerFrom [] text.toList)

end Calculator.Text
