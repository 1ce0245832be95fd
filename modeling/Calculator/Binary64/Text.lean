import Calculator.Binary64.Arithmetic
import Calculator.Decimal.Shortest
import Calculator.Decimal.Layout

/-!
# The text of a double

Three texts are written. `plainText` has the shortest digits and never an exponent. `loggedText` has
the same digits and shows that the value is a double: a whole value ends in `.0`, and a very large or
very small one has an exponent. `resultText` is what a calculation answers: the exact digits of a whole
value, however many, and the plain text of any other.
-/

set_option autoImplicit false

namespace Calculator.Binary64

def withSign (negative : Bool) (text : List Char) : String :=
  String.ofList (if negative then '-' :: text else text)

def textWith (finiteText : Nat → List Char) : Binary64 → String
  | .nan => "NaN"
  | .infinity negative => withSign negative ['i', 'n', 'f']
  | .finite negative magnitude => withSign negative (finiteText magnitude.units)

def plainText : Binary64 → String :=
  textWith fun units => (Decimal.shortest units).positional

/-- Positional from `10 ^ -4` to below `10 ^ 16`, and for zero. -/
def loggedDigits (decimal : Decimal) : List Char :=
  if decimal.digits = 0 ∨ (-4 ≤ decimal.leadingExponent ∧ decimal.leadingExponent < 16) then
    if 0 ≤ decimal.exponent then decimal.positional ++ ['.', '0'] else decimal.positional
  else
    decimal.scaled

def loggedText : Binary64 → String :=
  textWith fun units => loggedDigits (Decimal.shortest units)

def wholeText : Binary64 → String :=
  textWith fun units => Nat.toDigits 10 (units / unitsPerOne)

def resultText (value : Binary64) : String :=
  if value.fract.isZero then value.wholeText else value.plainText

end Calculator.Binary64
