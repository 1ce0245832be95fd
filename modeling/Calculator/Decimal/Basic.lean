import Calculator.Binary64.Rounding

/-!
# Decimals

A decimal is a natural number of units of a power of ten. `Decimal.nearest` is the double it reads as,
and `Decimal.read?` reads plain text: digits with at most one point, no sign and no exponent.
-/

set_option autoImplicit false

namespace Calculator

-- Powers of natural numbers are core's, whatever algebra is in scope.
attribute [local instance (1001)] instPowNat

/-- The value is `digits * 10 ^ exponent`. -/
structure Decimal where
  digits : Nat
  exponent : Int
  deriving DecidableEq

namespace Decimal

/-- The value in units of the smallest double is `dividend / divisor`. -/
def dividend (decimal : Decimal) : Nat :=
  decimal.digits * 10 ^ decimal.exponent.toNat * unitsPerOne

def divisor (decimal : Decimal) : Nat :=
  10 ^ (-decimal.exponent).toNat

def units (decimal : Decimal) : Nat :=
  roundUnits decimal.dividend decimal.divisor

/-- The nearest double; a decimal that is too large reads as infinity. -/
def nearest (decimal : Decimal) : Binary64 :=
  .round false decimal.dividend decimal.divisor

/-- The digits of a text and how many of them stand behind the first point. A further point counts as
a digit here and is refused by `read?`. -/
def split (text : List Char) : List Char × Nat :=
  let whole := text.takeWhile (· != '.')
  let fraction := (text.dropWhile (· != '.')).drop 1
  (whole ++ fraction, fraction.length)

/-- Any number of digits, at least one, with at most one point anywhere among them. -/
def read? (text : List Char) : Option Decimal :=
  let (digits, places) := split text
  if digits ≠ [] ∧ digits.all Char.isDigit then
    some { digits := Nat.ofDigitChars 10 digits 0, exponent := -places }
  else
    none

end Decimal

end Calculator
