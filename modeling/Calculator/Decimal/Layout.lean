import Calculator.Decimal.Basic

/-!
# Written decimals

Two layouts of the same digits. The positional one has no exponent: it pads with zeros on either side
of the point and writes no point when there is nothing behind it. The scaled one has one digit before
the point and a power of ten.
-/

set_option autoImplicit false

namespace Calculator.Decimal

def digitText (decimal : Decimal) : List Char :=
  Nat.toDigits 10 decimal.digits

def placePoint (digits : List Char) (places : Nat) : List Char :=
  let padded := List.replicate (places + 1 - digits.length) '0' ++ digits
  let whole := padded.length - places
  padded.take whole ++ '.' :: padded.drop whole

def positional (decimal : Decimal) : List Char :=
  if 0 ≤ decimal.exponent then
    decimal.digitText ++ List.replicate decimal.exponent.toNat '0'
  else
    placePoint decimal.digitText (-decimal.exponent).toNat

def leadingExponent (decimal : Decimal) : Int :=
  decimal.exponent + decimal.digitText.length - 1

def signedDigits (value : Int) : List Char :=
  if value < 0 then '-' :: Nat.toDigits 10 value.natAbs else Nat.toDigits 10 value.natAbs

def scaled (decimal : Decimal) : List Char :=
  let mantissa :=
    match decimal.digitText with
    | leading :: next :: rest => leading :: '.' :: next :: rest
    | single => single
  mantissa ++ 'e' :: signedDigits decimal.leadingExponent

end Calculator.Decimal
