import Calculator.Operator
import Calculator.Fault
import Calculator.Binary64.Arithmetic
import Calculator.Binary64.Transcendental

/-!
# What operators do to values

Each of the three functions takes any operator and refuses those that are not its own, naming the symbol.
The descent asks only for the right ones.

The factorial is a product taken factor by factor, each step rounded. Beyond 170 every product is
infinite, so no further factor is looked at: the number of rounds stays below 170 for any argument.
-/

set_option autoImplicit false

namespace Calculator

def largestFactorialArgument : Nat := 170

structure PartialProduct where
  product : Binary64
  factor : Binary64
  deriving DecidableEq

namespace PartialProduct

def start : PartialProduct where
  product := .one
  factor := .ofNat 2

def multiply (state : PartialProduct) : PartialProduct where
  product := state.product.mul state.factor
  factor := state.factor.add .one

def after : Nat → PartialProduct
  | 0 => start
  | rounds + 1 => (after rounds).multiply

end PartialProduct

/-- Whole numbers up to one, also negative ones, have the empty product. -/
def factorial (argument : Binary64) : Except Fault Binary64 :=
  match argument.integer? with
  | none => .error .integerExpected
  | some whole =>
      if largestFactorialArgument < whole then .ok (.infinity false)
      else .ok (PartialProduct.after (whole - 1).toNat).product

namespace Operator

/-- An operator between two values; a sign has zero on its left. -/
def combine (operator : Operator) (left right : Binary64) : Except Fault Binary64 :=
  match operator with
  | plus => .ok (left.add right)
  | minus => .ok (left.sub right)
  | times => .ok (left.mul right)
  | divide => .ok (left.div right)
  | remainder => .ok (left.rem right)
  | _ => .error (.unexpectedToken operator.symbol)

def applyUnary (function : Operator) (argument : Binary64) : Except Fault Binary64 :=
  match function with
  | sqrt => .ok argument.sqrt
  | lg => .ok argument.log10
  | fact => factorial argument
  | _ => .error (.unexpectedToken function.symbol)

/-- The logarithm of the second argument to the base of the first. -/
def applyBinary (function : Operator) (first second : Binary64) : Except Fault Binary64 :=
  match function with
  | pow => .ok (first.pow second)
  | log => .ok (second.ln.div first.ln)
  | _ => .error (.unexpectedToken function.symbol)

end Operator

end Calculator
