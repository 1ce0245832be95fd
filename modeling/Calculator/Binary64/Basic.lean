/-!
# Double-precision values

A finite value is held exactly: a sign and a count of units of `2 ^ -1074`, the smallest positive
double. Every double is a whole number of units, so arithmetic is arithmetic of natural numbers and
rounding is one function (`Calculator.Binary64.Rounding`). There is one not-a-number: no answer of
the calculator depends on the sign or the payload of a word that encodes one.

The 64-bit words enter only through `ofBits` and `toBits`.
-/

set_option autoImplicit false

namespace Calculator

-- Powers of natural numbers are core's, whatever algebra is in scope.
attribute [local instance (1001)] instPowNat

/-- A word stores this many bits of the significand. One more bit leads it and is implied. -/
def fractionBits : Nat := 52

def significandLimit : Nat := 2 ^ (fractionBits + 1)

/-- One is `2 ^ 1074` units. -/
def unitLog : Nat := 1074

def unitsPerOne : Nat := 2 ^ unitLog

/-- Values from `2 ^ 1024`, which is `2 ^ 2098` units, are too large. -/
def overflowLog : Nat := 2098

def overflowUnits : Nat := 2 ^ overflowLog

/-- A count of units is a double when it is not too large and has at most 53 significant bits. -/
def Representable (units : Nat) : Prop :=
  units < overflowUnits ∧ 2 ^ (units.log2 - fractionBits) ∣ units

instance (units : Nat) : Decidable (Representable units) :=
  inferInstanceAs (Decidable (_ ∧ _))

/-- The absolute value of a finite double, in units of `2 ^ -1074`. -/
structure Magnitude where
  units : Nat
  representable : Representable units
  deriving DecidableEq

inductive Binary64 where
  | nan
  | infinity (negative : Bool)
  | finite (negative : Bool) (magnitude : Magnitude)
  deriving DecidableEq

/-- A significand within its limit, shifted left, is a magnitude: one that has just reached the limit
is half of it shifted once more. -/
theorem representable_mul_two_pow {significand shift : Nat}
    (narrow : significand ≤ significandLimit) (below : significand * 2 ^ shift < overflowUnits) :
    Representable (significand * 2 ^ shift) := by
  refine ⟨below, ?_⟩
  rcases Nat.eq_zero_or_pos significand with zero | positive
  · simp [zero]
  have nonzero : significand * 2 ^ shift ≠ 0 :=
    Nat.ne_of_gt (Nat.mul_pos positive (Nat.two_pow_pos shift))
  by_cases full : significand = significandLimit
  · subst full
    rw [significandLimit, ← Nat.pow_add, Nat.log2_two_pow]
    exact Nat.pow_dvd_pow 2 (by omega)
  · have strict : significand < significandLimit := by omega
    have size : (significand * 2 ^ shift).log2 < fractionBits + 1 + shift := by
      rw [Nat.log2_lt nonzero, Nat.pow_add]
      exact Nat.mul_lt_mul_of_pos_right strict (Nat.two_pow_pos shift)
    exact Nat.dvd_trans (Nat.pow_dvd_pow 2 (by omega)) (Nat.dvd_mul_left _ _)

theorem two_pow_le_overflow {exponent : Nat} (low : exponent ≤ overflowLog) :
    2 ^ exponent ≤ overflowUnits :=
  Nat.pow_le_pow_right (by decide) low

namespace Magnitude

def zero : Magnitude where
  units := 0
  representable := by decide +kernel

def ofFields (significand shift : Nat) (narrow : significand < significandLimit)
    (low : shift ≤ 2045) : Magnitude where
  units := significand * 2 ^ shift
  representable := by
    refine representable_mul_two_pow (Nat.le_of_lt narrow) ?_
    calc
      significand * 2 ^ shift < significandLimit * 2 ^ shift :=
        Nat.mul_lt_mul_of_pos_right narrow (Nat.two_pow_pos shift)
      _ = 2 ^ (fractionBits + 1 + shift) := (Nat.pow_add 2 (fractionBits + 1) shift).symm
      _ ≤ overflowUnits := two_pow_le_overflow (by simp only [fractionBits, overflowLog]; omega)

end Magnitude

namespace Binary64

def zero : Binary64 := .finite false .zero

def isFinite : Binary64 → Bool
  | .finite _ _ => true
  | _ => false

def isZero : Binary64 → Bool
  | .finite _ magnitude => magnitude.units == 0
  | _ => false

def neg : Binary64 → Binary64
  | .nan => .nan
  | .infinity negative => .infinity !negative
  | .finite negative magnitude => .finite (!negative) magnitude

def exponentBits : Nat := 11

def topExponent : Nat := 2047

def signBits (negative : Bool) : Nat :=
  if negative then 2 ^ (exponentBits + fractionBits) else 0

/-- A word has a sign bit, an exponent and a fraction. Under the exponent zero the bit that leads the
significand is zero; the highest exponent stands for the infinities and, with a fraction, for
not-a-number. -/
def ofBits (word : UInt64) : Binary64 :=
  let negative := decide (signBits true ≤ word.toNat)
  let exponent := word.toNat / 2 ^ fractionBits % 2 ^ exponentBits
  let fraction := word.toNat % 2 ^ fractionBits
  have short : fraction < 2 ^ fractionBits := Nat.mod_lt _ (Nat.two_pow_pos _)
  have double : significandLimit = 2 ^ fractionBits + 2 ^ fractionBits := by
    rw [significandLimit, Nat.pow_succ, Nat.mul_two]
  if exponent = 0 then
    .finite negative (.ofFields fraction 0 (by omega) (by omega))
  else if ordinary : exponent < topExponent then
    .finite negative
      (.ofFields (2 ^ fractionBits + fraction) (exponent - 1) (by omega)
        (by simp only [topExponent] at ordinary; omega))
  else if fraction = 0 then
    .infinity negative
  else
    .nan

/-- The word of a value; not-a-number is the quiet one without sign or payload. -/
def toBits : Binary64 → UInt64
  | .nan => 0x7ff8000000000000
  | .infinity negative => .ofNat (signBits negative + topExponent * 2 ^ fractionBits)
  | .finite negative magnitude =>
      let shift := magnitude.units.log2 - fractionBits
      let significand := magnitude.units / 2 ^ shift
      -- The bit that leads the significand adds one to the exponent field.
      .ofNat (signBits negative + shift * 2 ^ fractionBits + significand)

end Binary64

end Calculator
