import Calculator.Binary64.Basic

/-!
# Powers and logarithms

These three are taken from the platform through the words of their operands. Nothing is claimed of
them here: they are opaque to proofs, and a result that mentions them holds for whatever they answer.
-/

set_option autoImplicit false

namespace Calculator.Binary64

def toPlatform (value : Binary64) : Float :=
  Float.ofBits value.toBits

def ofPlatform (value : Float) : Binary64 :=
  ofBits value.toBits

def pow (base exponent : Binary64) : Binary64 :=
  ofPlatform (Float.pow base.toPlatform exponent.toPlatform)

def ln (value : Binary64) : Binary64 :=
  ofPlatform (Float.log value.toPlatform)

def log10 (value : Binary64) : Binary64 :=
  ofPlatform (Float.log10 value.toPlatform)

end Calculator.Binary64
