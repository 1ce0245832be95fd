/-!
# Sets of characters as ranges

A set of characters is a list of inclusive ranges of code points. Tables of this form need no order and
no gaps between the ranges.
-/

set_option autoImplicit false

namespace Calculator.Text

abbrev CharRanges := List (Nat × Nat)

def CharRanges.holds (ranges : CharRanges) (character : Char) : Bool :=
  ranges.any fun range => range.1 ≤ character.toNat && character.toNat ≤ range.2

end Calculator.Text
