import Calculator.Text.CharRanges

/-!
# White space

The characters with the Unicode property White_Space. They may stand anywhere in an expression, also
inside a numeral or a name, because they are taken out before anything is read.
-/

set_option autoImplicit false

namespace Calculator.Text

def whitespaceRanges : CharRanges :=
  [
    (0x9, 0xd), (0x20, 0x20), (0x85, 0x85), (0xa0, 0xa0), (0x1680, 0x1680), (0x2000, 0x200a),
    (0x2028, 0x2029), (0x202f, 0x202f), (0x205f, 0x205f), (0x3000, 0x3000)
  ]

def isWhitespace (character : Char) : Bool :=
  whitespaceRanges.holds character

def stripWhitespace (text : String) : String :=
  String.ofList (text.toList.filter fun character => !isWhitespace character)

theorem strip_whitespace_idem (text : String) :
    stripWhitespace (stripWhitespace text) = stripWhitespace text := by
  simp [stripWhitespace, List.filter_filter]

end Calculator.Text
