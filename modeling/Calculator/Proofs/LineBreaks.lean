import Calculator.Event
import Calculator.Text.Sanitized
import Calculator.Text.Whitespace
import Calculator.Proofs.Runs

/-!
# Texts on one line

The characters at which a line may be taken to end are white space, so a stripped text has none of them.
What the calculator writes by itself has none either: digits, names and fixed wordings. Quoting writes every
line break by its number, and what makes a text safe for a terminal adds none. So whatever is put together
from these stays on one line.
-/

set_option autoImplicit false

namespace Calculator

namespace Text

def lineBreaks : CharRanges :=
  [(0xa, 0xd), (0x85, 0x85), (0x2028, 0x2029)]

def isLineBreak (character : Char) : Bool :=
  lineBreaks.holds character

def Unbroken (text : List Char) : Prop :=
  ∀ character ∈ text, isLineBreak character = false

def OneLine (text : String) : Prop :=
  Unbroken text.toList

instance (text : List Char) : Decidable (Unbroken text) :=
  List.decidableBAll (fun character => isLineBreak character = false) text

instance (text : String) : Decidable (OneLine text) :=
  inferInstanceAs (Decidable (Unbroken text.toList))

variable {front behind : List Char} {character : Char} {text : String}

@[simp] theorem unbroken_nil : Unbroken [] :=
  nofun

@[simp] theorem unbroken_cons :
    Unbroken (character :: behind) ↔ isLineBreak character = false ∧ Unbroken behind :=
  List.forall_mem_cons

@[simp] theorem unbroken_append : Unbroken (front ++ behind) ↔ Unbroken front ∧ Unbroken behind :=
  List.forall_mem_append

@[simp] theorem one_line_append {first second : String} :
    OneLine (first ++ second) ↔ OneLine first ∧ OneLine second := by
  simp [OneLine]

theorem one_line_of_list : OneLine (String.ofList front) ↔ Unbroken front := by
  simp [OneLine]

theorem unbroken_flat_map {change : Char → List Char}
    (each : ∀ character ∈ front, Unbroken (change character)) : Unbroken (front.flatMap change) := by
  intro character member
  obtain ⟨origin, inFront, changed⟩ := List.mem_flatMap.mp member
  exact each origin inFront character changed

theorem not_line_break_of_not_blank (visible : isWhitespace character = false) :
    isLineBreak character = false := by
  simp only [isWhitespace, CharRanges.holds, whitespaceRanges, List.any_cons, List.any_nil,
    Bool.or_eq_false_iff, Bool.and_eq_false_iff, decide_eq_false_iff_not] at visible
  simp only [isLineBreak, CharRanges.holds, lineBreaks, List.any_cons, List.any_nil,
    Bool.or_eq_false_iff, Bool.and_eq_false_iff, decide_eq_false_iff_not, and_true]
  omega

theorem one_line_of_no_blank (noBlank : ∀ character ∈ text.toList, isWhitespace character = false) :
    OneLine text := by
  intro character member
  exact not_line_break_of_not_blank (noBlank character member)

theorem no_blank_of_stripped (text : String) :
    ∀ character ∈ (stripWhitespace text).toList, isWhitespace character = false := by
  simp [stripWhitespace]

theorem newline_not_mem (oneLine : OneLine text) : '\n' ∉ text.toList := by
  intro member
  cases oneLine '\n' member

/-! ## Digits -/

theorem digit_char_unbroken {digit : Nat} (small : digit < 16) :
    isLineBreak (Nat.digitChar digit) = false := by
  revert digit
  decide

theorem digits_unbroken {base : Nat} (large : 1 < base) (known : base ≤ 16) (number : Nat) :
    Unbroken (Nat.toDigits base number) := by
  induction number using Nat.strongRecOn with
  | ind number ih =>
      rw [Nat.toDigits_eq_if large]
      split
      · next last => simp [digit_char_unbroken (Nat.lt_of_lt_of_le last known)]
      · next more =>
          have smaller : number / base < number := Nat.div_lt_self (by omega) large
          have digit : number % base < 16 := Nat.lt_of_lt_of_le (Nat.mod_lt _ (by omega)) known
          simp [ih _ smaller, digit_char_unbroken digit]

theorem number_unbroken (character : Char) :
    Unbroken (['\\', 'u', '\x7b'] ++ Nat.toDigits 16 character.toNat ++ ['\x7d']) := by
  have opening : Unbroken ['\\', 'u', '\x7b'] := by decide
  have closing : Unbroken ['\x7d'] := by decide
  have digits := digits_unbroken (by decide) (Nat.le_refl 16) character.toNat
  exact unbroken_append.mpr ⟨unbroken_append.mpr ⟨opening, digits⟩, closing⟩

theorem repr_one_line (number : Nat) : OneLine (Nat.repr number) := by
  rw [Nat.repr_eq_ofList_toDigits, one_line_of_list]
  exact digits_unbroken (by decide) (by decide) number

/-! ## Quoting -/

theorem CharRanges.holds_of_mem {ranges : CharRanges} {range : Nat × Nat} (listed : range ∈ ranges)
    (low : range.1 ≤ character.toNat) (high : character.toNat ≤ range.2) :
    ranges.holds character = true := by
  rw [holds, List.any_eq_true]
  exact ⟨range, listed, by simp [low, high]⟩

theorem unprintable_of_line_break (breaks : isLineBreak character = true) :
    isUnprintable character = true := by
  have controls : (0x0, 0x1f) ∈ unprintableLow := by decide
  have moreControls : (0x7f, 0xa0) ∈ unprintableLow := by decide
  have separators : (0x2028, 0x202f) ∈ unprintableMiddle := by decide
  simp only [isLineBreak, CharRanges.holds, lineBreaks, List.any_cons, List.any_nil, Bool.or_eq_true,
    Bool.and_eq_true, decide_eq_true_eq, Bool.false_eq_true, or_false] at breaks
  rcases breaks with ⟨low, high⟩ | ⟨low, high⟩ | ⟨low, high⟩
  · have held : unprintableLow.holds character = true :=
      CharRanges.holds_of_mem controls (Nat.zero_le _) (Nat.le_trans high (by decide))
    simp [isUnprintable, held]
  · have held : unprintableLow.holds character = true :=
      CharRanges.holds_of_mem moreControls (Nat.le_trans (by decide) low) (Nat.le_trans high (by decide))
    simp [isUnprintable, held]
  · have held : unprintableMiddle.holds character = true :=
      CharRanges.holds_of_mem separators low (Nat.le_trans high (by decide))
    simp [isUnprintable, held]

theorem escape_unbroken (character : Char) : Unbroken (escape character) := by
  unfold escape
  split
  any_goals decide
  split
  · exact number_unbroken character
  · next printable =>
      have visible : isLineBreak character = false := by
        rw [Bool.eq_false_iff]
        exact mt unprintable_of_line_break printable
      simp [visible]

theorem quoted_one_line (text : String) : OneLine (quoted text) := by
  have mark : Unbroken ['"'] := by decide
  have inside := unbroken_flat_map fun character (_ : character ∈ text.toList) => escape_unbroken character
  rw [quoted, one_line_of_list]
  exact unbroken_append.mpr ⟨unbroken_append.mpr ⟨mark, inside⟩, mark⟩

theorem sanitize_unbroken (visible : isLineBreak character = false) : Unbroken (sanitize character) := by
  unfold sanitize
  split
  any_goals decide
  split
  · exact number_unbroken character
  · simp [visible]

theorem sanitized_one_line (oneLine : OneLine text) : OneLine (sanitized text) := by
  rw [sanitized, one_line_of_list]
  exact unbroken_flat_map fun character member => sanitize_unbroken (oneLine character member)

end Text

end Calculator
