import Calculator.Proofs.LineBreaks
import Calculator.Proofs.LowerCase

/-!
# Normal form of a line

What a line asks for depends only on its visible characters, and not on the case of the letters `A` to `Z`
among them. A command word has no other spellings than these allow: the Kelvin sign is lowered to a `k`, but no
command has that letter. The expression of a line is in normal form. It has no white space, and typed as a
line of its own it is the same expression.
-/

set_option autoImplicit false

namespace Calculator

namespace Text

variable {text : String}

theorem to_list_to_lower (text : String) : text.toLower.toList = text.toList.map Char.toLower :=
  String.toList_map

theorem lowercase_eq_iff {word : String} (plain : IsPlainWord word.toList) :
    lowercase text = word ↔ text.toLower = word := by
  rw [← String.toList_inj, lowercase, String.toList_ofList, lower_from_eq_iff plain, ← String.toList_inj,
    to_list_to_lower]

/-- The case of the letters `A` to `Z` makes no difference, also to what the others are lowered to. -/
theorem lowercase_to_lower (text : String) : lowercase text.toLower = lowercase text := by
  rw [lowercase, to_list_to_lower, lowercase]
  exact congrArg String.ofList (lower_from_to_lower [] text.toList)

theorem lowercase_idem (text : String) : lowercase (lowercase text) = lowercase text := by
  have lowered := lower_from_lowered [] text.toList
  rw [lowercase, lowercase, String.toList_ofList, lower_from_of_lowered [] lowered]

theorem strip_whitespace_lowercase (visible : ∀ character ∈ text.toList, isWhitespace character = false) :
    stripWhitespace (lowercase text) = lowercase text := by
  rw [← String.toList_inj, lowercase, String.toList_ofList]
  exact strip_whitespace_of_no_blank (lower_from_visible [] visible)

theorem strip_whitespace_eq_empty_iff :
    stripWhitespace text = "" ↔ ∀ character ∈ text.toList, isWhitespace character = true := by
  rw [← String.toList_eq_nil_iff, stripWhitespace, String.toList_ofList, List.filter_eq_nil_iff]
  simp

theorem to_lower_eq_empty_iff : text.toLower = "" ↔ text = "" := by
  rw [← String.toList_eq_nil_iff, to_list_to_lower, List.map_eq_nil_iff, String.toList_eq_nil_iff]

theorem ascii_of_to_lower {character : Char} (ascii : character.toLower.toNat < 0x80) :
    character.toNat < 0x80 := by
  rcases to_lower_cases character with capital | ⟨_, same⟩
  · have place := (capitals_places character capital).1
    omega
  · rw [← same]
    exact ascii

theorem ascii_of_spelled {word : String} (plain : IsPlainWord word.toList) (spelled : text.toLower = word) :
    ∀ character ∈ text.toList, character.toNat < 0x80 := by
  intro character member
  have letter : character.toLower ∈ word.toList := by
    rw [← spelled, to_list_to_lower]
    exact List.mem_map_of_mem member
  exact ascii_of_to_lower (plain _ letter).1.1

end Text

namespace Command

open Text

variable {line : String}

def normalForm (line : String) : String :=
  lowercase (stripWhitespace line)

theorem of_line_normal_form (line : String) :
    ofLine line =
      if normalForm line = "" then .empty
      else if normalForm line = "help" then .help
      else if normalForm line = "quit" then .quit
      else .evaluate (normalForm line) :=
  rfl

theorem normal_form_visible (line : String) :
    ∀ character ∈ (normalForm line).toList, isWhitespace character = false := by
  rw [normalForm, lowercase, String.toList_ofList]
  exact lower_from_visible [] (no_blank_of_stripped line)

theorem normal_form_idem (line : String) : normalForm (normalForm line) = normalForm line := by
  have stripped : stripWhitespace (normalForm line) = normalForm line :=
    strip_whitespace_lowercase (no_blank_of_stripped line)
  rw [normalForm, stripped, normalForm, lowercase_idem]

theorem normal_form_eq_iff {word : String} (plain : IsPlainWord word.toList) :
    normalForm line = word ↔ (stripWhitespace line).toLower = word :=
  lowercase_eq_iff plain

theorem normal_form_eq_empty_iff :
    normalForm line = "" ↔ ∀ character ∈ line.toList, isWhitespace character = true := by
  have plain : IsPlainWord "".toList := List.forall_mem_nil _
  rw [normal_form_eq_iff plain, to_lower_eq_empty_iff, strip_whitespace_eq_empty_iff]

theorem help_plain : IsPlainWord "help".toList := by
  decide +kernel

theorem quit_plain : IsPlainWord "quit".toList := by
  decide +kernel

/-- What a line in normal form asks for, case by case. -/
theorem of_line_cases (line : String) :
    (normalForm line = "" ∧ ofLine line = .empty) ∨
      (normalForm line = "help" ∧ ofLine line = .help) ∨
        (normalForm line = "quit" ∧ ofLine line = .quit) ∨
          ((normalForm line ≠ "" ∧ normalForm line ≠ "help" ∧ normalForm line ≠ "quit") ∧
            ofLine line = .evaluate (normalForm line)) := by
  rw [of_line_normal_form]
  by_cases empty : normalForm line = ""
  · exact Or.inl ⟨empty, if_pos empty⟩
  · by_cases help : normalForm line = "help"
    · exact Or.inr (Or.inl ⟨help, by rw [if_neg empty, if_pos help]⟩)
    · by_cases quit : normalForm line = "quit"
      · exact Or.inr (Or.inr (Or.inl ⟨quit, by rw [if_neg empty, if_neg help, if_pos quit]⟩))
      · refine Or.inr (Or.inr (Or.inr ⟨⟨empty, help, quit⟩, ?_⟩))
        rw [if_neg empty, if_neg help, if_neg quit]

theorem of_line_eq_empty_iff : ofLine line = .empty ↔ normalForm line = "" := by
  rcases of_line_cases line with known | known | known | known <;> simp [known]

theorem of_line_eq_help_iff : ofLine line = .help ↔ normalForm line = "help" := by
  rcases of_line_cases line with known | known | known | known <;> simp [known]

theorem of_line_eq_quit_iff : ofLine line = .quit ↔ normalForm line = "quit" := by
  rcases of_line_cases line with known | known | known | known <;> simp [known]

theorem of_line_of_other (other : ¬(ofLine line = .empty ∨ ofLine line = .help ∨ ofLine line = .quit)) :
    ofLine line = .evaluate (normalForm line) := by
  rw [of_line_eq_empty_iff, of_line_eq_help_iff, of_line_eq_quit_iff] at other
  rcases of_line_cases line with ⟨form, _⟩ | ⟨form, _⟩ | ⟨form, _⟩ | ⟨_, asked⟩
  · exact absurd (Or.inl form) other
  · exact absurd (Or.inr (Or.inl form)) other
  · exact absurd (Or.inr (Or.inr form)) other
  · exact asked

theorem of_line_eq_of_normal_form {other : String} (same : normalForm line = normalForm other) :
    ofLine line = ofLine other := by
  rw [of_line_normal_form, of_line_normal_form, same]

theorem normal_form_eq_of_to_lower {other : String}
    (same : (stripWhitespace line).toLower = (stripWhitespace other).toLower) :
    normalForm line = normalForm other := by
  rw [normalForm, ← lowercase_to_lower, same, lowercase_to_lower, normalForm]

/-- Lowering looks at all of Unicode, `String.toLower` at the letters of ASCII alone. Yet it is these that make
a command word of a line, and two lines may differ in their case. -/
theorem of_line_normalizes (line : String) :
    (ofLine line = .empty ↔ ∀ character ∈ line.toList, isWhitespace character = true) ∧
    (ofLine line = .help ↔ (stripWhitespace line).toLower = "help") ∧
    (ofLine line = .quit ↔ (stripWhitespace line).toLower = "quit") ∧
    (ofLine line = .help ∨ ofLine line = .quit →
      ∀ character ∈ (stripWhitespace line).toList, character.toNat < 0x80) ∧
    (¬(ofLine line = .empty ∨ ofLine line = .help ∨ ofLine line = .quit) →
      ∃ expression, ofLine line = .evaluate expression ∧
        (∀ character ∈ expression.toList, isWhitespace character = false) ∧
        ofLine expression = .evaluate expression) ∧
    ∀ other, (stripWhitespace line).toLower = (stripWhitespace other).toLower →
      ofLine line = ofLine other := by
  have help : ofLine line = .help ↔ (stripWhitespace line).toLower = "help" :=
    of_line_eq_help_iff.trans (normal_form_eq_iff help_plain)
  have quit : ofLine line = .quit ↔ (stripWhitespace line).toLower = "quit" :=
    of_line_eq_quit_iff.trans (normal_form_eq_iff quit_plain)
  refine ⟨of_line_eq_empty_iff.trans normal_form_eq_empty_iff, help, quit, ?_, ?_, ?_⟩
  · rintro (asked | asked)
    · exact ascii_of_spelled help_plain (help.mp asked)
    · exact ascii_of_spelled quit_plain (quit.mp asked)
  · intro other
    have asked := of_line_of_other other
    refine ⟨normalForm line, asked, normal_form_visible line, ?_⟩
    rw [← asked]
    exact of_line_eq_of_normal_form (normal_form_idem line)
  · intro other same
    exact of_line_eq_of_normal_form (normal_form_eq_of_to_lower same)

/-- The dotted capital leaves its dot behind, so this is not the command. -/
example : ofLine "Q UİT" = .evaluate "qui\u0307t" := by
  decide +kernel

end Command

end Calculator
