import Calculator.Proofs.ReadBack
import Calculator.Proofs.Standing

/-!
# Where a text falls apart

A mark stands alone, so the runs before it and behind it are those of the two texts on either side of it.
A numeral is one run and has no blanks to take out.
-/

set_option autoImplicit false

namespace Calculator

namespace Lexeme

def Run.ofMark (mark : Char) (operator : Operator) : Run where
  kind := .mark operator
  text := [mark]

theorem Kind.of_numeral_character {character : Char}
    (gathers : (character.isDigit || character == '.') = true) :
    Kind.ofChar character = .numeral := by
  have unmarked : Operator.ofMark? character = none := by
    unfold Operator.ofMark?
    split
    all_goals first | rfl | cases gathers
  rw [Kind.ofChar, unmarked]
  exact if_pos gathers

theorem Kind.of_mark {mark : Char} {operator : Operator}
    (known : Operator.ofMark? mark = some operator) : Kind.ofChar mark = .mark operator := by
  rw [Kind.ofChar, known]

theorem runs_cons (character : Char) (text : List Char) :
    runs (character :: text) = extend character (runs text) :=
  rfl

theorem extend_of_mark {mark : Char} {operator : Operator}
    (known : Operator.ofMark? mark = some operator) (behind : List Run) :
    extend mark behind = .ofMark mark operator :: behind := by
  cases behind with
  | nil =>
      rw [extend, Kind.of_mark known]
      rfl
  | cons run rest =>
      rw [extend, Kind.of_mark known, if_neg]
      · rfl
      · rintro ⟨same, gathered⟩
        rw [same] at gathered
        cases gathered

theorem extend_before_mark (character : Char) (front : List Run) {run : Run} {operator : Operator}
    (marked : run.kind = .mark operator) (behind : List Run) :
    extend character (front ++ run :: behind) = extend character front ++ run :: behind := by
  cases front with
  | nil =>
      simp only [List.nil_append, extend, marked]
      rw [if_neg]
      · rfl
      · rintro ⟨_, gathered⟩
        cases gathered
  | cons first rest =>
      simp only [List.cons_append, extend]
      split <;> rfl

theorem runs_around_mark (before : List Char) {mark : Char} {operator : Operator}
    (known : Operator.ofMark? mark = some operator) (after : List Char) :
    runs (before ++ mark :: after) =
      runs before ++ .ofMark mark operator :: runs after := by
  induction before with
  | nil => exact extend_of_mark known (runs after)
  | cons character before ih =>
      rw [List.cons_append, runs_cons, ih]
      exact extend_before_mark character (runs before) rfl (runs after)

theorem runs_of_numeral {text : List Char} (nonempty : text ≠ [])
    (gathers : ∀ character ∈ text, (character.isDigit || character == '.') = true) :
    runs text = [{ kind := .numeral, text }] := by
  induction text with
  | nil => exact absurd rfl nonempty
  | cons character rest ih =>
      have kind := Kind.of_numeral_character (gathers character List.mem_cons_self)
      by_cases last : rest = []
      · subst last
        rw [runs_cons, runs, List.foldr_nil, extend, kind]
      · have behind := ih last fun other member => gathers other (List.mem_cons_of_mem _ member)
        rw [runs_cons, behind, extend, kind]
        exact if_pos ⟨rfl, rfl⟩

end Lexeme

namespace Text

theorem strip_whitespace_append (front behind : String) :
    (stripWhitespace (front ++ behind)).toList =
      (stripWhitespace front).toList ++ (stripWhitespace behind).toList := by
  simp [stripWhitespace]

theorem strip_whitespace_of_no_blank {text : List Char}
    (noBlank : ∀ character ∈ text, isWhitespace character = false) :
    (stripWhitespace (String.ofList text)).toList = text := by
  rw [stripWhitespace, String.toList_ofList, String.toList_ofList, List.filter_eq_self]
  intro character member
  rw [noBlank character member]
  rfl

theorem not_blank_of_numeral_character {character : Char}
    (gathers : (character.isDigit || character == '.') = true) :
    isWhitespace character = false := by
  rw [Bool.or_eq_true] at gathers
  rcases gathers with digit | point
  · have bounds : 48 ≤ character.toNat ∧ character.toNat ≤ 57 := by
      simpa [Char.isDigit, UInt32.le_iff_toNat_le] using digit
    simp only [isWhitespace, CharRanges.holds, whitespaceRanges, List.any_cons, List.any_nil,
      Bool.or_eq_false_iff, Bool.and_eq_false_iff, decide_eq_false_iff_not, and_true]
    omega
  · rw [beq_iff_eq.mp point]
    decide

end Text

namespace Numeral

variable {text : List Char} {value : Binary64}

theorem nonempty (numeral : Numeral text value) : text ≠ [] := by
  rintro rfl
  cases numeral.reads

theorem runs (numeral : Numeral text value) : Lexeme.runs text = [{ kind := .numeral, text }] :=
  Lexeme.runs_of_numeral numeral.nonempty numeral.gathers

theorem token (numeral : Numeral text value) :
    Token.ofRun? { kind := .numeral, text } = some (.number value) := by
  obtain ⟨decimal, read, rfl⟩ := Option.map_eq_some_iff.mp numeral.reads
  simp [Token.ofRun?, Token.ofLexeme?, read]

end Numeral

end Calculator
