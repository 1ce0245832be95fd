import Calculator.Operator

/-!
# Lexemes

A text falls into lexemes in exactly one way: each mark stands alone, digits and points gather into
numerals, and everything else gathers into words, as long as the run goes on. No text is refused here;
whether a run means anything is decided in `Calculator.Token`.
-/

set_option autoImplicit false

namespace Calculator

namespace Lexeme

inductive Kind where
  | numeral
  | word
  | mark (operator : Operator)
  deriving DecidableEq

namespace Kind

/-- Only the ten ASCII digits count as digits. -/
def ofChar (character : Char) : Kind :=
  match Operator.ofMark? character with
  | some operator => .mark operator
  | none => if character.isDigit || character == '.' then .numeral else .word

/-- Two equal marks side by side stay two lexemes. -/
def gathers : Kind → Bool
  | numeral => true
  | word => true
  | mark _ => false

end Kind

structure Run where
  kind : Kind
  text : List Char
  deriving DecidableEq

def extend (character : Char) : List Run → List Run
  | [] => [{ kind := .ofChar character, text := [character] }]
  | run :: rest =>
      if run.kind = .ofChar character ∧ run.kind.gathers then
        { run with text := character :: run.text } :: rest
      else
        { kind := .ofChar character, text := [character] } :: run :: rest

def runs (text : List Char) : List Run :=
  text.foldr extend []

end Lexeme

/-- A run of a source and the offset, in bytes of UTF-8, where it starts. -/
structure Lexeme where
  kind : Lexeme.Kind
  text : String
  start : Nat
  deriving DecidableEq

namespace Lexeme

def stop (lexeme : Lexeme) : Nat :=
  lexeme.start + lexeme.text.utf8ByteSize

def place (start : Nat) : List Run → List Lexeme
  | [] => []
  | run :: rest =>
      let lexeme : Lexeme := { kind := run.kind, text := String.ofList run.text, start }
      lexeme :: place lexeme.stop rest

def ofSource (source : String) : List Lexeme :=
  place 0 (runs source.toList)

theorem flatten_extend (character : Char) (rest : List Run) :
    ((extend character rest).map Run.text).flatten = character :: (rest.map Run.text).flatten := by
  cases rest with
  | nil => rfl
  | cons run rest =>
      simp only [extend]
      split <;> simp

theorem flatten_runs (text : List Char) : ((runs text).map Run.text).flatten = text := by
  induction text with
  | nil => rfl
  | cons character rest ih =>
      rw [runs, List.foldr_cons, flatten_extend]
      exact congrArg _ ih

end Lexeme

end Calculator
