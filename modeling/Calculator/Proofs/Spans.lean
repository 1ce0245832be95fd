import Calculator.Token

/-!
# Where lexemes stand in a source

The lexemes of a source written one behind another are the source. So the span of each, in bytes, begins
where the one before it ends, and what the source holds there is the text of the lexeme.
-/

set_option autoImplicit false

namespace Calculator

/-- The source holds the text from `start` to below `stop`, both counted in bytes of UTF-8. -/
def Text.At (source : String) (start stop : Nat) (text : String) : Prop :=
  ∃ before behind, source = before ++ text ++ behind ∧ before.utf8ByteSize = start ∧
    (before ++ text).utf8ByteSize = stop

/-- Spans of which each begins where the one before it ends, the first at `start` and the last up to
`stop`. -/
inductive Contiguous : Nat → List (Nat × Nat) → Nat → Prop where
  | nothing (start : Nat) : Contiguous start [] start
  | span {start middle stop : Nat} {rest : List (Nat × Nat)} (more : Contiguous middle rest stop) :
      Contiguous start ((start, middle) :: rest) stop

namespace Lexeme

variable {source : String} {start : Nat} {all : List Run} {front behind : List Lexeme} {lexeme : Lexeme}

def span (lexeme : Lexeme) : Nat × Nat :=
  (lexeme.start, lexeme.stop)

def written (lexemes : List Lexeme) : String :=
  String.join (lexemes.map text)

theorem written_cons (lexeme : Lexeme) (rest : List Lexeme) :
    written (lexeme :: rest) = lexeme.text ++ written rest :=
  String.join_cons

theorem written_append (front behind : List Lexeme) :
    written (front ++ behind) = written front ++ written behind := by
  rw [written, List.map_append, String.join_append]
  rfl

theorem written_place (start : Nat) (all : List Run) :
    (written (place start all)).toList = (all.map Run.text).flatten := by
  induction all generalizing start with
  | nil => rfl
  | cons run rest ih =>
      rw [place, written_cons, String.toList_append, ih]
      simp

theorem written_of_source (source : String) : written (ofSource source) = source := by
  apply String.toList_injective
  rw [ofSource, written_place, flatten_runs]

theorem start_of_place (split : place start all = front ++ lexeme :: behind) :
    lexeme.start = start + (written front).utf8ByteSize := by
  induction front generalizing start all with
  | nil =>
      cases all with
      | nil => cases split
      | cons run rest =>
          injection split with first _
          rw [← first]
          rfl
  | cons first front ih =>
      cases all with
      | nil => cases split
      | cons run rest =>
          injection split with same later
          rw [ih later, stop, written_cons, String.utf8ByteSize_append, ← same, Nat.add_assoc]

theorem contiguous_of_place (split : place start all = front ++ behind) :
    Contiguous start (front.map span) (start + (written front).utf8ByteSize) := by
  induction front generalizing start all with
  | nil => exact .nothing start
  | cons first front ih =>
      cases all with
      | nil => cases split
      | cons run rest =>
          injection split with same later
          have begins : first.start = start := by rw [← same]
          have further := ih later
          rw [same, stop, begins, Nat.add_assoc, ← String.utf8ByteSize_append, ← written_cons] at further
          rw [List.map_cons, span, stop, begins]
          exact .span further

theorem contiguous_of_source (split : ofSource source = front ++ behind) :
    Contiguous 0 (front.map span) (written front).utf8ByteSize := by
  have contiguous := contiguous_of_place split
  rwa [Nat.zero_add] at contiguous

theorem at_of_source (split : ofSource source = front ++ lexeme :: behind) :
    Text.At source lexeme.start lexeme.stop lexeme.text := by
  have begins := start_of_place split
  rw [Nat.zero_add] at begins
  refine ⟨written front, written behind, ?_, begins.symm, ?_⟩
  · rw [String.append_assoc, ← written_cons, ← written_append, ← split, written_of_source]
  · rw [String.utf8ByteSize_append, stop, begins]

end Lexeme

end Calculator
