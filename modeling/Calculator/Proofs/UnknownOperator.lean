import Calculator.Proofs.Cause

/-!
# When an unknown run is reported

A lexeme is scanned when the token before it is taken, ahead of every check that the token asks for. So
the first lexeme that is no token is reported exactly if nothing is wrong with the tokens before it as
far as they stand together, and nothing with the depth or the factorials before the last of them.
-/

set_option autoImplicit false

namespace Calculator

/-- The tokens let an evaluation come as far as to scan the lexeme behind them. -/
structure Scannable (tokens : List Token) : Prop where
  viable : Viable tokens
  shallow : deepest tokens.dropLast ≤ nestingLimit
  whole : ¬FaultyCall tokens.dropLast

theorem scannable_nil : Scannable [] where
  viable := viable_nil
  shallow := Nat.zero_le _
  whole := not_faulty_nil

namespace Cause

variable {tokens : List Token} {bad : Lexeme} {rest : List Lexeme} {fault : Fault}

theorem of_unknown {text : String} (cause : Cause tokens (bad :: rest) fault)
    (unknown : fault = .unknownOperator text) : text = bad.text ∧ Scannable tokens := by
  cases cause with
  | refused syntactic dead =>
      rw [unknown] at syntactic
      cases syntactic
  | unknown split viable shallow whole =>
      injection split with same
      injection unknown with written
      rw [← written, same]
      exact ⟨rfl, viable, shallow, whole⟩
  | tooDeep front more split scanned viable shallow deep whole => cases unknown
  | undefined front more split scanned viable shallow whole faulty => cases unknown

/-- The checks behind the last token come too late. -/
theorem unknown_of_scannable (cause : Cause tokens (bad :: rest) fault)
    (scannable : Scannable tokens) : fault = .unknownOperator bad.text := by
  cases cause with
  | refused syntactic dead =>
      rcases dead with notViable | ⟨nothing, _⟩
      · exact absurd scannable.viable notViable
      · cases nothing
  | unknown split viable shallow whole =>
      injection split with same
      rw [same]
  | tooDeep front more split scanned viable shallow deep whole =>
      have behind : more ≠ [] := fun nothing => nomatch scanned nothing
      have early := scannable.shallow
      rw [split, List.dropLast_append_of_ne_nil behind] at early
      exact absurd (deepest_of_append early) deep
  | undefined front more split scanned viable shallow whole faulty =>
      have behind : more ≠ [] := fun nothing => nomatch scanned nothing
      have late := scannable.whole
      rw [split, List.dropLast_append_of_ne_nil behind] at late
      exact absurd (faulty.append_right _) late

end Cause

/-- The first lexeme that is no token, where it is reported and that no later one is. -/
theorem unknown_operator_iff {expression : String} {front rest : List Lexeme} {bad : Lexeme}
    {tokens : List Token}
    (split : Lexeme.ofSource (Text.stripWhitespace expression) = front ++ bad :: rest)
    (accepted : front.map Token.ofLexeme? = tokens.map some)
    (rejected : Token.ofLexeme? bad = none) :
    (evaluate expression = .error (.unknownOperator bad.text) ↔
        tokens = [] ∨
          Viable tokens ∧ deepest tokens.dropLast ≤ nestingLimit ∧ ¬FaultyCall tokens.dropLast) ∧
      ∀ text, evaluate expression = .error (.unknownOperator text) → text = bad.text := by
  have reads : ReadsAs (bad :: rest) (Lexeme.ofSource (Text.stripWhitespace expression)) tokens := by
    rw [split]
    apply ReadsAs.of_split accepted
    intro lexeme first
    cases first
    exact rejected
  constructor
  · constructor
    · intro failed
      obtain ⟨_, scannable⟩ := (cause_of_evaluate reads failed).of_unknown rfl
      exact Or.inr ⟨scannable.viable, scannable.shallow, scannable.whole⟩
    · intro clear
      have scannable : Scannable tokens := by
        rcases clear with rfl | ⟨viable, shallow, whole⟩
        · exact scannable_nil
        · exact ⟨viable, shallow, whole⟩
      cases outcome : evaluate expression with
      | ok value =>
          obtain ⟨_, nothing, _⟩ := tree_of_evaluate reads outcome
          cases nothing
      | error fault =>
          rw [(cause_of_evaluate reads outcome).unknown_of_scannable scannable]
  · intro text failed
    exact ((cause_of_evaluate reads failed).of_unknown rfl).1

/-- The last parenthesis makes the factorial of two and a half, and the run behind it is reported first. -/
theorem unknown_run_behind_broken_factorial :
    evaluate "fact(2.5)@" = .error (.unknownOperator "@") := by
  have split : Lexeme.ofSource (Text.stripWhitespace "fact(2.5)@") =
      [⟨.word, "fact", 0⟩, ⟨.mark .openParen, "(", 4⟩, ⟨.numeral, "2.5", 5⟩,
        ⟨.mark .closeParen, ")", 8⟩] ++ ⟨.word, "@", 9⟩ :: [] := by
    decide
  have accepted : [⟨.word, "fact", 0⟩, ⟨.mark .openParen, "(", 4⟩, ⟨.numeral, "2.5", 5⟩,
        ⟨.mark .closeParen, ")", 8⟩].map Token.ofLexeme? =
      [.symbol .fact, .symbol .openParen, .number (Decimal.nearest ⟨25, -1⟩),
        .symbol .closeParen].map some := by
    rfl
  have sentence : IsSentence
      [.symbol .fact, .symbol .openParen, .number (Decimal.nearest ⟨25, -1⟩),
        .symbol .closeParen] :=
    ⟨.ofTerm (.ofUnary (.ofFactor (.ofGroup (.unaryCall .fact (by decide)
      (.ofTerm (.ofUnary (.ofFactor (.number (Decimal.nearest ⟨25, -1⟩))))))))), rfl⟩
  have notClosed : ¬FaultyCall
      [.symbol .fact, .symbol .openParen, .number (Decimal.nearest ⟨25, -1⟩)] :=
    fun faulty => by simpa using faulty.closed
  have reported := (unknown_operator_iff split accepted rfl).1
  exact reported.mpr (Or.inr ⟨sentence.viable, by decide, notClosed⟩)

end Calculator
