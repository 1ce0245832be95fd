import Calculator.Proofs.Standing

/-!
# What has been scanned settles the fault

An evaluation that fails before it has seen the end of its source fails for the lexemes scanned so far.
Whatever stands behind them, also what has no token and what would be too deep, is never looked at:
another source that begins with the same lexemes fails with the same fault.
-/

set_option autoImplicit false

namespace Calculator

/-- The lexemes of a source that have been scanned: those behind the cursor and the one it looks at. -/
def Cursor.scanned (source : String) (cursor : Cursor) : List Lexeme :=
  let lexemes := Lexeme.ofSource source
  lexemes.take (lexemes.length - cursor.pending.length)

/-- The end of the source has been seen: nothing is in view, and not because the first lexeme has no
token. -/
def SawEnd (fault : Fault) (stopped : Cursor) : Prop :=
  stopped.lookahead = .finish ∧ fault.isLexical = false

theorem Cursor.scanned_of_split {source : String} {cursor : Cursor} {scanned : List Lexeme}
    (split : Lexeme.ofSource source = scanned ++ cursor.pending) :
    cursor.scanned source = scanned := by
  simp [Cursor.scanned, split]

/-- A fault found before the end is found by the lexemes scanned, and by no others. -/
theorem take_all_scanned {source : String} {fault : Fault} {stopped : Cursor}
    (failed : readSource source = .failed fault stopped) (unseen : ¬SawEnd fault stopped) :
    Lexeme.ofSource source = stopped.scanned source ++ stopped.pending ∧
      Standing.start.takeAll ((stopped.scanned source).map Lexeme.run) = .error fault := by
  cases read_source_shown failed with
  | within scanned split refused =>
      rw [Cursor.scanned_of_split split]
      exact ⟨split, refused⟩
  | atEnd finished beyond _ => exact absurd ⟨finished, beyond⟩ unseen

/-- Nothing behind the lexemes scanned changes the fault: a source with the same first `count` lexemes,
which are all that the evaluation has scanned, fails with it too. -/
theorem fault_settled_by_scanned {expression other : String} {fault : Fault} {stopped : Cursor}
    {count : Nat}
    (failed : readSource (Text.stripWhitespace expression) = .failed fault stopped)
    (within : (stopped.scanned (Text.stripWhitespace expression)).length ≤ count)
    (unseen : ¬SawEnd fault stopped)
    (same : ((Lexeme.ofSource (Text.stripWhitespace expression)).take count).map Lexeme.run =
      ((Lexeme.ofSource (Text.stripWhitespace other)).take count).map Lexeme.run) :
    evaluate expression = .error fault ∧ evaluate other = .error fault := by
  obtain ⟨split, refused⟩ := take_all_scanned failed unseen
  constructor
  · exact evaluate_error_iff_failed.mpr ⟨stopped, failed⟩
  · rw [split, List.take_append, List.take_of_length_le within, List.map_append] at same
    rw [evaluate_eq_conclude, ← Lexeme.map_run_of_source,
      ← List.take_append_drop count (Lexeme.ofSource (Text.stripWhitespace other)),
      List.map_append, ← same, List.append_assoc]
    exact Standing.conclude_of_failed refused _

/-- Neither an unknown run behind the call nor the end of the source is noticed. -/
theorem missing_parameter_settled :
    evaluate "pow(2)@7" = .error .secondParameterExpected ∧
      evaluate " pow (2)" = .error .secondParameterExpected := by
  have failed : readSource (Text.stripWhitespace "pow(2)@7") =
      .failed .secondParameterExpected
        (readSource (Text.stripWhitespace "pow(2)@7")).cursor := by
    with_unfolding_all rfl
  have view : (readSource (Text.stripWhitespace "pow(2)@7")).cursor.lookahead =
      .symbol .closeParen := by
    with_unfolding_all rfl
  have unseen : ¬SawEnd .secondParameterExpected
      (readSource (Text.stripWhitespace "pow(2)@7")).cursor := by
    intro seen
    have finished := seen.1
    rw [view] at finished
    cases finished
  have count : ((readSource (Text.stripWhitespace "pow(2)@7")).cursor.scanned
      (Text.stripWhitespace "pow(2)@7")).length = 4 := by
    with_unfolding_all rfl
  have first : (Lexeme.ofSource (Text.stripWhitespace "pow(2)@7")).take 4 =
      [⟨.word, "pow", 0⟩, ⟨.mark .openParen, "(", 3⟩, ⟨.numeral, "2", 4⟩,
        ⟨.mark .closeParen, ")", 5⟩] := by
    decide
  have second : (Lexeme.ofSource (Text.stripWhitespace " pow (2)")).take 4 =
      [⟨.word, "pow", 0⟩, ⟨.mark .openParen, "(", 3⟩, ⟨.numeral, "2", 4⟩,
        ⟨.mark .closeParen, ")", 5⟩] := by
    decide
  exact fault_settled_by_scanned failed (Nat.le_of_eq count) unseen (by rw [first, second])

end Calculator
