import Calculator.Proofs.Course

/-!
# Every call finds what it asks for

What takes a token or applies an operator is prepared to be asked for the wrong thing, and then names a token
that nobody expected. No rule asks for the wrong thing: it has looked at the token before it takes it, and it
keeps apart the operators that it has taken. So that fault has one origin. It is found behind a whole
expression, where the source goes on, and it names what stands there as it is written.
-/

set_option autoImplicit false

namespace Calculator

theorem fits_compositional :
    Compositional fun _ _ _ moves => ∀ call, .call call ∈ moves → call.Fits where
  rests := fun _ _ made => absurd made List.not_mem_nil
  refuses := fun _ _ _ _ made => absurd made List.not_mem_nil
  calls := by
    intro call fits other made
    cases List.mem_singleton.mp made
    exact fits
  scopes := by
    intro scope start fault? stop inner fit call made
    simp only [enclosed, List.cons_append, List.mem_cons, List.mem_append, reduceCtorEq, false_or,
      List.not_mem_nil, or_false] at made
    exact fit call made
  appends := by
    intro start between fault? stop front rest first second call made
    exact (List.mem_append.mp made).elim (first call) (second call)

theorem parse_group_expected (cursor : Cursor) (text : String) (stopped : Cursor) :
    parseGroup? cursor ≠ .failed (.unexpectedToken text) stopped := by
  rw [parseGroup?]
  split
  · intro failed
    exact parse_expected .group cursor text stopped (Outcome.map_failed failed)
  · intro failed
    cases failed

/-- The expression ends before its source does, and `text` is the lexeme behind it as it is written. -/
def LeavesOver (source text : String) : Prop :=
  ∃ first value stop behind lexeme, Cursor.openSource source = .done () first ∧
    parse .expression first = .done value stop ∧
      Lexeme.ofSource source = behind ++ lexeme :: stop.pending ∧
        Token.ofLexeme? lexeme = some stop.lookahead ∧ lexeme.text = text

section

variable {source text : String} {first stop stopped : Cursor} {value : Binary64}

theorem ahead_of_parsed (opened : Cursor.openSource source = .done () first)
    (parsed : parse .expression first = .done value stop) :
    ∃ behind ahead, Lexeme.ofSource source = behind ++ ahead ∧ stop.Shows ahead := by
  obtain ⟨shows, groups⟩ := Cursor.advance_done opened
  have follows := simulates .expression first .start trivial
  rw [parsed] at follows
  obtain ⟨tokens, last, walk, _⟩ := follows
  obtain ⟨ahead, reached⟩ := Reached.of_walk shows groups walk
  obtain ⟨behind, split, _⟩ := reached.split
  exact ⟨behind, ahead, split, reached.shows⟩

theorem leaves_over_of_failed
    (failed : readSource source = .failed (.unexpectedToken text) stopped) : LeavesOver source text := by
  rw [readSource] at failed
  cases opened : Cursor.openSource source with
  | failed fault place =>
      obtain ⟨lexeme, rest, _, _, unknown⟩ := Cursor.advance_failed opened
      rw [opened, unknown] at failed
      cases failed
  | done _ first =>
      rw [opened] at failed
      change parseAll first = _ at failed
      rw [parseAll] at failed
      cases parsed : parse .expression first with
      | failed fault place =>
          rw [parsed] at failed
          cases failed
          exact absurd parsed (parse_expected .expression first text stopped)
      | done value stop =>
          rw [parsed] at failed
          change Cursor.finish value stop = _ at failed
          obtain ⟨behind, ahead, split, shows⟩ := ahead_of_parsed opened parsed
          unfold Cursor.finish at failed
          split at failed
          · cases failed
          · next unfinished =>
              cases failed
              cases ahead with
              | nil => exact absurd (Token.is_finish_iff.mpr shows.1) unfinished
              | cons lexeme rest =>
                  obtain ⟨known, written, pending⟩ := shows
                  rw [← pending] at split
                  exact ⟨first, value, stop, behind, lexeme, opened, parsed, split, known, written.symm⟩

theorem failed_of_leaves_over (leaves : LeavesOver source text) :
    ∃ stopped, readSource source = .failed (.unexpectedToken text) stopped := by
  obtain ⟨first, value, stop, behind, lexeme, opened, parsed, split, known, written⟩ := leaves
  obtain ⟨front, ahead, same, shows⟩ := ahead_of_parsed opened parsed
  have unfinished : ¬stop.lookahead.isFinish = true := by
    rw [Token.is_finish_iff]
    intro finished
    rw [finished] at known
    exact Token.of_lexeme_ne_finish lexeme known
  have place : stop.text = text := by
    cases ahead with
    | nil => exact absurd (Token.is_finish_iff.mpr shows.1) unfinished
    | cons other rest =>
        obtain ⟨_, viewed, rfl⟩ := shows
        obtain ⟨_, own⟩ := List.append_inj' (split.symm.trans same) rfl
        injection own with own _
        rw [viewed, ← own, written]
  have left : parseAll first = Cursor.finish value stop := by
    rw [parseAll, parsed]
    rfl
  have whole : readSource source = parseAll first := by
    rw [readSource, opened]
    rfl
  rw [whole, left, Cursor.finish, if_neg unfinished, place]
  exact ⟨_, rfl⟩

end

/-- No rule, from whatever cursor, asks for a token that is not in view or applies an operator that is not of
the sort. So none finds an unexpected token. An evaluation does exactly where its source goes on behind an
expression, and names the lexeme there by its own text. -/
theorem only_fitting_calls :
    (∀ rule cursor, ∃ moves, (Rule.script rule cursor).UnfoldsOnly (parse rule cursor) moves ∧
        ∀ call, .call call ∈ moves → call.Fits) ∧
      (∀ rule cursor text stopped, parse rule cursor ≠ .failed (.unexpectedToken text) stopped) ∧
        (∀ cursor text stopped, parseGroup? cursor ≠ .failed (.unexpectedToken text) stopped) ∧
          ∀ expression text, evaluate expression = .error (.unexpectedToken text) ↔
            LeavesOver (Text.stripWhitespace expression) text := by
  refine ⟨?_, parse_expected, parse_group_expected, ?_⟩
  · intro rule cursor
    obtain ⟨moves, unfolds⟩ := rule.exists_unfolds cursor
    exact ⟨moves, unfolds.only, fits_compositional.of_rule unfolds⟩
  · intro expression text
    rw [evaluate_error_iff_failed]
    constructor
    · intro failed
      obtain ⟨stopped, failed⟩ := failed
      exact leaves_over_of_failed failed
    · exact failed_of_leaves_over

/-- What is left over is a number that would be printed in another way. -/
example : evaluate "(1) 02.50" = .error (.unexpectedToken "02.50") := by
  with_unfolding_all rfl

end Calculator
