import Calculator.Proofs.Cause

/-!
# The evaluator against its grammar

An expression has a value exactly when all its lexemes are tokens, the tokens are those of a tree whose
groups are not nested too deep, and the tree has that value. Nothing is claimed here of the arithmetic:
both sides use the same operations on doubles.
-/

set_option autoImplicit false

namespace Calculator

namespace Tree

theorem not_faulty_of_defined {tree : Tree .expression} (defined : tree.Defined) :
    ¬FaultyCall tree.tokens := by
  have reads := Context.start.read_tree tree
  exact Reading.not_faulty_of_defined reads ((Context.start.settle_defined tree).mpr ⟨trivial, defined⟩)

theorem no_cause {tree : Tree .expression} {fault : Fault}
    (shallow : deepest tree.tokens ≤ nestingLimit) (defined : tree.Defined) :
    ¬Cause tree.tokens [] fault := by
  intro cause
  have sentence : IsSentence tree.tokens := ⟨tree, rfl⟩
  cases cause with
  | refused syntactic dead =>
      rcases dead with notViable | ⟨_, notSentence⟩
      · exact notViable sentence.viable
      · exact notSentence sentence
  | unknown split viable shallowBefore whole => cases split
  | tooDeep front more split scanned viable shallowBefore deep whole =>
      rw [split] at shallow
      exact deep (deepest_of_append shallow)
  | undefined front more split scanned viable shallowBefore whole faulty =>
      have later := faulty.append_right more
      rw [← split] at later
      exact not_faulty_of_defined defined later

end Tree

/-- The evaluator is sound and complete. Soundness is the walk that it takes; for completeness, every
other outcome is refuted: another value by the grammar not being ambiguous, a fault by its cause. -/
theorem evaluate_ok_iff (expression : String) (value : Binary64) :
    evaluate expression = .ok value ↔
      ∃ tree : Tree .expression,
        (Lexeme.ofSource (Text.stripWhitespace expression)).map Token.ofLexeme? =
            tree.tokens.map some ∧
          deepest tree.tokens ≤ nestingLimit ∧ tree.value = .ok value := by
  constructor
  · intro evaluated
    obtain ⟨stop, finished⟩ := evaluate_ok_iff_done.mp evaluated
    exact read_source_done finished
  · intro derived
    obtain ⟨tree, accepted, shallow, valued⟩ := derived
    have reads : ReadsAs [] (Lexeme.ofSource (Text.stripWhitespace expression)) tree.tokens := by
      rw [← List.append_nil (Lexeme.ofSource _)]
      exact ReadsAs.of_split accepted nofun
    cases outcome : evaluate expression with
    | ok answer =>
        obtain ⟨other, _, same, _, otherValued⟩ := tree_of_evaluate reads outcome
        rw [← tokens_injective same, valued] at otherValued
        exact otherValued.symm
    | error fault =>
        have cause := cause_of_evaluate reads outcome
        exact absurd cause (Tree.no_cause shallow ⟨value, valued⟩)

end Calculator
