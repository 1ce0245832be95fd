import Calculator.Proofs.Simulation

/-!
# Reading a whole source

Evaluation opens a source, reads one expression and asks for the end. What it answers is settled by the
walk of the machine from the first lexeme: a value by the tree of all tokens, a fault by the place where
the walk halts.
-/

set_option autoImplicit false

namespace Calculator

theorem evaluate_eq (expression : String) :
    evaluate expression = (readSource (Text.stripWhitespace expression)).toExcept := by
  rw [evaluate, Evaluation.ofExpression, Evaluation.ofSource]

theorem evaluate_ok_iff_done {expression : String} {value : Binary64} :
    evaluate expression = .ok value ↔
      ∃ stop, readSource (Text.stripWhitespace expression) = .done value stop := by
  rw [evaluate_eq]
  cases readSource (Text.stripWhitespace expression) with
  | done answer stop => simp [Outcome.toExcept]
  | failed fault stopped => simp [Outcome.toExcept]

theorem evaluate_error_iff_failed {expression : String} {fault : Fault} :
    evaluate expression = .error fault ↔
      ∃ stopped, readSource (Text.stripWhitespace expression) = .failed fault stopped := by
  rw [evaluate_eq]
  cases readSource (Text.stripWhitespace expression) with
  | done answer stop => simp [Outcome.toExcept]
  | failed other stopped => simp [Outcome.toExcept]

theorem follows_parse_all (cursor : Cursor) :
    Follows Reading.start cursor (parseAll cursor) fun value last stop =>
      ∃ tree, last = Context.start.settle tree ∧ tree.value = .ok value ∧
        stop.lookahead = .finish := by
  apply Follows.andThen (simulates .expression cursor .start trivial)
  intro value _ stop _ arrived
  obtain ⟨tree, rfl, valued, stops⟩ := arrived
  unfold Cursor.finish
  split
  · next finished => exact Follows.done ⟨tree, rfl, valued, Token.is_finish_iff.mp finished⟩
  · next leftOver =>
      have blocked : (Context.start.settle tree).step stop.lookahead = none :=
        Context.settle_blocked stops nofun
      have named : (Context.start.settle tree).refusal stop.text = .unexpectedToken stop.text :=
        Context.settle_refusal stop.text
      rw [← named]
      exact Follows.halt (.refused blocked
        (fun finished => absurd (Token.is_finish_iff.mpr finished) leftOver) rfl)

/-- The machine has read `tokens` of the source, which are all that the cursor has behind it. -/
structure Reached (source : String) (tokens : List Token) (state : Reading) (place : Cursor)
    (ahead : List Lexeme) : Prop where
  split : ∃ behind, Lexeme.ofSource source = behind ++ ahead ∧
    behind.map Token.ofLexeme? = tokens.map some
  shows : place.Shows ahead
  read : Reading.start.read tokens = some state
  defined : state.Defined
  groups : place.openGroups = tokens.foldl (fun count token => token.groupsAfter count) 0
  shallow : deepest tokens ≤ nestingLimit

namespace Reached

variable {source : String} {tokens : List Token} {state : Reading} {place : Cursor}
  {ahead : List Lexeme}

theorem of_walk {first : Cursor} (opened : first.Shows (Lexeme.ofSource source))
    (noGroups : first.openGroups = 0) (walk : Walk Reading.start first tokens state place) :
    ∃ ahead, Reached source tokens state place ahead := by
  obtain ⟨behind, ahead, split, accepted, shows, groups, counts⟩ :=
    walk.scanned opened (by rw [noGroups]; exact Nat.zero_le _)
  rw [noGroups] at groups counts
  exact ⟨ahead, ⟨behind, split, accepted⟩, shows, walk.read, walk.defined trivial, groups,
    deepest_le_iff.mpr counts⟩

theorem taken (reached : Reached source tokens state place ahead) :
    place.taken source = tokens := by
  obtain ⟨behind, split, accepted⟩ := reached.split
  exact Cursor.taken_of_shows split accepted reached.shows

end Reached

theorem read_source_cases (source : String) :
    (∃ bad rest stopped, Lexeme.ofSource source = bad :: rest ∧ Token.ofLexeme? bad = none ∧
        readSource source = .failed (.unknownOperator bad.text) stopped) ∨
      ∃ first, first.Shows (Lexeme.ofSource source) ∧ first.openGroups = 0 ∧
        readSource source = parseAll first := by
  unfold readSource Cursor.openSource
  cases opened : (Cursor.ofSource source).advance with
  | done answer first =>
      obtain ⟨shows, groups⟩ := Cursor.advance_done opened
      exact Or.inr ⟨first, shows, groups, rfl⟩
  | failed fault stopped =>
      obtain ⟨bad, rest, pending, unknown, rfl⟩ := Cursor.advance_failed opened
      exact Or.inl ⟨bad, rest, stopped, pending, unknown, rfl⟩

theorem read_source_done {source : String} {value : Binary64} {stop : Cursor}
    (finished : readSource source = .done value stop) :
    ∃ tree : Tree .expression,
      (Lexeme.ofSource source).map Token.ofLexeme? = tree.tokens.map some ∧
        deepest tree.tokens ≤ nestingLimit ∧ tree.value = .ok value := by
  rcases read_source_cases source with ⟨_, _, _, _, _, failed⟩ | ⟨first, opened, noGroups, same⟩
  · rw [failed] at finished
    cases finished
  · have follows := follows_parse_all first
    rw [← same, finished] at follows
    obtain ⟨tokens, _, walk, tree, rfl, valued, ended⟩ := follows
    obtain ⟨ahead, reached⟩ := Reached.of_walk opened noGroups walk
    obtain ⟨behind, split, accepted⟩ := reached.split
    have whole : tree.tokens = tokens := by
      have read := Reading.read_tokens reached.read
      rwa [Context.settle_tokens, Reading.start_tokens] at read
    have nothing : ahead = [] := by
      cases ahead with
      | nil => rfl
      | cons lexeme rest =>
          have known := reached.shows.1
          rw [ended] at known
          exact absurd known (Token.of_lexeme_ne_finish lexeme)
    rw [nothing, List.append_nil] at split
    refine ⟨tree, ?_, ?_, valued⟩
    · rw [split, accepted, whole]
    · rw [whole]
      exact reached.shallow

theorem read_source_failed {source : String} {fault : Fault} {stopped : Cursor}
    (failed : readSource source = .failed fault stopped) :
    (∃ bad rest, Lexeme.ofSource source = bad :: rest ∧ Token.ofLexeme? bad = none ∧
        fault = .unknownOperator bad.text) ∨
      ∃ tokens state place ahead, Reached source tokens state place ahead ∧
        Halts state place fault stopped := by
  rcases read_source_cases source with ⟨bad, rest, _, split, unknown, broken⟩ |
    ⟨first, opened, noGroups, same⟩
  · rw [broken] at failed
    cases failed
    exact Or.inl ⟨bad, rest, split, unknown, rfl⟩
  · have follows := follows_parse_all first
    rw [← same, failed] at follows
    obtain ⟨tokens, state, place, walk, halts⟩ := follows
    obtain ⟨ahead, reached⟩ := Reached.of_walk opened noGroups walk
    exact Or.inr ⟨tokens, state, place, ahead, reached, halts⟩

end Calculator
