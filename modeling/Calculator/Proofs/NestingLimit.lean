import Calculator.Proofs.Cause
import Calculator.Proofs.Runs

/-!
# The limit of nesting

An evaluation is refused for its depth at one place only: the parenthesis that opens the first group
beyond the limit, if an expression can go on with it, no factorial before it lacks a value, and the lexeme
behind it has a token. So depth is a matter of groups that are open at a time, not of how many there are.
-/

set_option autoImplicit false

namespace Calculator

/-- The tokens of a source; a lexeme without a token opens and closes nothing. -/
def sourceTokens (source : String) : List Token :=
  (Lexeme.ofSource source).filterMap Token.ofLexeme?

/-- A parenthesis behind the tokens opens the first group beyond the limit, and nothing is wrong with it
but its depth. -/
structure OpensTooMany (tokens : List Token) : Prop where
  viable : Viable (tokens ++ [.symbol .openParen])
  shallow : deepest tokens ≤ nestingLimit
  unclosed : groupsBehind 0 (tokens ++ [.symbol .openParen]) = nestingLimit + 1
  whole : ¬FaultyCall tokens

theorem filter_map_accepted {lexemes : List Lexeme} {tokens : List Token}
    (accepted : lexemes.map Token.ofLexeme? = tokens.map some) :
    lexemes.filterMap Token.ofLexeme? = tokens := by
  have flattened := congrArg (List.filterMap id) accepted
  simpa [List.filterMap_map, Function.comp_def] using flattened

theorem groups_behind_snoc (tokens : List Token) (token : Token) :
    groupsBehind 0 (tokens ++ [token]) = token.groupsAfter (groupsBehind 0 tokens) :=
  groups_behind_append 0 tokens [token]

theorem groups_behind_le_deepest (tokens : List Token) : groupsBehind 0 tokens ≤ deepest tokens :=
  groups_behind_le (Nat.zero_le _) (deepest_le_iff.mp (Nat.le_refl _))

theorem Cursor.known_of_shows {cursor : Cursor} {ahead : List Lexeme} (shows : cursor.Shows ahead) :
    ∀ next ∈ ahead.head?, Token.ofLexeme? next ≠ none := by
  intro next first unknown
  cases ahead with
  | nil => cases first
  | cons scanned rest =>
      cases first
      rw [shows.1] at unknown
      cases unknown

theorem Reached.opens_too_many {source : String} {tokens : List Token} {state next : Reading}
    {place : Cursor} {ahead : List Lexeme} (reached : Reached source tokens state place ahead)
    (read : state.step (.symbol .openParen) = some next) (deep : nestingLimit < place.openGroups + 1) :
    OpensTooMany tokens where
  viable := Reading.viable_of_step reached.read read
  shallow := reached.shallow
  unclosed := by
    have before : groupsBehind 0 tokens = place.openGroups := reached.groups.symm
    have kept := reached.open_groups_le
    rw [groups_behind_snoc, before]
    show place.openGroups + 1 = nestingLimit + 1
    omega
  whole := reached.whole

theorem opens_too_many_of_evaluate {expression : String} {limit : Nat}
    (failed : evaluate expression = .error (.nestingTooDeep limit)) :
    limit = nestingLimit ∧ ∃ front paren behind tokens,
      Lexeme.ofSource (Text.stripWhitespace expression) = front ++ paren :: behind ∧
        front.map Token.ofLexeme? = tokens.map some ∧
          Token.ofLexeme? paren = some (.symbol .openParen) ∧
            (∀ next ∈ behind.head?, Token.ofLexeme? next ≠ none) ∧ OpensTooMany tokens := by
  obtain ⟨stopped, failedSource⟩ := evaluate_error_iff_failed.mp failed
  rcases read_source_failed failedSource with
    ⟨_, _, _, _, named⟩ | ⟨tokens, state, place, ahead, reached, halts⟩
  · cases named
  · generalize reported : Fault.nestingTooDeep limit = fault at halts
    cases halts with
    | refused blocked unfinished same =>
        have syntactic := state.refusal_is_syntactic place.text
        rw [← reported] at syntactic
        cases syntactic
    | unknown read stuck =>
        obtain ⟨_, _, _, _, _, _, rfl⟩ :=
          Cursor.take_failed reached.shows (Reading.waiting_of_step read) stuck
        cases reported
    | undefined read took undefined => cases reported
    | tooDeep read took opened deep =>
        obtain ⟨front, split, accepted⟩ := reached.split
        obtain ⟨paren, behind, rfl, known, _, shows, groups⟩ := Cursor.take_done reached.shows took
        rw [opened] at read known groups
        rw [groups] at deep
        exact ⟨by injection reported, front, paren, behind, tokens, split, accepted, known,
          Cursor.known_of_shows shows, reached.opens_too_many read deep⟩

theorem evaluate_of_opens_too_many {expression : String} {front behind : List Lexeme}
    {paren : Lexeme} {tokens : List Token}
    (split : Lexeme.ofSource (Text.stripWhitespace expression) = front ++ paren :: behind)
    (accepted : front.map Token.ofLexeme? = tokens.map some)
    (known : Token.ofLexeme? paren = some (.symbol .openParen))
    (scanned : ∀ next ∈ behind.head?, Token.ofLexeme? next ≠ none)
    (opens : OpensTooMany tokens) :
    evaluate expression = .error (.nestingTooDeep nestingLimit) := by
  obtain ⟨next, reads⟩ := Reading.viable_iff_read.mp opens.viable
  rw [Reading.read_append] at reads
  obtain ⟨state, readsFront, readsParen⟩ := Option.bind_eq_some_iff.mp reads
  obtain ⟨inside, stepped, _⟩ := Option.bind_eq_some_iff.mp readsParen
  have defined : state.Defined := Decidable.byContradiction fun undefined =>
    opens.whole (Reading.faulty_of_undefined readsFront undefined)
  have counts := deepest_le_iff.mp opens.shallow
  rw [← Token.map_of_run] at accepted
  rw [← Token.of_run] at known
  have taken := Standing.take_all_of_shallow accepted readsFront defined (Nat.zero_le _) counts
  have sound := @Standing.check_of_sound { reading := state, openGroups := groupsBehind 0 tokens }
    (groups_behind_le (Nat.zero_le _) counts) defined
  have opened : Standing.take { reading := state, openGroups := groupsBehind 0 tokens } paren.run =
      .ok { reading := inside, openGroups := nestingLimit + 1 } := by
    rw [← opens.unclosed, groups_behind_snoc]
    exact Standing.take_of_step known sound stepped
  rw [evaluate_eq_conclude, ← Lexeme.map_run_of_source, split, List.map_append, List.map_cons,
    Standing.start, Standing.conclude_of_all_taken taken]
  refine (Standing.conclude_of_taken opened _).trans
    (Standing.conclude_of_failed_check (Standing.check_of_deep (Nat.lt_succ_self _)) ?_)
  -- The lexeme behind the parenthesis is scanned before the depth is checked.
  intro run first
  rw [List.head?_map] at first
  obtain ⟨next, isNext, rfl⟩ := Option.map_eq_some_iff.mp first
  rw [Token.of_run]
  exact scanned next isNext

/-- Where an expression is refused for its depth; one that is never deeper than the limit is not refused
for it, whatever stands side by side in it, and one that is deeper has no value. -/
theorem nesting_too_deep_iff (expression : String) :
    (evaluate expression = .error (.nestingTooDeep nestingLimit) ↔
      ∃ front paren behind tokens,
        Lexeme.ofSource (Text.stripWhitespace expression) = front ++ paren :: behind ∧
          front.map Token.ofLexeme? = tokens.map some ∧
            Token.ofLexeme? paren = some (.symbol .openParen) ∧
              (∀ next ∈ behind.head?, Token.ofLexeme? next ≠ none) ∧ OpensTooMany tokens) ∧
      (deepest (sourceTokens (Text.stripWhitespace expression)) ≤ nestingLimit →
        ∀ limit, evaluate expression ≠ .error (.nestingTooDeep limit)) ∧
        (nestingLimit < deepest (sourceTokens (Text.stripWhitespace expression)) →
          ∀ value, evaluate expression ≠ .ok value) := by
  refine ⟨⟨fun failed => (opens_too_many_of_evaluate failed).2, ?_⟩, ?_, ?_⟩
  · intro place
    obtain ⟨front, paren, behind, tokens, split, accepted, known, scanned, opens⟩ := place
    exact evaluate_of_opens_too_many split accepted known scanned opens
  · intro shallow limit failed
    obtain ⟨_, front, paren, behind, tokens, split, accepted, known, _, opens⟩ :=
      opens_too_many_of_evaluate failed
    have whole : sourceTokens (Text.stripWhitespace expression) =
        tokens ++ [.symbol .openParen] ++ behind.filterMap Token.ofLexeme? := by
      rw [sourceTokens, split, List.filterMap_append, filter_map_accepted accepted,
        List.filterMap_cons_some known, List.append_assoc]
      rfl
    rw [whole] at shallow
    have bounded := Nat.le_trans (groups_behind_le_deepest _) (deepest_of_append shallow)
    rw [opens.unclosed] at bounded
    exact absurd bounded (Nat.not_succ_le_self nestingLimit)
  · intro deep value finished
    obtain ⟨stop, finishedSource⟩ := evaluate_ok_iff_done.mp finished
    obtain ⟨tree, accepted, shallow, _⟩ := read_source_done finishedSource
    rw [sourceTokens, filter_map_accepted accepted] at deep
    exact absurd shallow (Nat.not_le.mpr deep)

/-- A hundred and twenty-nine parentheses and nothing behind them: the last one is too deep, and the
missing operand does not show. -/
theorem parentheses_nested_too_deep :
    evaluate (String.ofList (List.replicate 129 '(')) =
      .error (.nestingTooDeep nestingLimit) := by
  have blankless := @Text.strip_whitespace_of_no_blank (List.replicate 129 '(') (by
    intro character member
    rw [List.eq_of_mem_replicate member]
    decide)
  have runs : Lexeme.runs (List.replicate 129 '(') =
      List.replicate 128 (.ofMark '(' .openParen) ++ [.ofMark '(' .openParen] := by
    decide +kernel
  obtain ⟨stop, placed⟩ := Lexeme.place_append 0 (List.replicate 128 (.ofMark '(' .openParen))
    [.ofMark '(' .openParen]
  have split : Lexeme.ofSource (Text.stripWhitespace (String.ofList (List.replicate 129 '('))) =
      Lexeme.place 0 (List.replicate 128 (.ofMark '(' .openParen)) ++
        ⟨.mark .openParen, "(", stop⟩ :: [] := by
    rw [Lexeme.ofSource, blankless, runs]
    exact placed
  have accepted : (Lexeme.place 0 (List.replicate 128 (.ofMark '(' .openParen))).map
      Token.ofLexeme? = (List.replicate 128 (.symbol .openParen)).map some := by
    rw [← Token.map_of_run, Lexeme.map_run_place]
    rfl
  have viable : Viable (List.replicate 128 (.symbol .openParen) ++ [.symbol .openParen]) :=
    Reading.viable_iff_read.mpr (Option.isSome_iff_exists.mp (by decide +kernel))
  have notClosed : ¬FaultyCall (List.replicate 128 (.symbol .openParen)) := fun faulty => by
    have closed := faulty.closed
    simp at closed
  exact (nesting_too_deep_iff _).1.mpr ⟨_, _, _, _, split, accepted, rfl, nofun,
    viable, by decide +kernel, by decide +kernel, notClosed⟩

end Calculator
