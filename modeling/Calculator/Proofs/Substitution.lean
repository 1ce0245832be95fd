import Calculator.Proofs.Alike
import Calculator.Proofs.Balance
import Calculator.Proofs.PrintedResult

/-!
# A result in place of the expression

An expression in parentheses can be replaced by the printed result of it, whatever stands before and
behind, also where that is no expression at all. The readings behind the two need not be alike, since
one may be a sum and the other is not; they are alike when the parenthesis behind them has been read.
What is lost in the replacement is the depth of the expression alone.
-/

set_option autoImplicit false

namespace Calculator

theorem Reading.want_of_open_paren {state next : Reading}
    (stepped : state.step (.symbol .openParen) = some next) :
    ∃ context : Context .expression, next = context.want := by
  cases steps_of_step stepped with
  | sign context sign additive => exact absurd additive (by decide)
  | openParen context => exact ⟨_, rfl⟩
  | unaryName context function known => exact absurd known (by decide)
  | binaryName context function known => exact absurd known (by decide)
  | openUnary context function known => exact ⟨_, rfl⟩
  | openBinary context function known => exact ⟨_, rfl⟩
  | multiply context term operator multiplicative => exact absurd multiplicative (by decide)
  | add context tree operator additive => exact absurd additive (by decide)

theorem Reading.defined_of_open_paren {state next : Reading}
    (stepped : state.step (.symbol .openParen) = some next) (defined : state.Defined) :
    next.Defined := by
  apply Decidable.byContradiction
  intro undefined
  have closed := close_paren_of_undefined stepped defined undefined
  cases closed

namespace Standing

variable {standing next : Standing} {run : Lexeme.Run} {token : Token}

theorem defined_of_check (sound : standing.check = .ok ()) : standing.reading.Defined := by
  unfold check at sound
  split at sound
  · cases sound
  · split at sound
    · next defined => exact defined
    · cases sound

theorem step_of_taken (known : Token.ofRun? run = some token) (taken : standing.take run = .ok next) :
    standing.check = .ok () ∧ standing.reading.step token = some next.reading := by
  cases checked : standing.check with
  | error fault =>
      rw [take_of_failed_check known checked] at taken
      cases taken
  | ok nothing =>
      cases stepped : standing.reading.step token with
      | none =>
          rw [take_of_blocked known checked stepped] at taken
          cases taken
      | some state =>
          rw [take_of_step known checked stepped] at taken
          cases taken
          exact ⟨rfl, rfl⟩

/-- Two expressions of the same value are not told apart once the parenthesis behind them is read. -/
theorem conclude_behind_same_value {context : Context .expression} {tree twin : Tree .expression}
    (same : tree.value = twin.value) (openGroups : Nat)
    (known : Token.ofRun? run = some (.symbol .closeParen)) (behind : List Lexeme.Run) :
    conclude { reading := context.settle tree, openGroups } (run :: behind) =
      conclude { reading := context.settle twin, openGroups } (run :: behind) := by
  rw [conclude_cons, conclude_cons]
  refine bind_of_agree (take_agrees known ?_ rfl ?_ ?_) fun _ _ again => conclude_of_alike again behind
  · simp only [check, Context.settle_defined, Tree.defined_iff_of_same_value same]
  · intro text
    rw [Context.settle_refusal, Context.settle_refusal]
  · rw [Context.step_settle_expression (by decide), Context.step_settle_expression (by decide)]
    exact (Context.Alike.refl context).after_expression same .closeParen

theorem conclude_past_tree {context : Context .expression} {tree : Tree .expression}
    {openGroups : Nat} {front : List Lexeme.Run}
    (accepted : front.map Token.ofRun? = tree.tokens.map some)
    (defined : (context.settle tree).Defined) (behind : List Lexeme.Run) :
    conclude { reading := context.want, openGroups } (front ++ behind) =
        conclude { reading := context.settle tree, openGroups } behind ∨
      conclude { reading := context.want, openGroups } (front ++ behind) =
          .error (.nestingTooDeep nestingLimit) ∧
        ∃ count ∈ openGroups :: groupCounts openGroups tree.tokens, nestingLimit < count := by
  rcases take_all_read accepted (context.read_tree tree) defined with taken | ⟨failed, deep⟩
  · left
    rw [groups_behind_tree] at taken
    exact conclude_of_all_taken taken behind
  · right
    exact ⟨conclude_of_failed failed behind, deep⟩

theorem conclude_of_deep {run : Lexeme.Run} {token : Token} (known : Token.ofRun? run = some token)
    (deep : nestingLimit < standing.openGroups) (behind : List Lexeme.Run) :
    standing.conclude (run :: behind) = .error (.nestingTooDeep nestingLimit) := by
  apply conclude_of_failed_check (check_of_deep deep)
  intro next first
  cases first
  rw [known]
  exact Option.some_ne_none token

section Replaced

variable {closing : Lexeme.Run} {tree twin : Tree .expression} {inner plain : List Lexeme.Run}

/-- The expression `tree` and one of the same value that opens no group come to the same end. -/
theorem conclude_of_same_value {context : Context .expression} {openGroups : Nat}
    (closes : Token.ofRun? closing = some (.symbol .closeParen))
    (accepted : inner.map Token.ofRun? = tree.tokens.map some)
    (acceptedPlain : plain.map Token.ofRun? = twin.tokens.map some)
    (flat : ∀ count ∈ groupCounts openGroups twin.tokens, count = openGroups)
    (same : tree.value = twin.value) (defined : context.Defined ∧ tree.Defined)
    (behind : List Lexeme.Run)
    (shallow : conclude { reading := context.want, openGroups } (inner ++ closing :: behind) ≠
      .error (.nestingTooDeep nestingLimit)) :
    conclude { reading := context.want, openGroups } (inner ++ closing :: behind) =
      conclude { reading := context.want, openGroups } (plain ++ closing :: behind) := by
  have settled := (context.settle_defined tree).mpr defined
  have settledPlain := (context.settle_defined twin).mpr
    ⟨defined.1, (Tree.defined_iff_of_same_value same).mp defined.2⟩
  rcases conclude_past_tree accepted settled (closing :: behind) with past | ⟨failed, _⟩
  · -- A group that is itself too deep is refused at the parenthesis that closes it, at the latest.
    have notDeep : ¬nestingLimit < openGroups := by
      intro deep
      apply shallow
      rw [past]
      exact conclude_of_deep closes deep behind
    rcases conclude_past_tree acceptedPlain settledPlain (closing :: behind) with
      pastPlain | ⟨_, count, member, deep⟩
    · rw [past, pastPlain]
      exact conclude_behind_same_value same openGroups closes behind
    · rcases List.mem_cons.mp member with rfl | later
      · exact absurd deep notDeep
      · rw [flat count later] at deep
        exact absurd deep notDeep
  · exact absurd failed shallow

theorem conclude_group_of_same_value {opening : Lexeme.Run}
    (opens : Token.ofRun? opening = some (.symbol .openParen))
    (closes : Token.ofRun? closing = some (.symbol .closeParen))
    (accepted : inner.map Token.ofRun? = tree.tokens.map some)
    (acceptedPlain : plain.map Token.ofRun? = twin.tokens.map some)
    (flat : ∀ openGroups, ∀ count ∈ groupCounts openGroups twin.tokens, count = openGroups)
    (same : tree.value = twin.value) (defined : tree.Defined) (behind : List Lexeme.Run)
    (shallow : standing.conclude (opening :: (inner ++ closing :: behind)) ≠
      .error (.nestingTooDeep nestingLimit)) :
    standing.conclude (opening :: (inner ++ closing :: behind)) =
      standing.conclude (opening :: (plain ++ closing :: behind)) := by
  cases taken : standing.take opening with
  | error fault =>
      rw [conclude_cons, conclude_cons, taken]
      rfl
  | ok inside =>
      obtain ⟨sound, stepped⟩ := step_of_taken opens taken
      obtain ⟨context, missing⟩ := Reading.want_of_open_paren stepped
      have outer : context.Defined := by
        rw [missing] at stepped
        exact context.want_defined.mp
          (Reading.defined_of_open_paren stepped (defined_of_check sound))
      obtain ⟨reading, openGroups⟩ := inside
      have begun : reading = context.want := missing
      subst begun
      rw [conclude_of_taken taken] at shallow ⊢
      rw [conclude_of_taken taken]
      exact conclude_of_same_value closes accepted acceptedPlain (flat openGroups) same
        ⟨outer, defined⟩ behind shallow

end Replaced

end Standing

theorem tree_of_evaluated {expression : String} {value : Binary64}
    (evaluated : evaluate expression = .ok value) :
    ∃ tree : Tree .expression,
      (Lexeme.runs (Text.stripWhitespace expression).toList).map Token.ofRun? =
        tree.tokens.map some ∧ tree.value = .ok value := by
  obtain ⟨stop, finished⟩ := evaluate_ok_iff_done.mp evaluated
  obtain ⟨tree, accepted, _, valued⟩ := read_source_done finished
  rw [← Token.map_of_run, Lexeme.map_run_of_source] at accepted
  exact ⟨tree, accepted, valued⟩

theorem runs_of_group (before inner after : String) :
    Lexeme.runs (Text.stripWhitespace (before ++ "(" ++ inner ++ ")" ++ after)).toList =
      Lexeme.runs (Text.stripWhitespace before).toList ++
        .ofMark '(' .openParen ::
          (Lexeme.runs (Text.stripWhitespace inner).toList ++
            .ofMark ')' .closeParen :: Lexeme.runs (Text.stripWhitespace after).toList) := by
  have opening : (Text.stripWhitespace "(").toList = ['('] := by decide
  have closing : (Text.stripWhitespace ")").toList = [')'] := by decide
  simp only [Text.strip_whitespace_append, opening, closing, List.append_assoc,
    List.cons_append, List.nil_append]
  rw [Lexeme.runs_around_mark _ (rfl : Operator.ofMark? '(' = some .openParen),
    Lexeme.runs_around_mark _ (rfl : Operator.ofMark? ')' = some .closeParen)]

/-- An expression in parentheses and its printed result in parentheses are evaluated to the same value or
the same fault, wherever they stand, if nothing is too deep with the expression. -/
theorem printed_result_stands_in {before inner after : String} {value : Binary64}
    (evaluated : evaluate inner = .ok value) (finite : value.isFinite = true)
    (notNegativeZero : value ≠ .finite true .zero)
    (shallow : evaluate (before ++ "(" ++ inner ++ ")" ++ after) ≠
      .error (.nestingTooDeep nestingLimit)) :
    evaluate (before ++ "(" ++ inner ++ ")" ++ after) =
      evaluate (before ++ "(" ++ value.resultText ++ ")" ++ after) := by
  cases value with
  | nan => cases finite
  | infinity negative => cases finite
  | finite negative magnitude =>
      obtain ⟨tree, accepted, valued⟩ := tree_of_evaluated evaluated
      have same : tree.value = (Tree.ofResult negative magnitude).value := by
        rw [valued, Tree.of_result_value notNegativeZero]
      rw [evaluate_eq_conclude, runs_of_group] at shallow
      rw [evaluate_eq_conclude, evaluate_eq_conclude, runs_of_group, runs_of_group]
      cases reached : Standing.start.takeAll (Lexeme.runs (Text.stripWhitespace before).toList) with
      | error fault => rw [Standing.conclude_of_failed reached, Standing.conclude_of_failed reached]
      | ok standing =>
          rw [Standing.conclude_of_all_taken reached] at shallow
          rw [Standing.conclude_of_all_taken reached, Standing.conclude_of_all_taken reached]
          exact Standing.conclude_group_of_same_value rfl rfl accepted
            (printed_runs negative magnitude) (fun _ _ member => Tree.group_counts_of_result member)
            same ⟨_, valued⟩ _ shallow

/-- The difference is printed with a sign, which is read in its place. -/
theorem printed_difference_stands_in :
    evaluate ("2*" ++ "(" ++ "1-4" ++ ")" ++ "%5") =
      evaluate ("2*" ++ "(" ++ "-3" ++ ")" ++ "%5") := by
  have evaluated : evaluate "1-4" = .ok (Binary64.ofNat 3).neg := by
    have answered : (evaluate "1-4").toOption = some (Binary64.ofNat 3).neg := by decide +kernel
    cases outcome : evaluate "1-4" with
    | error fault =>
        rw [outcome] at answered
        cases answered
    | ok value =>
        rw [outcome] at answered
        exact congrArg Except.ok (Option.some.inj answered)
  have printed : (Binary64.ofNat 3).neg.resultText = "-3" := by decide +kernel
  have shallow : evaluate ("2*" ++ "(" ++ "1-4" ++ ")" ++ "%5") ≠
      .error (.nestingTooDeep nestingLimit) := by
    intro deep
    have answered : (evaluate ("2*" ++ "(" ++ "1-4" ++ ")" ++ "%5")).toOption.isSome = true := by
      decide +kernel
    rw [deep] at answered
    cases answered
  have same := printed_result_stands_in evaluated (by decide +kernel) (by decide +kernel) shallow
  rw [printed] at same
  exact same

end Calculator
