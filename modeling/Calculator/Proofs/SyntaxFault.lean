import Calculator.Proofs.OpenGroups
import Calculator.Proofs.SourceReading

/-!
# Syntactic faults

Which syntactic fault is reported, and where. The fault is told by the tokens taken, the groups open
behind them and the look-ahead (`Diagnosed`), and it is found at the first token with which they are no
longer the beginning of an expression.
-/

set_option autoImplicit false

namespace Calculator

/-- The fault behind an operand, where nothing goes on with it and none of the groups is closed. -/
def OpenGroup.refusal (groups : List OpenGroup) (text : String) : Fault :=
  match groups with
  | [] => .unexpectedToken text
  | .firstArgument :: _ => .secondParameterExpected
  | _ => .unclosedParenthesis

/-- Each syntactic fault, behind the tokens taken and with a look-ahead written as `text`. -/
structure Diagnosed (tokens : List Token) (ahead : Token) (text : String) (fault : Fault) : Prop where
  name : fault = .parenthesizedEquationExpected ↔
    EndsInName tokens ∧ ahead ≠ .symbol .openParen
  operand : fault = .numberExpected ↔ AwaitsOperand tokens ∧ ¬CanBeginOperand tokens ahead
  parameter : fault = .secondParameterExpected ↔
    EndsInOperand tokens ∧ (openGroups tokens).head? = some .firstArgument
  unclosed : fault = .unclosedParenthesis ↔
    EndsInOperand tokens ∧ ∃ group ∈ (openGroups tokens).head?, group ≠ .firstArgument
  leftOver (written : String) : fault = .unexpectedToken written ↔
    EndsInOperand tokens ∧ openGroups tokens = [] ∧ written = text

namespace Diagnosed

variable {tokens : List Token} {ahead : Token} {text : String}

theorem of_name (named : EndsInName tokens) (other : ahead ≠ .symbol .openParen) :
    Diagnosed tokens ahead text .parenthesizedEquationExpected where
  name := iff_of_true rfl ⟨named, other⟩
  operand := iff_of_false nofun fun awaiting => not_name_of_awaits awaiting.1 named
  parameter := iff_of_false nofun fun ended => not_name_of_ends_in_operand ended.1 named
  unclosed := iff_of_false nofun fun ended => not_name_of_ends_in_operand ended.1 named
  leftOver _ := iff_of_false nofun fun ended => not_name_of_ends_in_operand ended.1 named

theorem of_operand (awaits : AwaitsOperand tokens) (cannot : ¬CanBeginOperand tokens ahead) :
    Diagnosed tokens ahead text .numberExpected where
  name := iff_of_false nofun fun named => not_name_of_awaits awaits named.1
  operand := iff_of_true rfl ⟨awaits, cannot⟩
  parameter := iff_of_false nofun fun ended => not_awaits_of_ends_in_operand ended.1 awaits
  unclosed := iff_of_false nofun fun ended => not_awaits_of_ends_in_operand ended.1 awaits
  leftOver _ := iff_of_false nofun fun ended => not_awaits_of_ends_in_operand ended.1 awaits

/-- Behind an operand the innermost group decides. -/
theorem of_ended (ended : EndsInOperand tokens) :
    Diagnosed tokens ahead text (OpenGroup.refusal (openGroups tokens) text) := by
  have notNamed := not_name_of_ends_in_operand ended
  have notAwaiting := not_awaits_of_ends_in_operand ended
  cases inside : openGroups tokens with
  | nil =>
      constructor
      · exact iff_of_false nofun fun named => notNamed named.1
      · exact iff_of_false nofun fun awaiting => notAwaiting awaiting.1
      · simp [OpenGroup.refusal, inside]
      · simp [OpenGroup.refusal, inside]
      · intro written
        simp [OpenGroup.refusal, inside, ended, eq_comm]
  | cons group outer =>
      constructor
      · refine iff_of_false ?_ fun named => notNamed named.1
        cases group <;> nofun
      · refine iff_of_false ?_ fun awaiting => notAwaiting awaiting.1
        cases group <;> nofun
      · cases group <;> simp [OpenGroup.refusal, inside, ended]
      · cases group <;> simp [OpenGroup.refusal, inside, ended]
      · intro written
        cases group <;> simp [OpenGroup.refusal, inside]

end Diagnosed

namespace Context

theorem refusal_of_term_groups (context : Context .term) (text : String) :
    context.refusalOfTerm text = OpenGroup.refusal context.openGroups text := by
  cases context with
  | firstTerm outer => cases outer <;> rfl
  | addend left operator additive outer => cases outer <;> rfl

theorem begin_factor_goes_on {context : Context .factor} {token : Token}
    (begins : token.isNumber = true ∨
      token.isAmong (.openParen :: Operator.unaryFunctions ++ Operator.binaryFunctions) = true) :
    context.beginFactor token ≠ none := by
  cases token with
  | number value => exact Option.some_ne_none _
  | finish => exact absurd begins (by decide)
  | symbol operator =>
      have known : operator = .openParen ∨ operator ∈ Operator.unaryFunctions ∨
          operator ∈ Operator.binaryFunctions := by
        simpa [Token.isNumber, Token.isAmong] using begins
      simp only [beginFactor, beginGroup]
      split
      · exact Option.some_ne_none _
      split
      · exact Option.some_ne_none _
      split
      · exact Option.some_ne_none _
      · next notParen notUnary notBinary =>
          rcases known with paren | unary | binary
          · exact absurd paren notParen
          · exact absurd unary notUnary
          · exact absurd binary notBinary

end Context

namespace Reading

variable {state : Reading} {tokens : List Token} {ahead : Token} {text : String}

theorem cannot_begin_of_blocked {context : Context .unary}
    (blocked : (operand context).step ahead = none) : ¬CanBeginOperand tokens ahead := by
  have unsigned : ahead.isAmong Operator.additive = false := by
    cases ahead with
    | number value => rfl
    | finish => rfl
    | symbol operator =>
        apply Bool.eq_false_iff.mpr
        intro signed
        have additive : operator ∈ Operator.additive := by
          simpa [Token.isAmong] using signed
        simp only [step, dif_pos additive] at blocked
        cases blocked
  have same : (operand context).step ahead = (Context.unsigned context).beginFactor ahead :=
    (Context.unsigned context).step_want_factor unsigned
  rw [same] at blocked
  intro begins
  rcases begins with number | group | ⟨signed, _⟩
  · exact Context.begin_factor_goes_on (Or.inl number) blocked
  · exact Context.begin_factor_goes_on (Or.inr group) blocked
  · rw [unsigned] at signed
    cases signed

theorem cannot_begin_of_blocked_after_sign {context : Context .unary} {sign : Operator}
    {additive : sign ∈ Operator.additive} (isSign : EndsInSign tokens)
    (blocked : (afterSign sign additive context).step ahead = none) :
    ¬CanBeginOperand tokens ahead := by
  intro begins
  rcases begins with number | group | ⟨_, notSign⟩
  · exact Context.begin_factor_goes_on (Or.inl number) blocked
  · exact Context.begin_factor_goes_on (Or.inr group) blocked
  · exact notSign isSign

theorem diagnosed (fits : state.Fits tokens) (blocked : state.step ahead = none) (text : String) :
    Diagnosed tokens ahead text (state.refusal text) := by
  cases state with
  | operand context =>
      have awaits : AwaitsOperand tokens := fits.ends.1
      exact .of_operand awaits (cannot_begin_of_blocked blocked)
  | afterSign sign additive context =>
      have awaits : AwaitsOperand tokens := fits.ends.1
      exact .of_operand awaits (cannot_begin_of_blocked_after_sign fits.ends.2 blocked)
  | unaryName function known context =>
      have last : tokens.getLast? = some (.symbol function) := fits.ends
      apply Diagnosed.of_name
      · exact ⟨.symbol function, last, by simp [Token.isAmong, known]⟩
      · intro same
        subst same
        cases blocked
  | binaryName function known context =>
      have last : tokens.getLast? = some (.symbol function) := fits.ends
      apply Diagnosed.of_name
      · exact ⟨.symbol function, last, by simp [Token.isAmong, known]⟩
      · intro same
        subst same
        cases blocked
  | ended context term =>
      have groups : Calculator.openGroups tokens = context.openGroups := fits.groups
      rw [refusal, context.refusal_of_term_groups text, ← groups]
      exact .of_ended fits.ends

end Reading

namespace Reached

variable {source : String} {tokens : List Token} {state : Reading} {place : Cursor}
  {ahead : List Lexeme}

theorem of_place {stopped : Cursor} (reached : Reached source tokens state place ahead)
    (same : { stopped with log := place.log } = place) :
    Reached source tokens state stopped ahead := by
  obtain ⟨split, shows, read, defined, groups, shallow⟩ := reached
  rw [← same] at shows groups
  exact ⟨split, shows, read, defined, groups, shallow⟩

theorem stands_in (reached : Reached source tokens state place ahead) : place.StandsIn source := by
  obtain ⟨behind, split, accepted⟩ := reached.split
  exact Cursor.stands_in_of_shows split accepted reached.shows

end Reached

theorem refused_of_syntactic {source : String} {fault : Fault} {stopped : Cursor}
    (failed : readSource source = .failed fault stopped) (syntactic : fault.isSyntactic = true) :
    ∃ tokens state ahead, Reached source tokens state stopped ahead ∧
      state.step stopped.lookahead = none ∧
        (stopped.lookahead = .finish → ¬state.Complete) ∧ fault = state.refusal stopped.text := by
  rcases read_source_failed failed with
    ⟨bad, rest, _, _, rfl⟩ | ⟨tokens, state, place, ahead, reached, halts⟩
  · cases syntactic
  · cases halts with
    | refused blocked unfinished same =>
        have moved := reached.of_place same
        rw [← same] at blocked unfinished
        refine ⟨tokens, state, ahead, moved, blocked, unfinished, ?_⟩
        rw [← same]
    | unknown read stuck =>
        obtain ⟨_, _, _, _, _, _, rfl⟩ :=
          Cursor.take_failed reached.shows (Reading.waiting_of_step read) stuck
        cases syntactic
    | tooDeep read took opened deep => cases syntactic
    | undefined read took undefined => cases syntactic

/-- A syntactic fault is the one that the tokens taken, the groups open behind them and the look-ahead
tell. -/
theorem syntactic_fault_diagnosed {expression : String} {fault : Fault}
    (failed : evaluate expression = .error fault) (syntactic : fault.isSyntactic = true) :
    ∃ source stopped, source = Text.stripWhitespace expression ∧
      readSource source = .failed fault stopped ∧ stopped.StandsIn source ∧
        Diagnosed (stopped.taken source) stopped.lookahead stopped.text fault := by
  obtain ⟨stopped, failedSource⟩ := evaluate_error_iff_failed.mp failed
  obtain ⟨tokens, state, ahead, reached, blocked, _, named⟩ :=
    refused_of_syntactic failedSource syntactic
  have fits : state.Fits tokens := Reading.fits_of_read Reading.fits_start reached.read
  refine ⟨_, stopped, rfl, failedSource, reached.stands_in, ?_⟩
  rw [reached.taken, named]
  exact Reading.diagnosed fits blocked stopped.text

/-- A call of two arguments that closes behind its first. -/
theorem second_argument_missed :
    ∃ source stopped, source = Text.stripWhitespace "pow(1)" ∧
      readSource source = .failed .secondParameterExpected stopped ∧ stopped.StandsIn source ∧
        Diagnosed (stopped.taken source) stopped.lookahead stopped.text
          .secondParameterExpected := by
  have failed : evaluate "pow(1)" = .error .secondParameterExpected := by
    with_unfolding_all rfl
  exact syntactic_fault_diagnosed failed rfl

/-- A syntactic fault is found at the first token that spoils the beginning of an expression, or at an
end that comes too early. -/
theorem syntactic_fault_earliest {expression : String} {fault : Fault}
    (failed : evaluate expression = .error fault) (syntactic : fault.isSyntactic = true) :
    ∃ source stopped, source = Text.stripWhitespace expression ∧
      readSource source = .failed fault stopped ∧ stopped.StandsIn source ∧
        Viable (stopped.taken source) ∧
          (stopped.lookahead ≠ .finish →
            ¬Viable (stopped.taken source ++ [stopped.lookahead])) ∧
            (stopped.lookahead = .finish → ¬IsSentence (stopped.taken source)) := by
  obtain ⟨stopped, failedSource⟩ := evaluate_error_iff_failed.mp failed
  obtain ⟨tokens, state, ahead, reached, blocked, unfinished, _⟩ :=
    refused_of_syntactic failedSource syntactic
  refine ⟨_, stopped, rfl, failedSource, reached.stands_in, ?_⟩
  rw [reached.taken]
  constructor
  · exact Reading.viable_iff_read.mpr ⟨state, reached.read⟩
  constructor
  · intro _
    exact Reading.not_viable_of_blocked reached.read blocked
  · intro finished sentence
    exact unfinished finished (Reading.complete_of_sentence reached.read sentence)

/-- The third of these is a sign behind a sign, and no expression begins so. -/
theorem second_sign_refused :
    ∃ source stopped, source = Text.stripWhitespace "2 - - - 3" ∧
      readSource source = .failed .numberExpected stopped ∧ stopped.StandsIn source ∧
        Viable (stopped.taken source) ∧
          (stopped.lookahead ≠ .finish →
            ¬Viable (stopped.taken source ++ [stopped.lookahead])) ∧
            (stopped.lookahead = .finish → ¬IsSentence (stopped.taken source)) := by
  have failed : evaluate "2 - - - 3" = .error .numberExpected := by
    with_unfolding_all rfl
  exact syntactic_fault_earliest failed rfl

end Calculator
