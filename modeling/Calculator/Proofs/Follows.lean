import Calculator.Proofs.Walk

/-!
# Outcomes told by the machine

`Follows` compares an outcome with the pushdown machine: a done one has walked to a reading of which
something is known, a failed one has walked to where the machine halts with the same fault. There is one
lemma for each step of a cursor, and with each the tokens that a reading refuses there.
-/

set_option autoImplicit false

namespace Calculator

/-- The reading neither goes on with the look-ahead nor is a complete expression. -/
structure Refuses (state : Reading) (cursor : Cursor) (fault : Fault) : Prop where
  blocked : state.step cursor.lookahead = none
  unfinished : ¬state.Complete
  named : state.refusal cursor.text = fault

def Follows {α : Type} (state : Reading) (cursor : Cursor) (outcome : Outcome α)
    (arrives : α → Reading → Cursor → Prop) : Prop :=
  match outcome with
  | .done answer stop => ∃ tokens last, Walk state cursor tokens last stop ∧ arrives answer last stop
  | .failed fault stopped =>
      ∃ tokens last place, Walk state cursor tokens last place ∧ Halts last place fault stopped

namespace Follows

variable {α β : Type} {state next : Reading} {cursor : Cursor}

theorem done {answer : α} {arrives : α → Reading → Cursor → Prop}
    (there : arrives answer state cursor) : Follows state cursor (.done answer cursor) arrives :=
  ⟨[], state, .stay state cursor, there⟩

theorem halt {fault : Fault} {stopped : Cursor} {arrives : α → Reading → Cursor → Prop}
    (halts : Halts state cursor fault stopped) :
    Follows state cursor (.failed fault stopped) arrives :=
  ⟨[], state, cursor, .stay state cursor, halts⟩

theorem refuse {fault : Fault} {arrives : α → Reading → Cursor → Prop}
    (refuses : Refuses state cursor fault) : Follows state cursor (.failed fault cursor) arrives := by
  rw [← refuses.named]
  exact halt (.refused refuses.blocked (fun _ => refuses.unfinished) rfl)

theorem andThen {outcome : Outcome α} {more : α → Cursor → Outcome β}
    {passes : α → Reading → Cursor → Prop} {arrives : β → Reading → Cursor → Prop}
    (first : Follows state cursor outcome passes)
    (second : ∀ answer last stop, outcome = .done answer stop → passes answer last stop →
      Follows last stop (more answer stop) arrives) :
    Follows state cursor (outcome.andThen more) arrives := by
  cases outcome with
  | failed fault stopped => exact first
  | done answer stop =>
      obtain ⟨front, between, walked, passed⟩ := first
      have rest := second answer between stop rfl passed
      simp only [Outcome.andThen]
      cases result : more answer stop with
      | done final place =>
          rw [result] at rest
          obtain ⟨behind, last, further, arrived⟩ := rest
          exact ⟨front ++ behind, last, walked.trans further, arrived⟩
      | failed fault stopped =>
          rw [result] at rest
          obtain ⟨behind, last, place, further, halts⟩ := rest
          exact ⟨front ++ behind, last, place, walked.trans further, halts⟩

theorem imp {outcome : Outcome α} {passes arrives : α → Reading → Cursor → Prop}
    (follows : Follows state cursor outcome passes)
    (weaker : ∀ answer last stop, passes answer last stop → arrives answer last stop) :
    Follows state cursor outcome arrives := by
  cases outcome with
  | failed fault stopped => exact follows
  | done answer stop =>
      obtain ⟨tokens, last, walked, passed⟩ := follows
      exact ⟨tokens, last, walked, weaker answer last stop passed⟩

theorem takeOperator {operator : Operator} (ahead : cursor.lookahead = .symbol operator)
    (read : state.step (.symbol operator) = some next) (plain : operator ≠ .openParen)
    (defined : next.Defined) :
    Follows state cursor cursor.takeOperator fun answer last _ => answer = operator ∧ last = next := by
  rw [← ahead] at read
  rcases Cursor.take_operator_cases ahead with
    ⟨stop, answered, took⟩ | ⟨fault, stopped, failed, stuck⟩
  · rw [answered]
    refine ⟨_, next, .single ⟨read, took, ?_, defined⟩, rfl, rfl⟩
    intro opened
    rw [ahead] at opened
    cases opened
    exact absurd rfl plain
  · rw [failed]
    exact halt (.unknown read stuck)

theorem takeNumber {value : Binary64} (ahead : cursor.lookahead = .number value)
    (read : state.step (.number value) = some next) (defined : next.Defined) :
    Follows state cursor cursor.takeNumber fun answer last _ => answer = value ∧ last = next := by
  rw [← ahead] at read
  rcases Cursor.take_number_cases ahead with
    ⟨stop, answered, took⟩ | ⟨fault, stopped, failed, stuck⟩
  · rw [answered]
    refine ⟨_, next, .single ⟨read, took, ?_, defined⟩, rfl, rfl⟩
    intro opened
    rw [ahead] at opened
    cases opened
  · rw [failed]
    exact halt (.unknown read stuck)

/-- The parenthesis is there, or the reading refuses what is. -/
theorem openGroup (read : state.step (.symbol .openParen) = some next) (defined : next.Defined)
    (only : cursor.lookahead ≠ .symbol .openParen →
      Refuses state cursor .parenthesizedEquationExpected) :
    Follows state cursor cursor.openGroup fun _ last _ => last = next := by
  by_cases ahead : cursor.lookahead = .symbol .openParen
  · have among : cursor.lookahead.isAmong [.openParen] = true := by rw [ahead]; rfl
    rw [← ahead] at read
    simp only [Cursor.openGroup, Cursor.expect, if_pos among]
    rcases Cursor.take_operator_cases ahead with
      ⟨stop, answered, took⟩ | ⟨fault, stopped, failed, stuck⟩
    · simp only [answered, Outcome.map, Outcome.andThen, Cursor.checkNesting]
      split
      · next deep => exact halt (.tooDeep read took ahead deep)
      · next shallow =>
          exact ⟨_, next, .single ⟨read, took, fun _ => Nat.not_lt.mp shallow, defined⟩, rfl⟩
    · rw [failed]
      exact halt (.unknown read stuck)
  · have among : ¬cursor.lookahead.isAmong [.openParen] = true := by
      rw [Token.is_among_singleton]
      exact ahead
    simp only [Cursor.openGroup, Cursor.expect, if_neg among, Outcome.andThen]
    exact refuse (only ahead)

theorem nextParameter (read : state.step (.symbol .comma) = some next) (defined : next.Defined)
    (only : cursor.lookahead ≠ .symbol .comma →
      Refuses state cursor .secondParameterExpected) :
    Follows state cursor cursor.nextParameter fun _ last _ => last = next := by
  by_cases ahead : cursor.lookahead = .symbol .comma
  · have among : cursor.lookahead.isAmong [.comma] = true := by rw [ahead]; rfl
    simp only [Cursor.nextParameter, Cursor.expect, if_pos among]
    apply andThen (takeOperator ahead read (by decide) defined)
    intro answer last stop _ passed
    exact done passed.2
  · have among : ¬cursor.lookahead.isAmong [.comma] = true := by
      rw [Token.is_among_singleton]
      exact ahead
    simp only [Cursor.nextParameter, Cursor.expect, if_neg among]
    exact refuse (only ahead)

/-- What is evaluated behind the closing parenthesis has a value exactly when the reading has. -/
theorem closeGroup {result : Except Fault Binary64}
    (read : state.step (.symbol .closeParen) = some next)
    (fails : ∀ fault, result = .error fault → fault = .integerExpected ∧ ¬next.Defined)
    (succeeds : ∀ value, result = .ok value → next.Defined)
    (only : cursor.lookahead ≠ .symbol .closeParen →
      Refuses state cursor .unclosedParenthesis) :
    Follows state cursor
      (cursor.closeGroup.andThen fun _ after => Outcome.ofExcept after result)
      fun answer last _ => result = .ok answer ∧ last = next := by
  by_cases ahead : cursor.lookahead = .symbol .closeParen
  · have among : cursor.lookahead.isAmong [.closeParen] = true := by rw [ahead]; rfl
    rw [← ahead] at read
    simp only [Cursor.closeGroup, Cursor.expect, if_pos among]
    rcases Cursor.take_operator_cases ahead with
      ⟨stop, answered, took⟩ | ⟨fault, stopped, failed, stuck⟩
    · simp only [answered, Outcome.map, Outcome.andThen]
      cases evaluated : result with
      | ok value =>
          have defined := succeeds value evaluated
          refine ⟨_, next, .single ⟨read, took, ?_, defined⟩, rfl, rfl⟩
          intro opened
          rw [ahead] at opened
          cases opened
      | error fault =>
          obtain ⟨rfl, undefined⟩ := fails fault evaluated
          exact halt (.undefined read took undefined)
    · rw [failed]
      exact halt (.unknown read stuck)
  · have among : ¬cursor.lookahead.isAmong [.closeParen] = true := by
      rw [Token.is_among_singleton]
      exact ahead
    simp only [Cursor.closeGroup, Cursor.expect, if_neg among, Outcome.andThen]
    exact refuse (only ahead)

end Follows

namespace Context

def delimiter : Context .expression → Option Operator
  | start => none
  | parenthesized _ => some .closeParen
  | unaryArgument _ _ _ => some .closeParen
  | firstArgument _ _ _ => some .comma
  | secondArgument _ _ _ _ => some .closeParen

theorem after_expression_blocked {context : Context .expression} {tree : Tree .expression}
    {operator : Operator} (plain : operator ∉ Operator.additive)
    (other : context.delimiter ≠ some operator) :
    context.afterExpression tree operator = none := by
  simp only [afterExpression, dif_neg plain]
  split
  · exact absurd rfl other
  · exact absurd rfl other
  · exact absurd rfl other
  · exact absurd rfl other
  · rfl

theorem settle_blocked {context : Context .expression} {tree : Tree .expression} {token : Token}
    (stops : token.isAmong (Operator.additive ++ Operator.multiplicative) = false)
    (other : ∀ operator, context.delimiter = some operator → token ≠ .symbol operator) :
    (context.settle tree).step token = none := by
  cases token with
  | number value => cases tree <;> rfl
  | finish => cases tree <;> rfl
  | symbol operator =>
      simp only [Token.isAmong, List.contains_eq_mem, List.mem_append, decide_eq_false_iff_not,
        not_or] at stops
      rw [step_settle_expression stops.2]
      exact after_expression_blocked stops.1 fun same => other operator same rfl

theorem settle_refusal {context : Context .expression} {tree : Tree .expression} (text : String) :
    (context.settle tree).refusal text = context.refusal text := by
  cases tree <;> rfl

theorem want_refuses {category : Category} {context : Context category} {cursor : Cursor}
    (blocked : context.want.step cursor.lookahead = none) :
    Refuses context.want cursor .numberExpected := by
  rcases context.want_cases with ⟨outer, same⟩ | ⟨sign, additive, outer, same⟩
  · rw [same] at blocked ⊢
    refine ⟨blocked, ?_, rfl⟩
    intro complete
    obtain ⟨_, _, ended⟩ := Reading.ended_of_complete complete
    cases ended
  · rw [same] at blocked ⊢
    refine ⟨blocked, ?_, rfl⟩
    intro complete
    obtain ⟨_, _, ended⟩ := Reading.ended_of_complete complete
    cases ended

theorem unary_name_refuses {function : Operator} {known : function ∈ Operator.unaryFunctions}
    {context : Context .group} {cursor : Cursor}
    (other : cursor.lookahead ≠ .symbol .openParen) :
    Refuses (.unaryName function known context) cursor .parenthesizedEquationExpected := by
  refine ⟨if_neg other, ?_, rfl⟩
  intro complete
  obtain ⟨_, _, ended⟩ := Reading.ended_of_complete complete
  cases ended

theorem binary_name_refuses {function : Operator} {known : function ∈ Operator.binaryFunctions}
    {context : Context .group} {cursor : Cursor}
    (other : cursor.lookahead ≠ .symbol .openParen) :
    Refuses (.binaryName function known context) cursor .parenthesizedEquationExpected := by
  refine ⟨if_neg other, ?_, rfl⟩
  intro complete
  obtain ⟨_, _, ended⟩ := Reading.ended_of_complete complete
  cases ended

/-- An expression inside a group has ended, and what should follow it is not there. -/
theorem settle_refuses {context : Context .expression} {tree : Tree .expression}
    {operator : Operator} {cursor : Cursor} (due : context.delimiter = some operator)
    (stops : cursor.lookahead.isAmong (Operator.additive ++ Operator.multiplicative) = false)
    (other : cursor.lookahead ≠ .symbol operator) :
    Refuses (context.settle tree) cursor (context.refusal cursor.text) := by
  refine ⟨settle_blocked stops ?_, ?_, settle_refusal cursor.text⟩
  · intro expected same
    rw [due] at same
    cases same
    exact other
  · intro finished
    obtain ⟨whole, complete⟩ := finished
    obtain ⟨rfl, _⟩ := settle_injective complete
    cases due

end Context

end Calculator
