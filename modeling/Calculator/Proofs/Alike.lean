import Calculator.Proofs.Standing

/-!
# Expressions of the same value in the same place

Two readings are alike when they hold the same open groups, names and operators, and operands of the
same values. No lexeme behind them can tell them apart: they take the same tokens, refuse the same ones
with the same faults, and come to the same value at the end (`conclude_of_alike`).
-/

set_option autoImplicit false

namespace Calculator

namespace Context

/-- The same context but for operands, which have the same values. -/
inductive Alike : {category : Category} → Context category → Context category → Prop where
  | start : Alike start start
  | parenthesized {outer other : Context .group} (around : Alike outer other) :
      Alike (parenthesized outer) (parenthesized other)
  | unaryArgument {function : Operator} {known : function ∈ Operator.unaryFunctions}
      {outer other : Context .group} (around : Alike outer other) :
      Alike (unaryArgument function known outer) (unaryArgument function known other)
  | firstArgument {function : Operator} {known : function ∈ Operator.binaryFunctions}
      {outer other : Context .group} (around : Alike outer other) :
      Alike (firstArgument function known outer) (firstArgument function known other)
  | secondArgument {function : Operator} {known : function ∈ Operator.binaryFunctions}
      {first twin : Tree .expression} {outer other : Context .group} (same : first.value = twin.value)
      (around : Alike outer other) :
      Alike (secondArgument function known first outer) (secondArgument function known twin other)
  | firstTerm {outer other : Context .expression} (around : Alike outer other) :
      Alike (firstTerm outer) (firstTerm other)
  | addend {left twin : Tree .expression} {operator : Operator}
      {additive : operator ∈ Operator.additive} {outer other : Context .expression}
      (same : left.value = twin.value) (around : Alike outer other) :
      Alike (addend left operator additive outer) (addend twin operator additive other)
  | firstOperand {outer other : Context .term} (around : Alike outer other) :
      Alike (firstOperand outer) (firstOperand other)
  | multiplier {left twin : Tree .term} {operator : Operator}
      {multiplicative : operator ∈ Operator.multiplicative} {outer other : Context .term}
      (same : left.value = twin.value) (around : Alike outer other) :
      Alike (multiplier left operator multiplicative outer)
        (multiplier twin operator multiplicative other)
  | unsigned {outer other : Context .unary} (around : Alike outer other) :
      Alike (unsigned outer) (unsigned other)
  | signed {sign : Operator} {additive : sign ∈ Operator.additive} {outer other : Context .unary}
      (around : Alike outer other) : Alike (signed sign additive outer) (signed sign additive other)
  | grouped {outer other : Context .factor} (around : Alike outer other) :
      Alike (grouped outer) (grouped other)

end Context

inductive Reading.Alike : Reading → Reading → Prop where
  | operand {context other : Context .unary} (around : context.Alike other) :
      Alike (.operand context) (.operand other)
  | afterSign {sign : Operator} {additive : sign ∈ Operator.additive} {context other : Context .unary}
      (around : context.Alike other) :
      Alike (.afterSign sign additive context) (.afterSign sign additive other)
  | unaryName {function : Operator} {known : function ∈ Operator.unaryFunctions}
      {context other : Context .group} (around : context.Alike other) :
      Alike (.unaryName function known context) (.unaryName function known other)
  | binaryName {function : Operator} {known : function ∈ Operator.binaryFunctions}
      {context other : Context .group} (around : context.Alike other) :
      Alike (.binaryName function known context) (.binaryName function known other)
  | ended {context other : Context .term} {term twin : Tree .term} (around : context.Alike other)
      (same : term.value = twin.value) : Alike (.ended context term) (.ended other twin)

theorem Tree.defined_iff_of_same_value {category : Category} {tree twin : Tree category}
    (same : tree.value = twin.value) : tree.Defined ↔ twin.Defined := by
  rw [Tree.Defined, Tree.Defined, same]

namespace Context.Alike

theorem refl {category : Category} (context : Context category) : context.Alike context := by
  induction context with
  | start => exact .start
  | parenthesized outer ih => exact .parenthesized ih
  | unaryArgument function known outer ih => exact .unaryArgument ih
  | firstArgument function known outer ih => exact .firstArgument ih
  | secondArgument function known first outer ih => exact .secondArgument rfl ih
  | firstTerm outer ih => exact .firstTerm ih
  | addend left operator additive outer ih => exact .addend rfl ih
  | firstOperand outer ih => exact .firstOperand ih
  | multiplier left operator multiplicative outer ih => exact .multiplier rfl ih
  | unsigned outer ih => exact .unsigned ih
  | signed sign additive outer ih => exact .signed ih
  | grouped outer ih => exact .grouped ih

theorem defined_iff {category : Category} {context other : Context category}
    (alike : context.Alike other) : context.Defined ↔ other.Defined := by
  induction alike with
  | start => rfl
  | parenthesized around ih => exact ih
  | unaryArgument around ih => exact ih
  | firstArgument around ih => exact ih
  | secondArgument same around ih => exact and_congr ih (Tree.defined_iff_of_same_value same)
  | firstTerm around ih => exact ih
  | addend same around ih => exact and_congr ih (Tree.defined_iff_of_same_value same)
  | firstOperand around ih => exact ih
  | multiplier same around ih => exact and_congr ih (Tree.defined_iff_of_same_value same)
  | unsigned around ih => exact ih
  | signed around ih => exact ih
  | grouped around ih => exact ih

theorem want {category : Category} {context other : Context category}
    (alike : context.Alike other) : context.want.Alike other.want := by
  cases category with
  | expression => exact .operand (.firstOperand (.firstTerm alike))
  | term => exact .operand (.firstOperand alike)
  | unary => exact .operand alike
  | factor =>
      cases alike with
      | unsigned around => exact .operand around
      | signed around => exact .afterSign around
  | group =>
      cases alike with
      | grouped factor =>
          cases factor with
          | unsigned around => exact .operand around
          | signed around => exact .afterSign around

theorem settle_unary {context other : Context .unary} {tree twin : Tree .unary}
    (alike : context.Alike other) (same : tree.value = twin.value) :
    (context.settleUnary tree).Alike (other.settleUnary twin) := by
  cases alike with
  | firstOperand around => exact .ended around same
  | multiplier left around =>
      apply Reading.Alike.ended around
      rw [Tree.value, Tree.value, left, same]

theorem settle_factor {context other : Context .factor} {tree twin : Tree .factor}
    (alike : context.Alike other) (same : tree.value = twin.value) :
    (context.settleFactor tree).Alike (other.settleFactor twin) := by
  cases alike with
  | unsigned around => exact around.settle_unary same
  | signed around =>
      apply around.settle_unary
      rw [Tree.value, Tree.value, same]

theorem settle_group {context other : Context .group} {tree twin : Tree .group}
    (alike : context.Alike other) (same : tree.value = twin.value) :
    (context.settle tree).Alike (other.settle twin) := by
  cases alike with
  | grouped around => exact around.settle_factor same

theorem begin_group {context other : Context .group} (alike : context.Alike other) (token : Token) :
    Option.Rel Reading.Alike (context.beginGroup token) (other.beginGroup token) := by
  cases token with
  | number value => exact .none
  | finish => exact .none
  | symbol operator =>
      simp only [beginGroup]
      split
      · exact .some (Alike.parenthesized alike).want
      split
      · exact .some (.unaryName alike)
      split
      · exact .some (.binaryName alike)
      · exact .none

theorem begin_factor {context other : Context .factor} (alike : context.Alike other)
    (token : Token) :
    Option.Rel Reading.Alike (context.beginFactor token) (other.beginFactor token) := by
  cases token with
  | number value => exact .some (alike.settle_factor rfl)
  | symbol operator => exact (Alike.grouped alike).begin_group (.symbol operator)
  | finish => exact .none

theorem delimiter_eq {context other : Context .expression} (alike : context.Alike other) :
    context.delimiter = other.delimiter := by
  cases alike <;> rfl

theorem after_expression {context other : Context .expression} {tree twin : Tree .expression}
    (alike : context.Alike other) (same : tree.value = twin.value) (operator : Operator) :
    Option.Rel Reading.Alike (context.afterExpression tree operator)
      (other.afterExpression twin operator) := by
  by_cases additive : operator ∈ Operator.additive
  · simp only [afterExpression, dif_pos additive]
    exact .some (Alike.addend same alike).want
  · by_cases due : context.delimiter = some operator
    · simp only [afterExpression, dif_neg additive]
      cases alike with
      | start => cases due
      | parenthesized around =>
          cases due
          apply Option.Rel.some (around.settle_group _)
          exact same
      | unaryArgument around =>
          cases due
          apply Option.Rel.some (around.settle_group _)
          rw [Tree.value, Tree.value, same]
      | firstArgument around =>
          cases due
          exact .some (Alike.secondArgument same around).want
      | secondArgument first around =>
          cases due
          apply Option.Rel.some (around.settle_group _)
          rw [Tree.value, Tree.value, first, same]
    · -- Both wait for the same delimiter, so neither goes on with another one.
      have otherwise := due
      rw [alike.delimiter_eq] at otherwise
      rw [after_expression_blocked additive due, after_expression_blocked additive otherwise]
      exact .none

theorem after_term {context other : Context .term} {term twin : Tree .term}
    (alike : context.Alike other) (same : term.value = twin.value) (operator : Operator) :
    Option.Rel Reading.Alike (context.afterTerm term operator) (other.afterTerm twin operator) := by
  cases alike with
  | firstTerm around => exact around.after_expression same operator
  | addend left around =>
      apply around.after_expression
      rw [Tree.value, Tree.value, left, same]

theorem refusal_eq {context other : Context .expression} (alike : context.Alike other)
    (text : String) : context.refusal text = other.refusal text := by
  cases alike <;> rfl

end Context.Alike

namespace Reading.Alike

variable {state other : Reading}

theorem step (alike : state.Alike other) (token : Token) :
    Option.Rel Reading.Alike (state.step token) (other.step token) := by
  cases alike with
  | operand around =>
      cases token with
      | symbol operator =>
          simp only [Reading.step]
          split
          · exact .some (.afterSign around)
          · exact (Context.Alike.unsigned around).begin_factor (.symbol operator)
      | number value => exact (Context.Alike.unsigned around).begin_factor (.number value)
      | finish => exact (Context.Alike.unsigned around).begin_factor .finish
  | afterSign around => exact (Context.Alike.signed around).begin_factor token
  | unaryName around =>
      simp only [Reading.step]
      split
      · exact .some (Context.Alike.unaryArgument around).want
      · exact .none
  | binaryName around =>
      simp only [Reading.step]
      split
      · exact .some (Context.Alike.firstArgument around).want
      · exact .none
  | ended around same =>
      cases token with
      | symbol operator =>
          simp only [Reading.step]
          split
          · exact .some (Context.Alike.multiplier same around).want
          · exact around.after_term same operator
      | number value => exact .none
      | finish => exact .none

theorem defined_iff (alike : state.Alike other) : state.Defined ↔ other.Defined := by
  cases alike with
  | operand around => exact around.defined_iff
  | afterSign around => exact around.defined_iff
  | unaryName around => exact around.defined_iff
  | binaryName around => exact around.defined_iff
  | ended around same => exact and_congr around.defined_iff (Tree.defined_iff_of_same_value same)

theorem refusal_eq (alike : state.Alike other) (text : String) :
    state.refusal text = other.refusal text := by
  cases alike with
  | ended around same =>
      cases around with
      | firstTerm outer => exact outer.refusal_eq text
      | addend left outer => exact outer.refusal_eq text
  | _ => rfl

theorem whole_eq (alike : state.Alike other) :
    state.whole?.map Tree.value = other.whole?.map Tree.value := by
  cases alike with
  | ended around same =>
      cases around with
      | firstTerm outer =>
          cases outer with
          | start => exact congrArg some same
          | _ => rfl
      | addend left outer =>
          cases outer with
          | start =>
              simp only [whole?, Option.map_some, Tree.value]
              rw [left, same]
          | _ => rfl
  | _ => rfl

end Reading.Alike

namespace Standing

structure Alike (standing other : Standing) : Prop where
  readings : standing.reading.Alike other.reading
  groups : standing.openGroups = other.openGroups

variable {standing other : Standing}

theorem check_of_alike (alike : standing.Alike other) : standing.check = other.check := by
  rw [check, check, alike.groups]
  split
  · rfl
  · simp only [alike.readings.defined_iff]

inductive Agree : Except Fault Standing → Except Fault Standing → Prop where
  | failed (fault : Fault) : Agree (.error fault) (.error fault)
  | taken {next twin : Standing} (alike : next.Alike twin) : Agree (.ok next) (.ok twin)

theorem bind_of_agree {first second : Except Fault Standing} {rest : Standing → Except Fault Binary64}
    (agree : Agree first second)
    (same : ∀ next twin : Standing, next.Alike twin → rest next = rest twin) :
    first >>= rest = second >>= rest := by
  cases agree with
  | failed fault => rfl
  | taken alike => exact same _ _ alike

/-- Alike or not, two standings agree on a token that takes them to readings that are. -/
theorem take_agrees {run : Lexeme.Run} {token : Token} (known : Token.ofRun? run = some token)
    (checks : standing.check = other.check) (groups : standing.openGroups = other.openGroups)
    (refusals : ∀ text, standing.reading.refusal text = other.reading.refusal text)
    (steps : Option.Rel Reading.Alike (standing.reading.step token) (other.reading.step token)) :
    Agree (standing.take run) (other.take run) := by
  cases checked : other.check with
  | error fault =>
      rw [checked] at checks
      rw [take_of_failed_check known checks, take_of_failed_check known checked]
      exact .failed fault
  | ok nothing =>
      rw [checked] at checks
      generalize first : standing.reading.step token = next at steps
      generalize second : other.reading.step token = twin at steps
      cases steps with
      | none =>
          rw [take_of_blocked known checks first, take_of_blocked known checked second, refusals]
          exact .failed _
      | some readings =>
          rw [take_of_step known checks first, take_of_step known checked second, groups]
          exact .taken ⟨readings, rfl⟩

theorem take_of_alike (alike : standing.Alike other) (run : Lexeme.Run) :
    Agree (standing.take run) (other.take run) := by
  cases known : Token.ofRun? run with
  | none =>
      rw [take_of_unknown known, take_of_unknown known]
      exact .failed _
  | some token =>
      exact take_agrees known (check_of_alike alike) alike.groups alike.readings.refusal_eq
        (alike.readings.step token)

theorem finish_of_alike (alike : standing.Alike other) : standing.finish = other.finish := by
  have wholes := alike.readings.whole_eq
  rw [finish, finish, check_of_alike alike, alike.readings.refusal_eq]
  cases first : standing.reading.whole? with
  | none =>
      cases second : other.reading.whole? with
      | none => rfl
      | some twin =>
          rw [first, second] at wholes
          cases wholes
  | some tree =>
      cases second : other.reading.whole? with
      | none =>
          rw [first, second] at wholes
          cases wholes
      | some twin =>
          rw [first, second] at wholes
          injection wholes with same
          simp only [same]

/-- What follows comes to the same end, with the same value or the same fault. -/
theorem conclude_of_alike (alike : standing.Alike other) (runs : List Lexeme.Run) :
    standing.conclude runs = other.conclude runs := by
  induction runs generalizing standing other with
  | nil => exact finish_of_alike alike
  | cons run rest ih =>
      rw [conclude_cons, conclude_cons]
      exact bind_of_agree (take_of_alike alike run) fun _ _ again => ih again

end Standing

end Calculator
