import Calculator.Proofs.Context

/-!
# Reading token by token

An expression read from the left is a pushdown machine whose stack is a `Context`. Between two tokens an
operand is missing, or a name waits for its parenthesis, or an operand has just ended. `step` takes one
token and has no answer where no expression goes on with it.

The machine accepts exactly the beginnings of expressions (`viable_iff_read`), and what it holds at the
end of an expression is the tree of that expression (`read_tree`), so no two trees have the same tokens.
-/

set_option autoImplicit false

namespace Calculator

namespace Operator

theorem additive_not_multiplicative : ∀ operator ∈ additive, operator ∉ multiplicative := by
  decide

theorem additive_not_paren : ∀ operator ∈ additive, operator ≠ openParen := by
  decide

theorem multiplicative_not_paren : ∀ operator ∈ multiplicative, operator ≠ openParen := by
  decide

theorem unary_function_begins_group : ∀ function ∈ unaryFunctions,
    (Token.symbol function).isAmong additive = false ∧ function ≠ openParen := by
  decide

theorem binary_function_begins_group : ∀ function ∈ binaryFunctions,
    (Token.symbol function).isAmong additive = false ∧ function ≠ openParen ∧
      function ∉ unaryFunctions := by
  decide

end Operator

/-- In `ended` the term may still go on, with a factor or as the first part of a sum. -/
inductive Reading where
  | operand (context : Context .unary)
  | afterSign (sign : Operator) (additive : sign ∈ Operator.additive) (context : Context .unary)
  | unaryName (function : Operator) (known : function ∈ Operator.unaryFunctions)
      (context : Context .group)
  | binaryName (function : Operator) (known : function ∈ Operator.binaryFunctions)
      (context : Context .group)
  | ended (context : Context .term) (term : Tree .term)

namespace Context

def want : {category : Category} → Context category → Reading
  | .expression, context => .operand (.firstOperand (.firstTerm context))
  | .term, context => .operand (.firstOperand context)
  | .unary, context => .operand context
  | .factor, unsigned outer => .operand outer
  | .factor, signed sign additive outer => .afterSign sign additive outer
  | .group, grouped (unsigned outer) => .operand outer
  | .group, grouped (signed sign additive outer) => .afterSign sign additive outer

def settleUnary : Context .unary → Tree .unary → Reading
  | firstOperand outer, tree => .ended outer (.ofUnary tree)
  | multiplier left operator multiplicative outer, tree =>
      .ended outer (.product left operator multiplicative tree)

def settleFactor : Context .factor → Tree .factor → Reading
  | unsigned outer, tree => outer.settleUnary (.ofFactor tree)
  | signed sign additive outer, tree => outer.settleUnary (.signed sign additive tree)

def settle : {category : Category} → Context category → Tree category → Reading
  | .expression, context, .ofTerm term => .ended (.firstTerm context) term
  | .expression, context, .sum left operator additive right =>
      .ended (.addend left operator additive context) right
  | .term, context, tree => .ended context tree
  | .unary, context, tree => context.settleUnary tree
  | .factor, context, tree => context.settleFactor tree
  | .group, grouped outer, tree => outer.settleFactor (.ofGroup tree)

def beginGroup (context : Context .group) : Token → Option Reading
  | .symbol operator =>
      if operator = .openParen then
        some (parenthesized context).want
      else if known : operator ∈ Operator.unaryFunctions then
        some (.unaryName operator known context)
      else if known : operator ∈ Operator.binaryFunctions then
        some (.binaryName operator known context)
      else
        none
  | _ => none

def beginFactor (context : Context .factor) : Token → Option Reading
  | .number value => some (context.settle (.number value))
  | token => (grouped context).beginGroup token

def afterExpression (context : Context .expression) (tree : Tree .expression)
    (operator : Operator) : Option Reading :=
  if additive : operator ∈ Operator.additive then
    some (addend tree operator additive context).want
  else
    match context, operator with
    | parenthesized outer, .closeParen => some (outer.settle (.parenthesized tree))
    | unaryArgument function known outer, .closeParen =>
        some (outer.settle (.unaryCall function known tree))
    | firstArgument function known outer, .comma =>
        some (secondArgument function known tree outer).want
    | secondArgument function known first outer, .closeParen =>
        some (outer.settle (.binaryCall function known first tree))
    | _, _ => none

/-- The expression that a term completes, and what stands before that expression. -/
def afterTerm (context : Context .term) (term : Tree .term) (operator : Operator) :
    Option Reading :=
  match context with
  | firstTerm outer => outer.afterExpression (.ofTerm term) operator
  | addend left sumOperator additive outer =>
      outer.afterExpression (.sum left sumOperator additive term) operator

end Context

namespace Reading

def step : Reading → Token → Option Reading
  | operand context, .symbol operator =>
      if additive : operator ∈ Operator.additive then
        some (afterSign operator additive context)
      else
        (Context.unsigned context).beginFactor (.symbol operator)
  | operand context, token => (Context.unsigned context).beginFactor token
  | afterSign sign additive context, token => (Context.signed sign additive context).beginFactor token
  | unaryName function known context, token =>
      if token = .symbol .openParen then
        some (Context.unaryArgument function known context).want
      else
        none
  | binaryName function known context, token =>
      if token = .symbol .openParen then
        some (Context.firstArgument function known context).want
      else
        none
  | ended context term, .symbol operator =>
      if multiplicative : operator ∈ Operator.multiplicative then
        some (Context.multiplier term operator multiplicative context).want
      else
        context.afterTerm term operator
  | ended _ _, _ => none

def read (state : Reading) : List Token → Option Reading
  | [] => some state
  | token :: rest => (state.step token).bind fun next => next.read rest

theorem read_append (state : Reading) (front behind : List Token) :
    state.read (front ++ behind) = (state.read front).bind fun next => next.read behind := by
  induction front generalizing state with
  | nil => rfl
  | cons token rest ih =>
      simp only [List.cons_append, read]
      cases state.step token with
      | none => rfl
      | some next => exact ih next

def start : Reading :=
  Context.start.want

def tokens : Reading → List Token
  | operand context => context.tokens
  | afterSign sign _ context => context.tokens ++ [.symbol sign]
  | unaryName function _ context => context.tokens ++ [.symbol function]
  | binaryName function _ context => context.tokens ++ [.symbol function]
  | ended context term => context.tokens ++ term.tokens

def Defined : Reading → Prop
  | operand context => context.Defined
  | afterSign _ _ context => context.Defined
  | unaryName _ _ context => context.Defined
  | binaryName _ _ context => context.Defined
  | ended context term => context.Defined ∧ term.Defined

end Reading

inductive Steps : Reading → Token → Reading → Prop where
  | number (context : Context .factor) (value : Binary64) :
      Steps context.want (.number value) (context.settle (.number value))
  | sign (context : Context .unary) (sign : Operator) (additive : sign ∈ Operator.additive) :
      Steps context.want (.symbol sign) (Context.signed sign additive context).want
  | openParen (context : Context .group) :
      Steps context.want (.symbol .openParen) (Context.parenthesized context).want
  | unaryName (context : Context .group) (function : Operator)
      (known : function ∈ Operator.unaryFunctions) :
      Steps context.want (.symbol function) (.unaryName function known context)
  | binaryName (context : Context .group) (function : Operator)
      (known : function ∈ Operator.binaryFunctions) :
      Steps context.want (.symbol function) (.binaryName function known context)
  | openUnary (context : Context .group) (function : Operator)
      (known : function ∈ Operator.unaryFunctions) :
      Steps (.unaryName function known context) (.symbol .openParen)
        (Context.unaryArgument function known context).want
  | openBinary (context : Context .group) (function : Operator)
      (known : function ∈ Operator.binaryFunctions) :
      Steps (.binaryName function known context) (.symbol .openParen)
        (Context.firstArgument function known context).want
  | multiply (context : Context .term) (term : Tree .term) (operator : Operator)
      (multiplicative : operator ∈ Operator.multiplicative) :
      Steps (context.settle term) (.symbol operator)
        (Context.multiplier term operator multiplicative context).want
  | add (context : Context .expression) (tree : Tree .expression) (operator : Operator)
      (additive : operator ∈ Operator.additive) :
      Steps (context.settle tree) (.symbol operator)
        (Context.addend tree operator additive context).want
  | closeParen (outer : Context .group) (tree : Tree .expression) :
      Steps ((Context.parenthesized outer).settle tree) (.symbol .closeParen)
        (outer.settle (.parenthesized tree))
  | closeUnary (outer : Context .group) (function : Operator)
      (known : function ∈ Operator.unaryFunctions) (tree : Tree .expression) :
      Steps ((Context.unaryArgument function known outer).settle tree) (.symbol .closeParen)
        (outer.settle (.unaryCall function known tree))
  | comma (outer : Context .group) (function : Operator)
      (known : function ∈ Operator.binaryFunctions) (tree : Tree .expression) :
      Steps ((Context.firstArgument function known outer).settle tree) (.symbol .comma)
        (Context.secondArgument function known tree outer).want
  | closeBinary (outer : Context .group) (function : Operator)
      (known : function ∈ Operator.binaryFunctions) (first second : Tree .expression) :
      Steps ((Context.secondArgument function known first outer).settle second)
        (.symbol .closeParen) (outer.settle (.binaryCall function known first second))

namespace Context

theorem want_grouped (outer : Context .factor) : (grouped outer).want = outer.want := by
  cases outer <;> rfl

theorem want_cases {category : Category} (context : Context category) :
    (∃ outer, context.want = .operand outer) ∨
      ∃ sign additive outer, context.want = .afterSign sign additive outer := by
  cases category with
  | expression => exact Or.inl ⟨_, rfl⟩
  | term => exact Or.inl ⟨_, rfl⟩
  | unary => exact Or.inl ⟨_, rfl⟩
  | factor =>
      cases context with
      | unsigned outer => exact Or.inl ⟨outer, rfl⟩
      | signed sign additive outer => exact Or.inr ⟨sign, additive, outer, rfl⟩
  | group =>
      cases context with
      | grouped factor =>
          cases factor with
          | unsigned outer => exact Or.inl ⟨outer, rfl⟩
          | signed sign additive outer => exact Or.inr ⟨sign, additive, outer, rfl⟩

/-- Every factor context wants what its group would, and a sign besides if it has none. -/
theorem step_want_factor (context : Context .factor) {token : Token}
    (unsigned : token.isAmong Operator.additive = false) :
    context.want.step token = context.beginFactor token := by
  cases context with
  | unsigned outer =>
      cases token with
      | symbol operator =>
          have plain : operator ∉ Operator.additive := by
            simpa [Token.isAmong] using unsigned
          simp only [want, Reading.step, dif_neg plain]
      | number value => rfl
      | finish => rfl
  | signed sign additive outer => rfl

theorem begin_factor_of_not_number {context : Context .factor} {token : Token}
    (other : ¬token.isNumber = true) :
    context.beginFactor token = (grouped context).beginGroup token := by
  cases token with
  | number value => exact absurd rfl other
  | symbol operator => rfl
  | finish => rfl

theorem begin_group_blocked {context : Context .group} {token : Token}
    (noParen : ¬token.isAmong [.openParen] = true)
    (noUnary : ¬token.isAmong Operator.unaryFunctions = true)
    (noBinary : ¬token.isAmong Operator.binaryFunctions = true) :
    context.beginGroup token = none := by
  cases token with
  | number value => rfl
  | finish => rfl
  | symbol operator =>
      simp only [Token.isAmong, List.contains_eq_mem, List.mem_singleton, decide_eq_true_eq] at *
      simp only [beginGroup, if_neg noParen, dif_neg noUnary, dif_neg noBinary]

/-- Where a product does not go on, the expression it completes has ended. -/
theorem step_settle_expression {context : Context .expression} {tree : Tree .expression}
    {operator : Operator} (outside : operator ∉ Operator.multiplicative) :
    (context.settle tree).step (.symbol operator) = context.afterExpression tree operator := by
  cases tree with
  | ofTerm term => exact dif_neg outside
  | sum left sumOperator additive right => exact dif_neg outside

theorem begin_group_steps (context : Context .group) {token : Token} {next : Reading}
    (begun : context.beginGroup token = some next) : Steps context.want token next := by
  cases token with
  | number value => cases begun
  | finish => cases begun
  | symbol operator =>
      simp only [beginGroup] at begun
      split at begun
      · next paren =>
          subst paren
          cases begun
          exact .openParen context
      split at begun
      · next known =>
          cases begun
          exact .unaryName context operator known
      split at begun
      · next known =>
          cases begun
          exact .binaryName context operator known
      · cases begun

theorem begin_factor_steps (context : Context .factor) {token : Token} {next : Reading}
    (begun : context.beginFactor token = some next) : Steps context.want token next := by
  cases token with
  | number value =>
      cases begun
      exact .number context value
  | symbol operator =>
      rw [← want_grouped]
      exact begin_group_steps (grouped context) begun
  | finish => cases begun

theorem after_expression_steps {context : Context .expression} {tree : Tree .expression}
    {operator : Operator} {next : Reading}
    (ended : context.afterExpression tree operator = some next) :
    Steps (context.settle tree) (.symbol operator) next := by
  unfold afterExpression at ended
  split at ended
  · next additive =>
      cases ended
      exact .add context tree operator additive
  · split at ended
    · cases ended
      exact .closeParen _ tree
    · cases ended
      exact .closeUnary _ _ _ tree
    · cases ended
      exact .comma _ _ _ tree
    · cases ended
      exact .closeBinary _ _ _ _ tree
    · cases ended

end Context

namespace Reading

theorem steps_of_step {state next : Reading} {token : Token}
    (stepped : state.step token = some next) : Steps state token next := by
  cases state with
  | operand context =>
      cases token with
      | symbol operator =>
          simp only [step] at stepped
          split at stepped
          · next additive =>
              cases stepped
              exact .sign context operator additive
          · exact Context.begin_factor_steps (.unsigned context) stepped
      | number value => exact Context.begin_factor_steps (.unsigned context) stepped
      | finish => exact Context.begin_factor_steps (.unsigned context) stepped
  | afterSign sign additive context =>
      exact Context.begin_factor_steps (.signed sign additive context) stepped
  | unaryName function known context =>
      simp only [step] at stepped
      split at stepped
      · next paren =>
          subst paren
          cases stepped
          exact .openUnary context function known
      · cases stepped
  | binaryName function known context =>
      simp only [step] at stepped
      split at stepped
      · next paren =>
          subst paren
          cases stepped
          exact .openBinary context function known
      · cases stepped
  | ended context term =>
      cases token with
      | symbol operator =>
          simp only [step] at stepped
          split at stepped
          · next multiplicative =>
              cases stepped
              exact .multiply context term operator multiplicative
          · cases context with
            | firstTerm outer => exact Context.after_expression_steps stepped
            | addend left sumOperator additive outer => exact Context.after_expression_steps stepped
      | number value => cases stepped
      | finish => cases stepped

theorem step_of_steps {state next : Reading} {token : Token} (steps : Steps state token next) :
    state.step token = some next := by
  cases steps with
  | number context value =>
      rw [Context.step_want_factor context rfl]
      rfl
  | sign context sign additive => exact dif_pos additive
  | openParen context =>
      cases context with
      | grouped outer =>
          rw [Context.want_grouped, Context.step_want_factor outer (by decide)]
          rfl
  | unaryName context function known =>
      cases context with
      | grouped outer =>
          obtain ⟨plain, named⟩ := Operator.unary_function_begins_group function known
          rw [Context.want_grouped, Context.step_want_factor outer plain]
          simp only [Context.beginFactor, Context.beginGroup, if_neg named, dif_pos known]
  | binaryName context function known =>
      cases context with
      | grouped outer =>
          obtain ⟨plain, named, other⟩ := Operator.binary_function_begins_group function known
          rw [Context.want_grouped, Context.step_want_factor outer plain]
          simp only [Context.beginFactor, Context.beginGroup, if_neg named, dif_neg other,
            dif_pos known]
  | openUnary context function known => rfl
  | openBinary context function known => rfl
  | multiply context term operator multiplicative => exact dif_pos multiplicative
  | add context tree operator additive =>
      rw [Context.step_settle_expression (Operator.additive_not_multiplicative operator additive)]
      exact dif_pos additive
  | closeParen outer tree =>
      rw [Context.step_settle_expression (by decide)]
      rfl
  | closeUnary outer function known tree =>
      rw [Context.step_settle_expression (by decide)]
      rfl
  | comma outer function known tree =>
      rw [Context.step_settle_expression (by decide)]
      rfl
  | closeBinary outer function known first second =>
      rw [Context.step_settle_expression (by decide)]
      rfl

end Reading

end Calculator
