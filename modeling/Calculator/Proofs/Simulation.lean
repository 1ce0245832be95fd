import Calculator.Proofs.Follows

/-!
# The descent walks

Recursive descent reads as the pushdown machine does: each rule, asked in a context, walks from where
the part is missing to where its tree has been read, and halts where the machine halts. There is one
lemma for each rule, and `simulates` puts them together by the measure that the descent itself falls by.
-/

set_option autoImplicit false

namespace Calculator

def Category.continuations : Category → List Operator
  | .expression => Operator.additive ++ Operator.multiplicative
  | .term => Operator.multiplicative
  | _ => []

/-- The part has been read to its end: its tree has the value, and the look-ahead does not go on. -/
def Context.Arrives {category : Category} (context : Context category) (value : Binary64)
    (last : Reading) (stop : Cursor) : Prop :=
  ∃ tree : Tree category, last = context.settle tree ∧ tree.value = .ok value ∧
    stop.lookahead.isAmong category.continuations = false

/-- What the descent does with a rule, in every context of the rule. A tail goes on with a tree already
there, and a factor and a group are asked for only where no sign can stand. -/
def Simulates (rule : Rule) (cursor : Cursor) : Prop :=
  match rule with
  | .expression => ∀ context : Context .expression, context.Defined →
      Follows context.want cursor (parse .expression cursor) context.Arrives
  | .expressionTail left => ∀ (context : Context .expression) (tree : Tree .expression),
      context.Defined → tree.value = .ok left →
        cursor.lookahead.isAmong Operator.multiplicative = false →
          Follows (context.settle tree) cursor (parse (.expressionTail left) cursor) context.Arrives
  | .term => ∀ context : Context .term, context.Defined →
      Follows context.want cursor (parse .term cursor) context.Arrives
  | .termTail left => ∀ (context : Context .term) (tree : Tree .term),
      context.Defined → tree.value = .ok left →
        Follows (context.settle tree) cursor (parse (.termTail left) cursor) context.Arrives
  | .unary => ∀ context : Context .unary, context.Defined →
      Follows context.want cursor (parse .unary cursor) context.Arrives
  | .factor => ∀ context : Context .factor, context.Defined →
      context.want.step cursor.lookahead = context.beginFactor cursor.lookahead →
        Follows context.want cursor (parse .factor cursor) context.Arrives
  | .group => ∀ context : Context .group, context.Defined →
      context.want.step cursor.lookahead = context.beginGroup cursor.lookahead →
        Follows context.want cursor (parse .group cursor) context.Arrives

def Rule.weight (rule : Rule) (cursor : Cursor) : Nat :=
  5 * cursor.remaining + rule.rank

theorem parse_remaining {rule : Rule} {cursor stop : Cursor} {value : Binary64}
    (finished : parse rule cursor = .done value stop) : stop.remaining ≤ cursor.remaining := by
  have below := (descend rule cursor).below
  rw [← parse, finished] at below
  exact Nat.le_of_lt_succ below

theorem take_operator_falls {candidates : List Operator} {operator : Operator}
    {cursor stop : Cursor} (waiting : cursor.lookahead.isAmong candidates = true)
    (finished : cursor.takeOperator = .done operator stop) :
    stop.remaining < cursor.remaining := by
  have below := Cursor.take_operator_remaining waiting
  rw [finished] at below
  exact below

theorem open_group_keeps {cursor stop : Cursor} (finished : cursor.openGroup = .done () stop) :
    stop.remaining ≤ cursor.remaining := by
  have below := Cursor.open_group_remaining cursor
  rw [finished] at below
  exact Nat.le_of_lt_succ below

theorem open_group_falls {cursor stop : Cursor}
    (waiting : cursor.lookahead.isAmong [.openParen] = true)
    (finished : cursor.openGroup = .done () stop) : stop.remaining < cursor.remaining := by
  have below := Cursor.open_group_remaining_of_waiting waiting
  rw [finished] at below
  exact below

theorem next_parameter_keeps {cursor stop : Cursor}
    (finished : cursor.nextParameter = .done () stop) : stop.remaining ≤ cursor.remaining := by
  have below := Cursor.expect_remaining .comma .secondParameterExpected cursor
  rw [← Cursor.nextParameter, finished] at below
  exact Nat.le_of_lt_succ below

section Rules

variable {cursor : Cursor}

theorem simulates_expression
    (earlier : ∀ rule next, rule.weight next < Rule.expression.weight cursor → Simulates rule next) :
    Simulates .expression cursor := by
  intro context defined
  rw [parse_expression]
  have smaller : Rule.term.weight cursor < Rule.expression.weight cursor := by
    simp only [Rule.weight, Rule.rank]
    omega
  apply Follows.andThen (earlier .term cursor smaller (.firstTerm context) defined)
  intro value last next finished arrived
  obtain ⟨tree, rfl, valued, stops⟩ := arrived
  have fewer := parse_remaining finished
  have later : (Rule.expressionTail value).weight next < Rule.expression.weight cursor := by
    simp only [Rule.weight, Rule.rank]
    omega
  exact earlier (.expressionTail value) next later context (.ofTerm tree) defined valued stops

theorem simulates_term
    (earlier : ∀ rule next, rule.weight next < Rule.term.weight cursor → Simulates rule next) :
    Simulates .term cursor := by
  intro context defined
  rw [parse_term]
  have smaller : Rule.unary.weight cursor < Rule.term.weight cursor := by
    simp only [Rule.weight, Rule.rank]
    omega
  apply Follows.andThen (earlier .unary cursor smaller (.firstOperand context) defined)
  intro value last next finished arrived
  obtain ⟨tree, rfl, valued, _⟩ := arrived
  have fewer := parse_remaining finished
  have later : (Rule.termTail value).weight next < Rule.term.weight cursor := by
    simp only [Rule.weight, Rule.rank]
    omega
  exact earlier (.termTail value) next later context (.ofUnary tree) defined valued

theorem simulates_term_tail {left : Binary64}
    (earlier : ∀ rule next, rule.weight next < (Rule.termTail left).weight cursor →
      Simulates rule next) : Simulates (.termTail left) cursor := by
  intro context tree defined valued
  rw [parse_term_tail]
  split
  · next waiting =>
      obtain ⟨operator, multiplicative, ahead⟩ := Token.is_among_iff.mp waiting
      have inner : (Context.multiplier tree operator multiplicative context).Defined :=
        ⟨defined, left, valued⟩
      have read := Reading.step_of_steps (.multiply context tree operator multiplicative)
      have plain := Operator.multiplicative_not_paren operator multiplicative
      apply Follows.andThen (Follows.takeOperator ahead read plain inner)
      intro _ _ next took passed
      obtain ⟨rfl, rfl⟩ := passed
      have falls := take_operator_falls waiting took
      have smaller : Rule.unary.weight next < (Rule.termTail left).weight cursor := by
        simp only [Rule.weight, Rule.rank]
        omega
      apply Follows.andThen (earlier .unary next smaller _ inner)
      intro right _ after finished arrived
      obtain ⟨operand, rfl, rightValue, _⟩ := arrived
      have fewer := parse_remaining finished
      obtain ⟨value, combined⟩ := Operator.combine_multiplicative multiplicative left right
      have later : (Rule.termTail value).weight after < (Rule.termTail left).weight cursor := by
        simp only [Rule.weight, Rule.rank]
        omega
      rw [combined]
      refine earlier (.termTail value) after later context
        (.product tree _ multiplicative operand) defined ?_
      rw [Tree.product_value valued rightValue, combined]
  · next stops => exact Follows.done ⟨tree, rfl, valued, Bool.eq_false_iff.mpr stops⟩

theorem simulates_expression_tail {left : Binary64}
    (earlier : ∀ rule next, rule.weight next < (Rule.expressionTail left).weight cursor →
      Simulates rule next) : Simulates (.expressionTail left) cursor := by
  intro context tree defined valued factorEnded
  rw [parse_expression_tail]
  split
  · next waiting =>
      obtain ⟨operator, additive, ahead⟩ := Token.is_among_iff.mp waiting
      have inner : (Context.addend tree operator additive context).Defined :=
        ⟨defined, left, valued⟩
      have read := Reading.step_of_steps (.add context tree operator additive)
      have plain := Operator.additive_not_paren operator additive
      apply Follows.andThen (Follows.takeOperator ahead read plain inner)
      intro _ _ next took passed
      obtain ⟨rfl, rfl⟩ := passed
      have falls := take_operator_falls waiting took
      have smaller : Rule.term.weight next < (Rule.expressionTail left).weight cursor := by
        simp only [Rule.weight, Rule.rank]
        omega
      apply Follows.andThen (earlier .term next smaller _ inner)
      intro right _ after finished arrived
      obtain ⟨term, rfl, rightValue, stops⟩ := arrived
      have fewer := parse_remaining finished
      obtain ⟨value, combined⟩ := Operator.combine_additive additive left right
      have later : (Rule.expressionTail value).weight after <
          (Rule.expressionTail left).weight cursor := by
        simp only [Rule.weight, Rule.rank]
        omega
      rw [combined]
      refine earlier (.expressionTail value) after later context
        (.sum tree _ additive term) defined ?_ stops
      rw [Tree.sum_value valued rightValue, combined]
  · next stops =>
      refine Follows.done ⟨tree, rfl, valued, ?_⟩
      exact Token.is_among_append.mpr ⟨Bool.eq_false_iff.mpr stops, factorEnded⟩

theorem simulates_unary
    (earlier : ∀ rule next, rule.weight next < Rule.unary.weight cursor → Simulates rule next) :
    Simulates .unary cursor := by
  intro context defined
  rw [parse_unary]
  split
  · next waiting =>
      obtain ⟨sign, additive, ahead⟩ := Token.is_among_iff.mp waiting
      have read := Reading.step_of_steps (.sign context sign additive)
      have plain := Operator.additive_not_paren sign additive
      apply Follows.andThen (Follows.takeOperator ahead read plain defined)
      intro _ _ next took passed
      obtain ⟨rfl, rfl⟩ := passed
      have falls := take_operator_falls waiting took
      have smaller : Rule.factor.weight next < Rule.unary.weight cursor := by
        simp only [Rule.weight, Rule.rank]
        omega
      refine Follows.andThen
        (earlier .factor next smaller (.signed _ additive context) defined rfl) ?_
      intro factor _ after finished arrived
      obtain ⟨tree, rfl, valued, _⟩ := arrived
      obtain ⟨value, combined⟩ := Operator.combine_additive additive .zero factor
      rw [combined]
      refine Follows.done ⟨.signed _ additive tree, rfl, ?_, Token.is_among_nil⟩
      rw [Tree.signed_value valued, combined]
  · next stops =>
      have smaller : Rule.factor.weight cursor < Rule.unary.weight cursor := by
        simp only [Rule.weight, Rule.rank]
        omega
      have begins := (Context.unsigned context).step_want_factor (Bool.eq_false_iff.mpr stops)
      apply Follows.imp (earlier .factor cursor smaller (.unsigned context) defined begins)
      intro value _ stop arrived
      obtain ⟨tree, rfl, valued, _⟩ := arrived
      exact ⟨.ofFactor tree, rfl, valued, Token.is_among_nil⟩

theorem simulates_factor
    (earlier : ∀ rule next, rule.weight next < Rule.factor.weight cursor → Simulates rule next) :
    Simulates .factor cursor := by
  intro context defined begins
  rw [parse_factor]
  split
  · next waiting =>
      obtain ⟨number, ahead⟩ := Token.is_number_iff.mp waiting
      have read := Reading.step_of_steps (.number context number)
      have settled := (context.settle_defined (.number number)).mpr ⟨defined, number, rfl⟩
      apply Follows.imp (Follows.takeNumber ahead read settled)
      intro value _ stop passed
      obtain ⟨rfl, rfl⟩ := passed
      exact ⟨.number value, rfl, rfl, Token.is_among_nil⟩
  · next other =>
      have smaller : Rule.group.weight cursor < Rule.factor.weight cursor := by
        simp only [Rule.weight, Rule.rank]
        omega
      rw [Context.begin_factor_of_not_number other, ← Context.want_grouped] at begins
      rw [← Context.want_grouped]
      apply Follows.imp (earlier .group cursor smaller (.grouped context) defined begins)
      intro value _ stop arrived
      obtain ⟨tree, rfl, valued, _⟩ := arrived
      exact ⟨.ofGroup tree, rfl, valued, Token.is_among_nil⟩

theorem follows_body {inner : Context .expression} {outer : Context .group}
    (build : Tree .expression → Tree .group) (apply : Binary64 → Except Fault Binary64)
    (parsed : Simulates .expression cursor) (due : inner.delimiter = some .closeParen)
    (unclosed : ∀ text, inner.refusal text = .unclosedParenthesis)
    (read : ∀ tree, (inner.settle tree).step (.symbol .closeParen) = some (outer.settle (build tree)))
    (valued : ∀ tree value, tree.value = .ok value → (build tree).value = apply value)
    (broken : ∀ value fault, apply value = .error fault → fault = .integerExpected)
    (innerDefined : inner.Defined) (outerDefined : outer.Defined) :
    Follows inner.want cursor
      ((parse .expression cursor).andThen fun value next =>
        next.closeGroup.andThen fun _ after => Outcome.ofExcept after (apply value))
      outer.Arrives := by
  apply Follows.andThen (parsed inner innerDefined)
  intro value _ next finished arrived
  obtain ⟨tree, rfl, treeValue, stops⟩ := arrived
  have groupValue := valued tree value treeValue
  refine Follows.imp (Follows.closeGroup (read tree) ?_ ?_ ?_) ?_
  · intro fault failed
    refine ⟨broken value fault failed, ?_⟩
    rw [Context.settle_defined]
    intro evaluated
    obtain ⟨_, result, defined⟩ := evaluated
    rw [groupValue, failed] at defined
    cases defined
  · intro result succeeded
    rw [Context.settle_defined]
    exact ⟨outerDefined, result, groupValue.trans succeeded⟩
  · intro other
    rw [← unclosed next.text]
    exact Context.settle_refuses due stops other
  · intro answer _ stop passed
    obtain ⟨succeeded, rfl⟩ := passed
    exact ⟨build tree, rfl, groupValue.trans succeeded, Token.is_among_nil⟩

theorem simulates_group
    (earlier : ∀ rule next, rule.weight next < Rule.group.weight cursor → Simulates rule next) :
    Simulates .group cursor := by
  have inside : ∀ next, next.remaining < cursor.remaining → Simulates .expression next := by
    intro next fewer
    apply earlier .expression next
    simp only [Rule.weight, Rule.rank]
    omega
  intro context defined begins
  have wanted := context.want_defined.mpr defined
  rw [parse_group]
  split
  · next waiting =>
      have ahead := Token.is_among_singleton.mp waiting
      have read := Reading.step_of_steps (.openParen context)
      apply Follows.andThen (Follows.openGroup read defined fun other => absurd ahead other)
      intro _ last next opened same
      subst same
      refine follows_body .parenthesized .ok (inside next (open_group_falls waiting opened)) rfl
        (fun _ => rfl) (fun tree => Reading.step_of_steps (.closeParen context tree))
        (fun _ _ valued => valued) ?_ defined defined
      intro value fault failed
      cases failed
  split
  · next waiting =>
      obtain ⟨function, known, ahead⟩ := Token.is_among_iff.mp waiting
      have read := Reading.step_of_steps (.unaryName context function known)
      have plain := (Operator.unary_function_begins_group function known).2
      apply Follows.andThen (Follows.takeOperator ahead read plain defined)
      intro _ _ named took passed
      obtain ⟨rfl, rfl⟩ := passed
      have falls := take_operator_falls waiting took
      have opens := Reading.step_of_steps (.openUnary context _ known)
      apply Follows.andThen (Follows.openGroup opens defined Context.unary_name_refuses)
      intro _ last next opened same
      subst same
      have fewer := open_group_keeps opened
      refine follows_body (.unaryCall _ known) _ (inside next (by omega)) rfl
        (fun _ => rfl) (fun tree => Reading.step_of_steps (.closeUnary context _ known tree))
        (fun _ _ valued => Tree.unary_call_value valued) ?_ defined defined
      exact fun _ _ => Operator.apply_unary_fault known
  split
  · next waiting =>
      obtain ⟨function, known, ahead⟩ := Token.is_among_iff.mp waiting
      have read := Reading.step_of_steps (.binaryName context function known)
      have plain := (Operator.binary_function_begins_group function known).2.1
      apply Follows.andThen (Follows.takeOperator ahead read plain defined)
      intro _ _ named took passed
      obtain ⟨rfl, rfl⟩ := passed
      have falls := take_operator_falls waiting took
      have opens := Reading.step_of_steps (.openBinary context _ known)
      apply Follows.andThen (Follows.openGroup opens defined Context.binary_name_refuses)
      intro _ last next opened same
      subst same
      have fewer := open_group_keeps opened
      apply Follows.andThen (inside next (by omega) _ defined)
      intro first _ between finished arrived
      obtain ⟨tree, rfl, firstValue, stops⟩ := arrived
      have left := parse_remaining finished
      have parameter := Reading.step_of_steps (.comma context _ known tree)
      have complete : (Context.secondArgument _ known tree context).Defined :=
        ⟨defined, first, firstValue⟩
      refine Follows.andThen (Follows.nextParameter parameter complete fun other =>
        Context.settle_refuses rfl stops other) ?_
      intro _ last after separated same
      subst same
      have kept := next_parameter_keeps separated
      refine follows_body (.binaryCall _ known tree) _ (inside after (by omega)) rfl
        (fun _ => rfl) (fun second => Reading.step_of_steps (.closeBinary context _ known tree second))
        (fun _ _ secondValue => Tree.binary_call_value firstValue secondValue) ?_ complete defined
      intro second fault failed
      obtain ⟨value, succeeded⟩ := Operator.apply_binary_known known first second
      rw [succeeded] at failed
      cases failed
  · next noParen noUnary noBinary =>
      refine Follows.refuse (Context.want_refuses ?_)
      rw [begins]
      exact Context.begin_group_blocked noParen noUnary noBinary

end Rules

theorem simulates (rule : Rule) (cursor : Cursor) : Simulates rule cursor := by
  induction bound : rule.weight cursor using Nat.strongRecOn generalizing rule cursor with
  | ind weight ih =>
      have earlier : ∀ other next, other.weight next < rule.weight cursor →
          Simulates other next := by
        intro other next smaller
        exact ih (other.weight next) (bound ▸ smaller) other next rfl
      cases rule with
      | expression => exact simulates_expression earlier
      | expressionTail left => exact simulates_expression_tail earlier
      | term => exact simulates_term earlier
      | termTail left => exact simulates_term_tail earlier
      | unary => exact simulates_unary earlier
      | factor => exact simulates_factor earlier
      | group => exact simulates_group earlier

end Calculator
