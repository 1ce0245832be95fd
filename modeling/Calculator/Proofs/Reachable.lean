import Calculator.Session
import Calculator.Proofs.SourceReading
import Calculator.Proofs.Stream

/-!
# Where sessions come to

A session takes tokens and asks for rules of the grammar, and goes on after a fault. Whatever it asks
for, its cursor only moves by attempts to take the look-ahead and by what is reported to the log. So a
property that both keep holds wherever a session comes to: `Kept.holds_of_reachable`.
-/

set_option autoImplicit false

namespace Calculator

namespace Session

inductive Reachable (source : String) : Cursor → Prop where
  | opened {first : Cursor} (opens : Cursor.openSource source = .done () first) :
      Reachable source first
  | step {cursor : Cursor} (reached : Reachable source cursor) (step : Step) :
      Reachable source (step.run cursor).cursor

end Session

/-- A property of cursors that no attempt to take a token loses, and that does not look at the log. -/
structure Kept (holds : Cursor → Prop) : Prop where
  taken : ∀ cursor, holds cursor → holds cursor.take.cursor
  logged : ∀ cursor log, holds cursor → holds { cursor with log }

namespace Kept

variable {holds : Cursor → Prop} {state last : Reading} {cursor stop : Cursor} {tokens : List Token}

theorem holds_of_walk (kept : Kept holds) (walk : Walk state cursor tokens last stop)
    (before : holds cursor) : holds stop := by
  induction walk with
  | stay state cursor => exact before
  | @go state between last cursor after stop rest step more ih =>
      have taken := kept.taken cursor before
      rw [step.took] at taken
      exact ih taken

theorem holds_of_halts (kept : Kept holds) {fault : Fault} (halts : Halts state cursor fault stop)
    (before : holds cursor) : holds stop := by
  have taken := kept.taken cursor before
  cases halts with
  | refused blocked unfinished place =>
      have same : stop = { cursor with log := stop.log } := by rw [← place]
      rw [same]
      exact kept.logged cursor stop.log before
  | unknown read stuck =>
      rw [stuck] at taken
      exact taken
  | tooDeep read took opened deep =>
      rw [took] at taken
      exact taken
  | undefined read took undefined =>
      rw [took] at taken
      exact taken

theorem holds_of_follows {α : Type} {arrives : α → Reading → Cursor → Prop} {outcome : Outcome α}
    (kept : Kept holds) (follows : Follows state cursor outcome arrives) (before : holds cursor) :
    holds outcome.cursor := by
  cases outcome with
  | done answer stop =>
      obtain ⟨tokens, last, walk, _⟩ := follows
      exact kept.holds_of_walk walk before
  | failed fault stopped =>
      obtain ⟨tokens, last, place, walk, halts⟩ := follows
      exact kept.holds_of_halts halts (kept.holds_of_walk walk before)

end Kept

/-- A place of the grammar where a part of the category can stand and no sign before it. -/
def Category.home : (category : Category) → Context category
  | .expression => .start
  | .term => .firstTerm .start
  | .unary => .firstOperand (.firstTerm .start)
  | .factor => .signed .plus (by decide) (.firstOperand (.firstTerm .start))
  | .group => .grouped (.signed .plus (by decide) (.firstOperand (.firstTerm .start)))

def Category.rule : Category → Rule
  | .expression => .expression
  | .term => .term
  | .unary => .unary
  | .factor => .factor
  | .group => .group

theorem parse_group_of_number {cursor : Cursor} (number : cursor.lookahead.isNumber = true) :
    parse .group cursor = .failed .numberExpected cursor := by
  obtain ⟨value, ahead⟩ := Token.is_number_iff.mp number
  rw [parse_group, ahead]
  rfl

/-- Each part can be read by itself. A group is asked for only where no number stands. -/
theorem follows_home (category : Category) {cursor : Cursor}
    (asked : category = .group → ¬cursor.lookahead.isNumber = true) :
    Follows category.home.want cursor (parse category.rule cursor) category.home.Arrives := by
  cases category with
  | expression => exact simulates .expression cursor Category.expression.home trivial
  | term => exact simulates .term cursor Category.term.home trivial
  | unary => exact simulates .unary cursor Category.unary.home trivial
  | factor => exact simulates .factor cursor Category.factor.home trivial rfl
  | group =>
      exact simulates .group cursor Category.group.home trivial
        (Context.begin_factor_of_not_number (asked rfl))

theorem parse_expression_tail_of_multiplicative {left : Binary64} {cursor : Cursor}
    (behind : cursor.lookahead.isAmong Operator.multiplicative = true) :
    parse (.expressionTail left) cursor = .done left cursor := by
  obtain ⟨operator, multiplicative, ahead⟩ := Token.is_among_iff.mp behind
  have stays : ¬cursor.lookahead.isAmong Operator.additive = true := by
    intro additive
    obtain ⟨other, listed, same⟩ := Token.is_among_iff.mp additive
    rw [ahead] at same
    cases same
    exact Operator.additive_not_multiplicative operator listed multiplicative
  rw [parse_expression_tail, if_neg stays]

/-- A rule that moves the cursor reads with the machine. A tail goes on with a chain that begins with a
number. -/
theorem stays_or_follows (rule : Rule) (cursor : Cursor) :
    (parse rule cursor).cursor = cursor ∨
      ∃ state arrives, Follows state cursor (parse rule cursor) arrives := by
  cases rule with
  | expression => exact Or.inr ⟨_, _, follows_home .expression nofun⟩
  | term => exact Or.inr ⟨_, _, follows_home .term nofun⟩
  | unary => exact Or.inr ⟨_, _, follows_home .unary nofun⟩
  | factor => exact Or.inr ⟨_, _, follows_home .factor nofun⟩
  | group =>
      by_cases number : cursor.lookahead.isNumber = true
      · rw [parse_group_of_number number]
        exact Or.inl rfl
      · exact Or.inr ⟨_, _, follows_home .group fun _ => number⟩
  | termTail left =>
      exact Or.inr ⟨_, _, simulates (.termTail left) cursor Category.term.home
        (.ofUnary (.ofFactor (.number left))) trivial rfl⟩
  | expressionTail left =>
      cases behind : cursor.lookahead.isAmong Operator.multiplicative with
      | true =>
          rw [parse_expression_tail_of_multiplicative behind]
          exact Or.inl rfl
      | false =>
          exact Or.inr ⟨_, _, simulates (.expressionTail left) cursor Category.expression.home
            (.ofTerm (.ofUnary (.ofFactor (.number left)))) trivial rfl behind⟩

namespace Kept

variable {holds : Cursor → Prop} {cursor : Cursor}

theorem holds_of_parse (kept : Kept holds) (rule : Rule) (before : holds cursor) :
    holds (parse rule cursor).cursor := by
  rcases stays_or_follows rule cursor with stays | ⟨_, _, follows⟩
  · rw [stays]
    exact before
  · exact kept.holds_of_follows follows before

theorem holds_of_take_number (kept : Kept holds) (before : holds cursor) :
    holds cursor.takeNumber.cursor := by
  cases ahead : cursor.lookahead with
  | number value =>
      have taken := kept.taken cursor before
      rw [Cursor.take, ahead, Outcome.cursor_map] at taken
      exact taken
  | symbol operator =>
      rw [Cursor.takeNumber, ahead]
      exact before
  | finish =>
      rw [Cursor.takeNumber, ahead]
      exact before

theorem holds_of_take_operator (kept : Kept holds) (before : holds cursor) :
    holds cursor.takeOperator.cursor := by
  cases ahead : cursor.lookahead with
  | symbol operator =>
      have taken := kept.taken cursor before
      rw [Cursor.take, ahead, Outcome.cursor_map] at taken
      exact taken
  | number value =>
      rw [Cursor.takeOperator, ahead]
      exact before
  | finish =>
      rw [Cursor.takeOperator, ahead]
      exact before

theorem holds_of_step (kept : Kept holds) (step : Session.Step) (before : holds cursor) :
    holds (step.run cursor).cursor := by
  cases step with
  | takeNumber =>
      rw [Session.Step.run, Outcome.cursor_map]
      exact kept.holds_of_take_number before
  | takeOperator =>
      rw [Session.Step.run, Outcome.cursor_map]
      exact kept.holds_of_take_operator before
  | parseAll =>
      rw [Session.Step.run, Outcome.cursor_map]
      exact kept.holds_of_follows (follows_parse_all cursor) before
  | parse rule =>
      rw [Session.Step.run, Outcome.cursor_map]
      exact kept.holds_of_parse rule before
  | parseGroup =>
      rw [Session.Step.run, Outcome.cursor_map, parseGroup?]
      split
      · rw [Outcome.cursor_map]
        exact kept.holds_of_parse .group before
      · exact before

theorem holds_of_reachable {source : String} (kept : Kept holds)
    (opened : ∀ first, Cursor.openSource source = .done () first → holds first)
    (reached : Session.Reachable source cursor) : holds cursor := by
  induction reached with
  | opened opens => exact opened _ opens
  | step reached step ih => exact kept.holds_of_step step ih

end Kept

theorem Session.Reachable.intact {source : String} {cursor : Cursor}
    (reached : Session.Reachable source cursor) : cursor.Intact := by
  have kept : Kept Cursor.Intact :=
    { taken := fun _ => Cursor.intact_of_take
      logged := fun cursor log intact => intact }
  refine kept.holds_of_reachable ?_ reached
  intro first opens
  exact ⟨(Cursor.ofSource source).pending, (Cursor.advance_done opens).1⟩

end Calculator
