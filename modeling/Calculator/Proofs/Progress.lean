import Calculator.Proofs.Trace

/-!
# The descent goes forward

What a cursor has left bounds the work of a rule. A token that is taken lowers it, also when the taking fails
behind it; nothing else moves the cursor, and nothing raises it. So a rule takes no more tokens than were
left, and it leaves so many fewer. A part of an expression that has been read has taken one at least. Where
nothing begins that a rule could go on with, it takes nothing and leaves the cursor as it was.
-/

set_option autoImplicit false

namespace Calculator

/-! ## A token that is asked for is gone -/

namespace Cursor

variable {cursor : Cursor}

theorem advance_remaining_eq (waiting : cursor.lookahead.isFinish = false) :
    cursor.advance.cursor.remaining = cursor.pending.length := by
  cases pending : cursor.pending with
  | nil => simp [advance, pending, Outcome.cursor, remaining, Token.isFinish]
  | cons lexeme rest =>
      cases known : Token.ofLexeme? lexeme with
      | none => simp [advance, pending, known, Outcome.cursor, remaining, waiting]
      | some token =>
          have unfinished : token.isFinish = false := by
            rw [Bool.eq_false_iff, ne_eq, Token.is_finish_iff]
            rintro rfl
            exact Token.of_lexeme_ne_finish lexeme known
          simp [advance, pending, known, Outcome.cursor, remaining, unfinished]

theorem take_number_takes (waiting : cursor.lookahead.isNumber = true) :
    cursor.takeNumber.cursor.remaining + 1 = cursor.remaining := by
  obtain ⟨value, ahead⟩ := Token.is_number_iff.mp waiting
  have unfinished : cursor.lookahead.isFinish = false := by
    rw [ahead]
    rfl
  rw [remaining_of_waiting cursor unfinished, takeNumber, ahead, Outcome.cursor_map,
    advance_remaining_eq unfinished]

theorem take_operator_takes {operator : Operator} (ahead : cursor.lookahead = .symbol operator) :
    cursor.takeOperator.cursor.remaining + 1 = cursor.remaining := by
  have unfinished : cursor.lookahead.isFinish = false := by
    rw [ahead]
    rfl
  have counted : (cursor.countGroup operator).advance.cursor.remaining = cursor.pending.length :=
    advance_remaining_eq unfinished
  rw [remaining_of_waiting cursor unfinished, takeOperator, ahead, Outcome.cursor_map, counted]

end Cursor

theorem Call.pays {call : Call} (fits : call.Fits) :
    [Move.call call].countP Move.takes + (call.action.run call.cursor).cursor.remaining =
      call.cursor.remaining := by
  obtain ⟨action, cursor⟩ := call
  rw [List.countP_singleton, Nat.add_comm]
  cases action with
  | takeNumber => exact Cursor.take_number_takes fits
  | takeOperator =>
      obtain ⟨operator, ahead⟩ := fits
      exact Cursor.take_operator_takes ahead
  | combine operator left right => exact congrArg Cursor.remaining (Outcome.cursor_of_except _ _)
  | applyUnary function argument => exact congrArg Cursor.remaining (Outcome.cursor_of_except _ _)
  | applyBinary function first second => exact congrArg Cursor.remaining (Outcome.cursor_of_except _ _)

/-- The tokens asked for on the way are those that are gone. -/
theorem pays_compositional :
    Compositional fun start _ stop moves =>
      moves.countP Move.takes + stop.remaining = start.remaining where
  rests := fun _ => Nat.zero_add _
  refuses := fun _ _ _ => Nat.zero_add _
  calls := fun _ fits => Call.pays fits
  scopes := by
    intro scope start fault? stop inner paid
    simp only [enclosed, List.cons_append, List.countP_cons, List.countP_append, List.countP_nil,
      Move.takes, Bool.false_eq_true, if_false, Nat.add_zero]
    exact paid
  appends := by
    intro start between fault? stop front rest first second
    rw [List.countP_append, Nat.add_assoc, second, first]

/-! ## A part that has been read has taken a token -/

theorem Tree.tokens_length_pos {category : Category} (tree : Tree category) : 0 < tree.tokens.length := by
  induction tree <;> simp only [tokens, List.length_cons, List.length_append, List.length_nil] <;> omega

/-- A good end leaves less than `bound`. -/
def Outcome.Below {α : Type} (outcome : Outcome α) (bound : Nat) : Prop :=
  ∀ answer next, outcome = .done answer next → next.remaining < bound

theorem category_falls (category : Category) (cursor : Cursor) :
    (parse category.rule cursor).Below cursor.remaining := by
  intro value stop parsed
  obtain ⟨tree, _, passes, _⟩ := part_of_parse parsed
  have taken := passes.remaining
  have positive := tree.tokens_length_pos
  omega

/-- The group at a cursor, if one starts there, takes a token; if none does, nothing is moved. -/
theorem parse_group_moves (cursor : Cursor) :
    (∀ value next, parseGroup? cursor = .done (some value) next → next.remaining < cursor.remaining) ∧
      ∀ next, parseGroup? cursor = .done none next → next = cursor := by
  rw [parseGroup?]
  split
  · constructor
    · intro value next finished
      obtain ⟨_, parsed, _⟩ := Outcome.map_done finished
      exact category_falls .group cursor _ next parsed
    · intro next finished
      obtain ⟨value, _, absent⟩ := Outcome.map_done finished
      cases absent
  · constructor
    · intro value next finished
      cases finished
    · intro next finished
      cases finished
      rfl

/-- From every cursor each rule ends, in one way. The tokens that it asks for on its way are those that are
gone at its end. A part that has been read has taken one of them at least, and a rule that has nothing to go on
with leaves the cursor as it was. -/
theorem descent_goes_forward :
    (∀ rule cursor, ∃ moves, (Rule.script rule cursor).UnfoldsOnly (parse rule cursor) moves ∧
        moves.countP Move.takes + (parse rule cursor).cursor.remaining = cursor.remaining) ∧
      (∀ category cursor, (parse (Category.rule category) cursor).Below cursor.remaining) ∧
        (∀ cursor,
          (∀ value next, parseGroup? cursor = .done (some value) next →
            next.remaining < cursor.remaining) ∧
          ∀ next, parseGroup? cursor = .done none next → next = cursor) ∧
          ∀ chain left cursor, cursor.lookahead.isAmong (Chain.operators chain) = false →
            parse (chain.tail left) cursor = .done left cursor := by
  refine ⟨?_, category_falls, parse_group_moves, ?_⟩
  · intro rule cursor
    obtain ⟨moves, unfolds⟩ := rule.exists_unfolds cursor
    exact ⟨moves, unfolds.only, pays_compositional.of_rule unfolds⟩
  · intro chain left cursor other
    rw [Chain.parse_tail, if_neg (Bool.eq_false_iff.mp other)]

/-- All seven tokens are taken, the closing parenthesis too. -/
example : ∃ outcome moves, (Script.evaluation "1 + (2 * 3)").Unfolds outcome moves ∧
    moves.countP Move.takes = 7 :=
  ⟨_, _, Script.evaluation_unfolds _, by decide +kernel⟩

end Calculator
