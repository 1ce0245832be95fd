import Calculator.Proofs.Trace

/-!
# The course of a computation

Whatever rule of the grammar is read, the cursor does one thing over and over: it takes the token in view.
The reading ends behind a taken token, or at a run without a token, or with a fault of the rule, which
leaves the cursor in its place. `parse_keeps_course` says so of every rule and from every cursor; what the
tokens mean and how they stand together does not enter. So what one taken token does to a cursor tells
what a whole reading does to it.
-/

set_option autoImplicit false

namespace Calculator

inductive Course : Cursor → Option Fault → Cursor → Prop where
  | rest (cursor : Cursor) : Course cursor none cursor
  | refuse {fault : Fault} (cursor : Cursor) (own : fault.isOfRule = true) :
      Course cursor (some fault) cursor
  | stuck {cursor stopped : Cursor} {fault : Fault} (waiting : cursor.lookahead ≠ .finish)
      (failed : cursor.take = .failed fault stopped) : Course cursor (some fault) stopped
  | take {cursor next last : Cursor} {fault? : Option Fault}
      (took : cursor.take = .done cursor.lookahead next) (more : Course next fault? last) :
      Course cursor fault? last

theorem Course.trans {cursor middle last : Cursor} {fault? : Option Fault}
    (first : Course cursor none middle) (second : Course middle fault? last) :
    Course cursor fault? last := by
  generalize done : (none : Option Fault) = outcome at first
  induction first with
  | rest cursor => exact second
  | refuse cursor own => cases done
  | stuck waiting failed => cases done
  | take took more ih => exact .take took (ih second done)

theorem Course.expected {cursor stopped : Cursor} {fault? : Option Fault}
    (course : Course cursor fault? stopped) (text : String) : fault? ≠ some (.unexpectedToken text) := by
  induction course with
  | rest cursor => exact nofun
  | refuse cursor own =>
      intro same
      rw [Option.some.inj same] at own
      cases own
  | stuck waiting failed =>
      rw [Cursor.take_eq_advance waiting] at failed
      obtain ⟨lexeme, rest, _, _, unknown⟩ := Cursor.advance_failed (Outcome.map_failed failed)
      intro same
      rw [Option.some.inj same] at unknown
      cases unknown
  | take took more ih => exact ih

namespace Outcome

variable {α : Type}

def KeepsCourse (outcome : Outcome α) (cursor : Cursor) : Prop :=
  Course cursor outcome.fault? outcome.cursor

namespace KeepsCourse

variable {cursor : Cursor} {outcome : Outcome α}

theorem of_except {result : Except Fault α}
    (own : ∀ fault, result = .error fault → fault.isOfRule = true) :
    (ofExcept cursor result).KeepsCourse cursor := by
  cases result with
  | ok answer => exact .rest cursor
  | error fault => exact .refuse cursor (own fault rfl)

theorem of_taken (took : cursor.take = .done cursor.lookahead outcome.cursor)
    (done : outcome.fault? = none) : outcome.KeepsCourse cursor := by
  rw [KeepsCourse, done]
  exact .take took (.rest _)

end KeepsCourse

end Outcome

namespace Cursor

variable {cursor : Cursor}

theorem take_operator_course {operator : Operator} (ahead : cursor.lookahead = .symbol operator) :
    cursor.takeOperator.KeepsCourse cursor := by
  have unfinished : cursor.lookahead ≠ .finish := by simp [ahead]
  rcases take_operator_cases ahead with ⟨stop, answered, took⟩ | ⟨fault, stopped, failed, stuck⟩
  · rw [answered]
    exact .of_taken took rfl
  · rw [failed]
    exact .stuck unfinished stuck

theorem take_number_course (waiting : cursor.lookahead.isNumber = true) :
    cursor.takeNumber.KeepsCourse cursor := by
  obtain ⟨value, ahead⟩ := Token.is_number_iff.mp waiting
  have unfinished : cursor.lookahead ≠ .finish := by simp [ahead]
  rcases take_number_cases ahead with ⟨stop, answered, took⟩ | ⟨fault, stopped, failed, stuck⟩
  · rw [answered]
    exact .of_taken took rfl
  · rw [failed]
    exact .stuck unfinished stuck

end Cursor

theorem Call.keeps_course {call : Call} (fits : call.Fits) :
    (call.action.run call.cursor).KeepsCourse call.cursor := by
  obtain ⟨action, cursor⟩ := call
  cases action with
  | takeNumber => exact Cursor.take_number_course fits
  | takeOperator =>
      obtain ⟨operator, ahead⟩ := fits
      exact Cursor.take_operator_course ahead
  | combine operator left right =>
      have defined : ∃ value, operator.combine left right = .ok value := by
        rcases List.mem_append.mp fits with additive | multiplicative
        · exact Operator.combine_additive additive left right
        · exact Operator.combine_multiplicative multiplicative left right
      obtain ⟨value, defined⟩ := defined
      rw [Action.run, defined]
      exact .rest cursor
  | applyUnary function argument =>
      apply Outcome.KeepsCourse.of_except
      intro fault failed
      rw [Operator.apply_unary_fault fits failed]
      rfl
  | applyBinary function first second =>
      obtain ⟨value, defined⟩ := Operator.apply_binary_known fits first second
      rw [Action.run, defined]
      exact .rest cursor

theorem course_compositional : Compositional fun start fault? stop _ => Course start fault? stop where
  rests := .rest
  refuses := fun _ cursor own => .refuse cursor own
  calls := fun _ fits => Call.keeps_course fits
  scopes := fun _ _ _ _ _ course => course
  appends := fun _ _ _ _ _ _ first second => first.trans second

theorem parse_keeps_course (rule : Rule) (cursor : Cursor) :
    (parse rule cursor).KeepsCourse cursor := by
  obtain ⟨moves, unfolds⟩ := rule.exists_unfolds cursor
  exact course_compositional.of_rule unfolds

theorem parse_expected (rule : Rule) (cursor : Cursor) (text : String) (stopped : Cursor) :
    parse rule cursor ≠ .failed (.unexpectedToken text) stopped := by
  intro failed
  have course := parse_keeps_course rule cursor
  rw [failed] at course
  exact course.expected text rfl

end Calculator
