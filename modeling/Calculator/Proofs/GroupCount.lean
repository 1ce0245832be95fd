import Calculator.Proofs.Takings

/-!
# What the count of open groups counts

The count goes by the tokens that a session has tried to take, since a parenthesis is counted before the
lexeme behind it is scanned. Where that lexeme has no token the parenthesis stays ahead, and the next
attempt counts it once more. As long as no attempt fails at a parenthesis, the count is that of the
parentheses taken and not closed.
-/

set_option autoImplicit false

namespace Calculator

/-- The closing parentheses among the tokens that close none of the groups opened among them. -/
def unopened : List Token → Nat
  | [] => 0
  | .symbol .openParen :: rest => unopened rest - 1
  | .symbol .closeParen :: rest => unopened rest + 1
  | _ :: rest => unopened rest

/-- The opening parentheses among the tokens that none of the closing ones behind them closes. -/
def unclosed : List Token → Nat
  | [] => 0
  | .symbol .openParen :: rest => if unopened rest = 0 then unclosed rest + 1 else unclosed rest
  | _ :: rest => unclosed rest

/-- With groups open before, the closing parentheses that close none among the tokens close those. -/
theorem groups_behind_eq_unclosed (openGroups : Nat) (tokens : List Token) :
    groupsBehind openGroups tokens = openGroups - unopened tokens + unclosed tokens := by
  induction tokens generalizing openGroups with
  | nil => rfl
  | cons token rest ih =>
      rw [groups_behind_cons, ih]
      cases token with
      | number value => rfl
      | finish => rfl
      | symbol operator =>
          cases operator with
          | openParen =>
              simp only [Token.groupsAfter, Operator.groupsAfter, unopened, unclosed]
              split <;> omega
          | closeParen =>
              simp only [Token.groupsAfter, Operator.groupsAfter, unopened, unclosed]
              omega
          | _ => rfl

theorem Token.groups_after_of_not_among {token : Token}
    (other : token.isAmong [.openParen, .closeParen] = false) (openGroups : Nat) :
    token.groupsAfter openGroups = openGroups := by
  cases token with
  | number value => rfl
  | finish => rfl
  | symbol operator =>
      cases operator with
      | openParen => cases other
      | closeParen => cases other
      | _ => rfl

namespace Session

/-- The token that a taking has tried to take: the one answered, or the one that stays ahead because the
lexeme behind it has no token. -/
def attempted? : Outcome Answer → Option Token
  | .failed (.unknownOperator _) stopped => some stopped.lookahead
  | outcome => returned? outcome

/-- The taking has failed at a parenthesis, behind which stands a lexeme without a token. -/
def failedAtParen : Outcome Answer → Bool
  | .failed (.unknownOperator _) stopped => stopped.lookahead.isAmong [.openParen, .closeParen]
  | _ => false

variable {cursor : Cursor} {steps : List Step} {outcome : Outcome Answer}

theorem groups_of_perform {pick : Outcome Answer → Option Token} {fair : Outcome Answer → Prop}
    (counted : ∀ cursor outcome, Taking cursor outcome → fair outcome →
      outcome.cursor.openGroups = groupsBehind cursor.openGroups (pick outcome).toList)
    (intact : cursor.Intact) (takes : ∀ step ∈ steps, step.Takes)
    (all : ∀ outcome ∈ perform cursor steps, fair outcome) :
    (behind cursor steps).openGroups =
      groupsBehind cursor.openGroups ((perform cursor steps).filterMap pick) := by
  induction steps generalizing cursor with
  | nil => rfl
  | cons step steps ih =>
      have first := taking intact (takes step List.mem_cons_self)
      have head := counted cursor _ first (all _ List.mem_cons_self)
      rw [filter_map_perform, groups_behind_append, ← head, behind, List.foldl_cons]
      apply ih (first.intact intact)
      · exact fun other member => takes other (List.mem_cons_of_mem _ member)
      · exact fun other member => all other (List.mem_cons_of_mem _ member)

theorem Taking.attempted_counted (taking : Taking cursor outcome) :
    outcome.cursor.openGroups = groupsBehind cursor.openGroups (attempted? outcome).toList := by
  cases taking with
  | refused fault known =>
      have silent : attempted? (.failed fault cursor) = none := by
        cases fault with
        | unknownOperator text => exact absurd rfl (known text)
        | _ => rfl
      rw [silent]
      rfl
  | moved outcome moves =>
      cases moves with
      | taken next waiting intact split groups =>
          have answered : attempted? (.done (answerOf cursor.lookahead) next) =
              some cursor.lookahead :=
            returned_of_answer waiting
          rw [answered]
          exact groups
      | skipped text next rest intact split kept same groups =>
          rw [attempted?, same]
          exact groups

theorem Taking.returned_counted (taking : Taking cursor outcome) (fair : failedAtParen outcome = false) :
    outcome.cursor.openGroups = groupsBehind cursor.openGroups (returned? outcome).toList := by
  cases taking with
  | refused fault known => rfl
  | moved outcome moves =>
      cases moves with
      | taken next waiting intact split groups =>
          rw [returned_of_answer waiting]
          exact groups
      | skipped text next rest intact split kept same groups =>
          rw [failedAtParen, same] at fair
          exact groups.trans (Token.groups_after_of_not_among fair cursor.openGroups)

end Session

/-- The count of open groups is that of the parentheses that a session has tried to take and not closed. If
no taking has failed at a parenthesis, it is that of the parentheses taken and not closed. -/
theorem open_groups_count_attempts {source : String} {first : Cursor}
    (opened : Cursor.openSource source = .done () first) {steps : List Session.Step}
    (takes : ∀ step ∈ steps, step.Takes) :
    (Session.behind first steps).openGroups =
        unclosed ((Session.perform first steps).filterMap Session.attempted?) ∧
      ((∀ outcome ∈ Session.perform first steps, Session.failedAtParen outcome = false) →
        (Session.behind first steps).openGroups =
          unclosed ((Session.perform first steps).filterMap Session.returned?)) := by
  obtain ⟨intact, _⟩ := Cursor.stream_of_open opened
  have none : first.openGroups = 0 := (Cursor.advance_done opened).2
  have counted : ∀ tokens, groupsBehind first.openGroups tokens = unclosed tokens := by
    intro tokens
    rw [none, groups_behind_eq_unclosed, Nat.zero_sub, Nat.zero_add]
  constructor
  · rw [← counted]
    exact Session.groups_of_perform (fun _ _ taking (_ : True) => taking.attempted_counted) intact
      takes fun _ _ => trivial
  · intro fair
    rw [← counted]
    exact Session.groups_of_perform (fun _ _ taking fair => taking.returned_counted fair) intact
      takes fair

/-- An attempt that fails at a number, behind the parenthesis, does not upset the count. -/
theorem number_attempted_twice :
    ∃ first, Cursor.openSource "(1$)" = .done () first ∧
      (Session.behind first [.takeOperator, .takeNumber, .takeNumber]).openGroups =
        unclosed [.symbol .openParen, .number (Binary64.ofNat 1)] := by
  have opened : Cursor.openSource "(1$)" = .done () (Cursor.openSource "(1$)").cursor := by
    decide +kernel
  have takes : ∀ step ∈ [Session.Step.takeOperator, .takeNumber, .takeNumber], step.Takes := by
    simp [Session.Step.Takes]
  have fair : ∀ outcome ∈ Session.perform (Cursor.openSource "(1$)").cursor
      [.takeOperator, .takeNumber, .takeNumber], Session.failedAtParen outcome = false := by
    decide +kernel
  have returned : (Session.perform (Cursor.openSource "(1$)").cursor
      [.takeOperator, .takeNumber, .takeNumber]).filterMap Session.returned? =
        [.symbol .openParen, .number (Binary64.ofNat 1)] := by
    decide +kernel
  refine ⟨_, opened, ?_⟩
  rw [(open_groups_count_attempts opened takes).2 fair, returned]

/-- An attempt that fails at a parenthesis changes the count, and the next one counts the parenthesis
again. -/
theorem parenthesis_counted_twice :
    ∃ first, Cursor.openSource "($1" = .done () first ∧
      (Session.behind first [.takeOperator]).openGroups = 1 ∧
      unclosed ((Session.perform first [.takeOperator]).filterMap Session.returned?) = 0 ∧
      (Session.behind first [.takeOperator, .takeOperator]).openGroups = 2 ∧
      unclosed ((Session.perform first [.takeOperator, .takeOperator]).filterMap
        Session.returned?) = 1 := by
  refine ⟨(Cursor.openSource "($1").cursor, ?_⟩
  decide +kernel

end Calculator
