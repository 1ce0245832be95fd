import Calculator.Proofs.Trace

/-!
# How deep the rules go

The count of open groups is a bound on the rules that are active. A rule that ends well leaves the count as it
found it, and one that fails leaves it no lower, since a parenthesis is closed only behind the one that opened
its group. Inside a group there is one group more than around it, and the limit is looked at before anything
inside is read. So the groups that a rule is inside of at a time are no more than the limit leaves room for,
and so are the expressions, each inside a group of its own but the first.
-/

set_option autoImplicit false

namespace Calculator

/-- At no moment of the record has the scope been entered more than `bound` times without having been left. -/
def NeverDeeper (scope : Scope) (bound : Nat) (moves : List Move) : Prop :=
  ∀ front, front <+: moves → front.count (.enter scope) ≤ front.count (.leave scope) + bound

def Closed (moves : List Move) : Prop :=
  ∀ scope, moves.count (.enter scope) = moves.count (.leave scope)

section Records

variable {scope other : Scope} {bound : Nat} {first second moves : List Move}

theorem count_enter_enclosed : (enclosed other moves).count (.enter scope) =
    moves.count (.enter scope) + if other = scope then 1 else 0 := by
  simp [enclosed, List.count_cons]

theorem count_leave_enclosed : (enclosed other moves).count (.leave scope) =
    moves.count (.leave scope) + if other = scope then 1 else 0 := by
  simp [enclosed, List.count_cons]

theorem Closed.enclosed (closed : Closed moves) : Closed (enclosed other moves) := by
  intro scope
  rw [count_enter_enclosed, count_leave_enclosed, closed scope]

theorem Closed.append (left : Closed first) (right : Closed second) : Closed (first ++ second) := by
  intro scope
  rw [List.count_append, List.count_append, left scope, right scope]

theorem closed_call {call : Call} : Closed [.call call] :=
  fun _ => rfl

/-- Whatever a script enters it leaves, however it ends. -/
theorem Script.Unfolds.closed {α : Type} {script : Script α} {outcome : Outcome α}
    (unfolds : script.Unfolds outcome moves) : Closed moves := by
  induction unfolds with
  | done answer cursor => exact fun _ => rfl
  | failed fault cursor => exact fun _ => rfl
  | call rest ih => exact closed_call.append ih
  | ask asked rest asked_ih rest_ih => exact asked_ih.enclosed.append rest_ih
  | within inside rest inside_ih rest_ih => exact inside_ih.enclosed.append rest_ih

namespace NeverDeeper

theorem nil : NeverDeeper scope bound [] := by
  intro front within
  rw [List.prefix_nil.mp within]
  exact Nat.zero_le _

theorem call {call : Call} : NeverDeeper scope bound [.call call] := by
  intro front within
  have none : front.count (.enter scope) ≤ [Move.call call].count (.enter scope) :=
    within.sublist.count_le _
  exact Nat.le_trans none (Nat.zero_le _)

theorem append (closed : Closed first) (left : NeverDeeper scope bound first)
    (right : NeverDeeper scope bound second) : NeverDeeper scope bound (first ++ second) := by
  intro front within
  rcases List.prefix_or_prefix_of_prefix within (List.prefix_append first second) with early | late
  · exact left front early
  · obtain ⟨more, rfl⟩ := late
    have later := right more ((List.prefix_append_right_inj first).mp within)
    rw [List.count_append, List.count_append, closed scope]
    omega

theorem enclosed {inner : Nat} (closed : Closed moves) (inside : NeverDeeper scope inner moves)
    (room : inner + (if other = scope then 1 else 0) ≤ bound) :
    NeverDeeper scope bound (enclosed other moves) := by
  intro front within
  rcases List.prefix_concat_iff.mp within with whole | begun
  · rw [whole, ← Calculator.enclosed, closed.enclosed scope]
    exact Nat.le_add_right _ _
  · rcases List.prefix_cons_iff.mp begun with rfl | ⟨more, rfl, later⟩
    · exact Nat.zero_le _
    · have deep := inside more later
      have entered : (Move.enter other :: more).count (.enter scope) =
          more.count (.enter scope) + if other = scope then 1 else 0 := by
        simp [List.count_cons]
      have left : (Move.enter other :: more).count (.leave scope) = more.count (.leave scope) := by
        simp
      rw [entered, left]
      omega

end NeverDeeper

end Records

/-! ## What a step does to the count -/

namespace Outcome

variable {α β : Type}

/-- A good end leaves this many groups open, and a fault no fewer. -/
def Balances (outcome : Outcome α) (openGroups : Nat) : Prop :=
  match outcome with
  | done _ stop => stop.openGroups = openGroups
  | failed _ stopped => openGroups ≤ stopped.openGroups

theorem Balances.map {outcome : Outcome α} {openGroups : Nat} (balances : outcome.Balances openGroups)
    (change : α → β) : (outcome.map change).Balances openGroups := by
  cases outcome with
  | done answer stop => exact balances
  | failed fault stopped => exact balances

end Outcome

namespace Cursor

variable {cursor : Cursor}

theorem advance_groups (cursor : Cursor) : cursor.advance.cursor.openGroups = cursor.openGroups := by
  unfold advance
  split
  · rfl
  · split <;> rfl

theorem take_number_groups (waiting : cursor.lookahead.isNumber = true) :
    cursor.takeNumber.cursor.openGroups = cursor.openGroups := by
  obtain ⟨value, ahead⟩ := Token.is_number_iff.mp waiting
  simp only [takeNumber, ahead, Outcome.cursor_map, advance_groups]

/-- The operator is counted also when the scan behind it fails. -/
theorem take_operator_groups {operator : Operator} (ahead : cursor.lookahead = .symbol operator) :
    cursor.takeOperator.cursor.openGroups = operator.groupsAfter cursor.openGroups := by
  simp only [takeOperator, ahead, Outcome.cursor_map, advance_groups]
  rfl

end Cursor

/-! ## What a script does to the count -/

namespace Script

/-- The script ends with `ends` groups open, and asks for rules with `asks` open. It asks for an expression
only where there are more open than at its end, and no more than the limit allows. -/
def Keeps : {α : Type} → Script α → Nat → Nat → Prop
  | _, done _ cursor, ends, _ => cursor.openGroups = ends
  | _, failed _ cursor, ends, _ => ends ≤ cursor.openGroups
  | _, call action cursor more, ends, asks =>
      ends ≤ (action.run cursor).cursor.openGroups ∧
        ∀ answer next, action.run cursor = .done answer next → (more answer next).Keeps ends asks
  | _, ask rule cursor more, ends, asks =>
      cursor.openGroups = asks ∧ (rule = .expression → ends < asks ∧ asks ≤ nestingLimit) ∧
        ∀ value next, next.openGroups = asks → (more value next).Keeps ends asks
  | _, within body more, ends, asks =>
      asks < nestingLimit ∧ body.Keeps asks (asks + 1) ∧
        ∀ answer next, next.openGroups = asks → (more answer next).Keeps ends asks

variable {α β : Type} {ends asks : Nat} {cursor : Cursor} {candidates : List Operator}

theorem keeps_behind {outcome : Outcome β} {more : β → Cursor → Script α}
    (ordered : ends ≤ outcome.cursor.openGroups)
    (rest : ∀ answer next, outcome = .done answer next → (more answer next).Keeps ends asks) :
    (behind outcome more).Keeps ends asks := by
  cases outcome with
  | done answer next => exact rest answer next rfl
  | failed fault stopped => exact ordered

theorem keeps_behind_balanced {outcome : Outcome β} {more : β → Cursor → Script α}
    (balances : outcome.Balances asks) (ordered : ends ≤ asks)
    (rest : ∀ answer next, next.openGroups = asks → (more answer next).Keeps ends asks) :
    (behind outcome more).Keeps ends asks := by
  cases outcome with
  | done answer next => exact rest answer next balances
  | failed fault stopped => exact Nat.le_trans ordered balances

theorem keeps_call {action : Action} {more : action.Answer → Cursor → Script α} {openGroups : Nat}
    (counted : (action.run cursor).cursor.openGroups = openGroups) (ordered : ends ≤ openGroups)
    (rest : ∀ answer next, next.openGroups = openGroups → (more answer next).Keeps ends asks) :
    (call action cursor more).Keeps ends asks := by
  refine ⟨counted.symm ▸ ordered, ?_⟩
  intro answer next ran
  rw [ran] at counted
  exact rest answer next counted

theorem keeps_of_except {action : Action} {more : action.Answer → Cursor → Script α}
    (result : Except Fault action.Answer) (computes : action.run cursor = .ofExcept cursor result)
    (here : cursor.openGroups = asks) (ordered : ends ≤ asks)
    (rest : ∀ answer next, next.openGroups = asks → (more answer next).Keeps ends asks) :
    (call action cursor more).Keeps ends asks := by
  refine keeps_call ?_ ordered rest
  rw [computes, Outcome.cursor_of_except, here]

theorem keeps_combine {operator : Operator} {left right : Binary64}
    {more : Binary64 → Cursor → Script α} (here : cursor.openGroups = asks) (ordered : ends ≤ asks)
    (rest : ∀ answer next, next.openGroups = asks → (more answer next).Keeps ends asks) :
    (call (.combine operator left right) cursor more).Keeps ends asks :=
  keeps_of_except (operator.combine left right) rfl here ordered rest

theorem keeps_take {more : Operator → Cursor → Script α}
    (plain : ∀ operator ∈ candidates, ∀ openGroups, operator.groupsAfter openGroups = openGroups)
    (waiting : cursor.lookahead.isAmong candidates = true) (ordered : ends ≤ cursor.openGroups)
    (rest : ∀ operator next, next.openGroups = cursor.openGroups →
      (more operator next).Keeps ends asks) :
    (call .takeOperator cursor more).Keeps ends asks := by
  obtain ⟨operator, listed, ahead⟩ := Token.is_among_iff.mp waiting
  have counted := Cursor.take_operator_groups ahead
  rw [plain operator listed] at counted
  exact keeps_call counted ordered rest

theorem keeps_expect {operator : Operator} {fault : Fault} {more : Cursor → Script α}
    (refused : ends ≤ cursor.openGroups) (ordered : ends ≤ operator.groupsAfter cursor.openGroups)
    (rest : ∀ next, next.openGroups = operator.groupsAfter cursor.openGroups →
      (more next).Keeps ends asks) :
    (expect operator fault cursor more).Keeps ends asks := by
  unfold expect
  split
  · next waiting =>
      have ahead := Token.is_among_singleton.mp waiting
      exact keeps_call (Cursor.take_operator_groups ahead) ordered fun _ => rest
  · exact refused

theorem keeps_next_parameter {more : Cursor → Script α} (here : cursor.openGroups = asks)
    (ordered : ends ≤ asks)
    (rest : ∀ next, next.openGroups = asks → (more next).Keeps ends asks) :
    (nextParameter cursor more).Keeps ends asks := by
  subst here
  exact keeps_expect ordered ordered rest

theorem keeps_close_group (answer : α) (inside : cursor.openGroups = ends + 1) :
    (closeGroup cursor answer).Keeps ends asks := by
  have closes : Operator.closeParen.groupsAfter cursor.openGroups = ends := by
    rw [inside]
    rfl
  apply keeps_expect (by omega) (Nat.le_of_eq closes.symm)
  intro next counted
  exact counted.trans closes

/-- A rule that is no expression may be asked for wherever one is. -/
theorem keeps_ask {rule : Rule} {more : Binary64 → Cursor → Script α}
    (other : rule ≠ .expression) (here : cursor.openGroups = asks)
    (rest : ∀ value next, next.openGroups = asks → (more value next).Keeps ends asks) :
    (ask rule cursor more).Keeps ends asks :=
  ⟨here, fun same => absurd same other, rest⟩

/-- A group in parentheses: an expression is asked for inside, and what is left to do there ends behind the
closing parenthesis. -/
theorem keeps_group {first : Binary64 → Cursor → Script β} {more : β → Cursor → Script α}
    (here : cursor.openGroups = ends)
    (inside : ends < nestingLimit → ∀ value next, next.openGroups = ends + 1 →
      (first value next).Keeps ends (ends + 1))
    (after : ∀ answer next, next.openGroups = ends → (more answer next).Keeps ends ends) :
    (openGroup cursor fun next => within (ask .expression next first) more).Keeps ends ends := by
  have opens : Operator.openParen.groupsAfter cursor.openGroups = ends + 1 := by
    rw [here]
    rfl
  apply keeps_expect (Nat.le_of_eq here.symm) (by omega)
  intro next counted
  have deeper := counted.trans opens
  split
  · exact Nat.le_of_succ_le (Nat.le_of_eq deeper.symm)
  · next shallow =>
      have room : ends < nestingLimit := by omega
      exact ⟨room, ⟨deeper, fun _ => ⟨Nat.lt_succ_self ends, room⟩, inside room⟩, after⟩

theorem tail_keeps (chain : Chain) (left : Binary64) (cursor : Cursor) :
    (tail chain left cursor).Keeps cursor.openGroups cursor.openGroups := by
  unfold tail
  split
  · next waiting =>
      have plain : ∀ operator ∈ chain.operators, ∀ openGroups,
          operator.groupsAfter openGroups = openGroups :=
        fun operator listed => operator.groups_after_of_mem (Chain.listed_known listed)
      apply keeps_take plain waiting (Nat.le_refl _)
      intro operator next here
      apply keeps_ask (by cases chain <;> nofun) here
      intro right after same
      apply keeps_combine same (Nat.le_refl _)
      intro value behind stays
      apply keeps_ask (by cases chain <;> nofun) stays
      exact fun _ _ ended => ended
  · rfl

theorem group_keeps (cursor : Cursor) :
    (group cursor).Keeps cursor.openGroups cursor.openGroups := by
  have plain : ∀ function ∈ Operator.unaryFunctions ++ Operator.binaryFunctions, ∀ openGroups,
      function.groupsAfter openGroups = openGroups :=
    fun function known => function.groups_after_of_function known
  unfold group
  split
  · apply keeps_group rfl
    · intro room value next same
      exact keeps_close_group value same
    · exact fun _ _ same => same
  split
  · next waiting =>
      apply keeps_take (fun function listed => plain function (List.mem_append_left _ listed)) waiting
        (Nat.le_refl _)
      intro function next here
      apply keeps_group here
      · intro room argument next same
        exact keeps_close_group argument same
      · intro argument after same
        exact keeps_of_except (function.applyUnary argument) rfl same (Nat.le_refl _) fun _ _ ended =>
          ended
  split
  · next waiting =>
      apply keeps_take (fun function listed => plain function (List.mem_append_right _ listed)) waiting
        (Nat.le_refl _)
      intro function next here
      apply keeps_group here
      · intro room first next same
        apply keeps_next_parameter same (Nat.le_succ _)
        intro between still
        refine ⟨still, fun _ => ⟨Nat.lt_succ_self _, room⟩, ?_⟩
        intro second last same
        exact keeps_close_group (first, second) same
      · intro arguments after same
        exact keeps_of_except (function.applyBinary arguments.1 arguments.2) rfl same (Nat.le_refl _)
          fun _ _ ended => ended
  · exact Nat.le_refl cursor.openGroups

end Script

theorem Rule.script_keeps (rule : Rule) (cursor : Cursor) :
    (rule.script cursor).Keeps cursor.openGroups cursor.openGroups := by
  cases rule with
  | expression =>
      apply Script.keeps_ask (by simp) rfl
      intro value next same
      exact Script.keeps_ask (by simp) same fun _ _ ended => ended
  | expressionTail left => exact Script.tail_keeps .sum left cursor
  | term =>
      apply Script.keeps_ask (by simp) rfl
      intro value next same
      exact Script.keeps_ask (by simp) same fun _ _ ended => ended
  | termTail left => exact Script.tail_keeps .product left cursor
  | unary =>
      rw [script]
      split
      · next waiting =>
          have plain : ∀ sign ∈ Operator.additive, ∀ openGroups,
              sign.groupsAfter openGroups = openGroups :=
            fun sign listed => sign.groups_after_of_mem (by simp [listed])
          apply Script.keeps_take plain waiting (Nat.le_refl _)
          intro sign next here
          apply Script.keeps_ask (by simp) here
          intro value after same
          exact Script.keeps_combine same (Nat.le_refl _) fun _ _ ended => ended
      · exact Script.keeps_ask (by simp) rfl fun _ _ ended => ended
  | factor =>
      rw [script]
      split
      · next waiting =>
          exact Script.keeps_call (Cursor.take_number_groups waiting) (Nat.le_refl _) fun _ _ ended =>
            ended
      · exact Script.keeps_ask (by simp) rfl fun _ _ ended => ended
  | group => exact Script.group_keeps cursor

structure Contained {α : Type} (ends asks : Nat) (outcome : Outcome α) (moves : List Move) :
    Prop where
  balances : outcome.Balances ends
  bodies : NeverDeeper .body (nestingLimit - asks) moves
  expressions : NeverDeeper (.rule .expression) (nestingLimit - ends) moves

theorem Contained.append {α : Type} {ends asks : Nat} {outcome : Outcome α} {front moves : List Move}
    (closed : Closed front) (bodies : NeverDeeper .body (nestingLimit - asks) front)
    (expressions : NeverDeeper (.rule .expression) (nestingLimit - ends) front)
    (rest : Contained ends asks outcome moves) : Contained ends asks outcome (front ++ moves) where
  balances := rest.balances
  bodies := .append closed bodies rest.bodies
  expressions := .append closed expressions rest.expressions

/-- The induction is over the record. A rule that is asked for ends as it began, with as many groups open as
the script asks with, so its own record has the room that the script has left. -/
theorem Script.Unfolds.contained {α : Type} {script : Script α} {outcome : Outcome α} {moves : List Move}
    {ends asks : Nat} (unfolds : script.Unfolds outcome moves) (keeps : script.Keeps ends asks)
    (ordered : ends ≤ asks) : Contained ends asks outcome moves := by
  induction unfolds generalizing ends asks with
  | done answer cursor => exact ⟨keeps, .nil, .nil⟩
  | failed fault cursor => exact ⟨keeps, .nil, .nil⟩
  | call rest ih =>
      obtain ⟨noFewer, goes⟩ := keeps
      exact .append closed_call .call .call (ih (keeps_behind noFewer goes) ordered)
  | @ask _ rule cursor more result outcome moves others asked rest asked_ih rest_ih =>
      obtain ⟨here, nested, goes⟩ := keeps
      have inner := asked_ih (here ▸ rule.script_keeps cursor) (Nat.le_refl asks)
      have outer := rest_ih (keeps_behind_balanced inner.balances ordered goes) ordered
      refine Contained.append asked.closed.enclosed ?_ ?_ outer
      · exact .enclosed asked.closed inner.bodies (by simp)
      · apply NeverDeeper.enclosed asked.closed inner.expressions
        split
        · next same =>
            -- The group around it, open here and closed at the end, makes room for one expression more.
            obtain ⟨deeper, shallow⟩ := nested (Scope.rule.inj same)
            omega
        · omega
  | @within _ _ body more result outcome moves others inside rest inside_ih rest_ih =>
      obtain ⟨room, kept, goes⟩ := keeps
      have inner := inside_ih kept (Nat.le_succ asks)
      have outer := rest_ih (keeps_behind_balanced inner.balances ordered goes) ordered
      refine Contained.append inside.closed.enclosed ?_ ?_ outer
      · apply NeverDeeper.enclosed inside.closed inner.bodies
        rw [if_pos rfl]
        omega
      · apply NeverDeeper.enclosed inside.closed inner.expressions
        rw [if_neg nofun]
        omega

theorem Rule.contained {rule : Rule} {cursor : Cursor} {outcome : Outcome Binary64}
    {moves : List Move} (unfolds : (rule.script cursor).Unfolds outcome moves) :
    Contained cursor.openGroups cursor.openGroups outcome moves :=
  unfolds.contained (rule.script_keeps cursor) (Nat.le_refl _)

namespace Script

theorem Unfolds.nothing_behind {α : Type} {ended outcome : Outcome α} {moves : List Move}
    (unfolds : (behind ended Script.done).Unfolds outcome moves) : moves = [] := by
  cases ended with
  | done answer cursor =>
      cases unfolds
      rfl
  | failed fault cursor =>
      cases unfolds
      rfl

/-- An evaluation asks for one expression, and for no rule behind it. -/
theorem evaluation_contained {expression : String} {outcome : Outcome Binary64} {moves : List Move}
    (unfolds : (evaluation expression).Unfolds outcome moves) :
    NeverDeeper (.rule .expression) (nestingLimit + 1) moves := by
  unfold evaluation at unfolds
  cases opened : Cursor.openSource (Text.stripWhitespace expression) with
  | failed fault stopped =>
      rw [opened] at unfolds
      cases unfolds
      exact .nil
  | done _ first =>
      rw [opened] at unfolds
      cases unfolds with
      | @ask _ _ _ _ result _ moves others asked rest =>
          have nothing : others = [] := by
            cases result with
            | done value next => exact rest.nothing_behind
            | failed fault stopped =>
                cases rest
                rfl
          have inner := (Rule.contained asked).expressions
          rw [nothing, List.append_nil]
          apply NeverDeeper.enclosed asked.closed inner
          rw [if_pos rfl]
          exact Nat.add_le_add_right (Nat.sub_le _ _) 1

end Script

/-- From whatever cursor a rule is read, a value leaves as many groups open as there were and a fault no
fewer, and at no moment on the way is it inside more groups than the limit leaves room for. So an evaluation
never has more expressions under way than the limit and one. -/
theorem parsing_balances_groups :
    (∀ rule cursor, ∃ moves, (rule.script cursor).UnfoldsOnly (parse rule cursor) moves ∧
        (parse rule cursor).Balances cursor.openGroups ∧
        NeverDeeper .body (nestingLimit - cursor.openGroups) moves) ∧
      (∀ cursor, (parseGroup? cursor).Balances cursor.openGroups) ∧
      ∀ expression, ∃ outcome moves, (Script.evaluation expression).UnfoldsOnly outcome moves ∧
        outcome.toExcept = evaluate expression ∧
        NeverDeeper (.rule .expression) (nestingLimit + 1) moves := by
  refine ⟨?_, ?_, ?_⟩
  · intro rule cursor
    obtain ⟨moves, unfolds⟩ := rule.exists_unfolds cursor
    have contained := Rule.contained unfolds
    exact ⟨moves, unfolds.only, contained.balances, contained.bodies⟩
  · intro cursor
    unfold parseGroup?
    split
    · obtain ⟨moves, unfolds⟩ := Rule.group.exists_unfolds cursor
      exact (Rule.contained unfolds).balances.map some
    · rfl
  · intro expression
    obtain ⟨moves, unfolds⟩ := Script.exists_unfolds_evaluation expression
    exact ⟨_, moves, unfolds.only, (evaluate_eq expression).symm, Script.evaluation_contained unfolds⟩

/-- The bounds are reached: in the last of as many groups as there may be one expression more is under way. -/
example : ∃ outcome moves front,
    (Script.evaluation (String.ofList (List.replicate nestingLimit '('))).Unfolds outcome moves ∧
      front <+: moves ∧ front.count (.enter .body) = front.count (.leave .body) + nestingLimit ∧
        front.count (.enter (.rule .expression)) =
          front.count (.leave (.rule .expression)) + (nestingLimit + 1) :=
  -- It fails in the last group, so until that is left nothing is.
  ⟨_, _, _, Script.evaluation_unfolds _, List.takeWhile_prefix (· != .leave (.rule .group)),
    by decide +kernel⟩

end Calculator
