import Calculator.Proofs.Scan
import Calculator.Proofs.ViablePrefix

/-!
# Reading with a cursor

The pushdown machine reads what a cursor takes. `Advances` is one token taken with all that is checked
behind it, `Walk` any number of them, and `Halts` says for which cause, with which fault, a walk does
not go on. Of these causes the fault of a refused token depends on the reading alone, through `refusal`.

A walk from the beginning of a source has the tokens of the lexemes behind the cursor: `Walk.scanned`.
-/

set_option autoImplicit false

namespace Calculator

def Fault.isSyntactic : Fault → Bool
  | .unclosedParenthesis => true
  | .numberExpected => true
  | .secondParameterExpected => true
  | .parenthesizedEquationExpected => true
  | .unexpectedToken _ => true
  | _ => false

namespace Context

/-- The fault where an expression has ended and nothing that could follow it does. -/
def refusal (context : Context .expression) (text : String) : Fault :=
  match context with
  | start => .unexpectedToken text
  | firstArgument _ _ _ => .secondParameterExpected
  | _ => .unclosedParenthesis

def refusalOfTerm (context : Context .term) (text : String) : Fault :=
  match context with
  | firstTerm outer => outer.refusal text
  | addend _ _ _ outer => outer.refusal text

end Context

/-- The fault of a token, written as `text`, with which the reading does not go on. -/
def Reading.refusal (state : Reading) (text : String) : Fault :=
  match state with
  | operand _ => .numberExpected
  | afterSign _ _ _ => .numberExpected
  | unaryName _ _ _ => .parenthesizedEquationExpected
  | binaryName _ _ _ => .parenthesizedEquationExpected
  | ended context _ => context.refusalOfTerm text

theorem Reading.refusal_is_syntactic (state : Reading) (text : String) :
    (state.refusal text).isSyntactic = true := by
  cases state with
  | ended context term =>
      cases context with
      | firstTerm outer => cases outer <;> rfl
      | addend left operator additive outer => cases outer <;> rfl
  | _ => rfl

def Reading.Complete (state : Reading) : Prop :=
  ∃ tree, state = Context.start.settle tree

theorem Reading.ended_of_complete {state : Reading} (complete : state.Complete) :
    ∃ context term, state = .ended context term := by
  obtain ⟨tree, rfl⟩ := complete
  cases tree with
  | ofTerm term => exact ⟨_, _, rfl⟩
  | sum left operator additive right => exact ⟨_, _, rfl⟩

theorem Reading.complete_of_sentence {state : Reading} {tokens : List Token}
    (reads : start.read tokens = some state) (sentence : IsSentence tokens) : state.Complete := by
  obtain ⟨tree, whole⟩ := sentence_iff_read.mp sentence
  rw [reads] at whole
  exact ⟨tree, Option.some.inj whole⟩

/-- One token is taken and read, no group is too deep, and what it completes has a value. -/
structure Advances (state : Reading) (cursor : Cursor) (next : Reading) (after : Cursor) : Prop where
  read : state.step cursor.lookahead = some next
  took : cursor.take = .done cursor.lookahead after
  shallow : cursor.lookahead = .symbol .openParen → after.openGroups ≤ nestingLimit
  defined : next.Defined

inductive Walk : Reading → Cursor → List Token → Reading → Cursor → Prop where
  | stay (state : Reading) (cursor : Cursor) : Walk state cursor [] state cursor
  | go {state between last : Reading} {cursor after stop : Cursor} {rest : List Token}
      (first : Advances state cursor between after) (more : Walk between after rest last stop) :
      Walk state cursor (cursor.lookahead :: rest) last stop

/-- Why a walk does not go on. What is reported of a refused token leaves the cursor in its place. -/
inductive Halts (state : Reading) (cursor : Cursor) : Fault → Cursor → Prop where
  | refused {stopped : Cursor} (blocked : state.step cursor.lookahead = none)
      (unfinished : cursor.lookahead = .finish → ¬state.Complete)
      (place : { stopped with log := cursor.log } = cursor) :
      Halts state cursor (state.refusal cursor.text) stopped
  | unknown {next : Reading} {fault : Fault} {stopped : Cursor}
      (read : state.step cursor.lookahead = some next)
      (stuck : cursor.take = .failed fault stopped) : Halts state cursor fault stopped
  | tooDeep {next : Reading} {stopped : Cursor} (read : state.step cursor.lookahead = some next)
      (took : cursor.take = .done cursor.lookahead stopped)
      (opened : cursor.lookahead = .symbol .openParen) (deep : nestingLimit < stopped.openGroups) :
      Halts state cursor (.nestingTooDeep nestingLimit) stopped
  | undefined {next : Reading} {stopped : Cursor} (read : state.step cursor.lookahead = some next)
      (took : cursor.take = .done cursor.lookahead stopped) (undefined : ¬next.Defined) :
      Halts state cursor .integerExpected stopped

namespace Walk

variable {state between last : Reading} {cursor middle stop : Cursor} {front behind : List Token}

theorem trans (first : Walk state cursor front between middle)
    (second : Walk between middle behind last stop) :
    Walk state cursor (front ++ behind) last stop := by
  induction first with
  | stay state cursor => exact second
  | go step more ih => exact .go step (ih second)

theorem single {next : Reading} {after : Cursor} (step : Advances state cursor next after) :
    Walk state cursor [cursor.lookahead] next after :=
  .go step (.stay next after)

theorem read (walk : Walk state cursor front last stop) : state.read front = some last := by
  induction walk with
  | stay state cursor => rfl
  | go step more ih =>
      rw [Reading.read, step.read]
      exact ih

theorem defined (walk : Walk state cursor front last stop) (defined : state.Defined) :
    last.Defined := by
  induction walk with
  | stay state cursor => exact defined
  | go step more ih => exact ih step.defined

/-- The invariant of a walk over the lexemes ahead: the walk has put their first ones behind the cursor,
token by token, and no group among them was too deep. -/
theorem scanned {ahead : List Lexeme} (walk : Walk state cursor front last stop)
    (shows : cursor.Shows ahead) (shallow : cursor.openGroups ≤ nestingLimit) :
    ∃ gone rest, ahead = gone ++ rest ∧ gone.map Token.ofLexeme? = front.map some ∧
      stop.Shows rest ∧
        stop.openGroups = front.foldl (fun count token => token.groupsAfter count) cursor.openGroups ∧
          ∀ count ∈ groupCounts cursor.openGroups front, count ≤ nestingLimit := by
  induction walk generalizing ahead with
  | stay state cursor => exact ⟨[], ahead, rfl, rfl, shows, rfl, by simp [groupCounts]⟩
  | @go state between last cursor after stop rest step more ih =>
      obtain ⟨lexeme, pending, rfl, known, _, showsAfter, groups⟩ := Cursor.take_done shows step.took
      have afterShallow : after.openGroups ≤ nestingLimit := by
        by_cases opened : cursor.lookahead = .symbol .openParen
        · exact step.shallow opened
        · rw [groups]
          exact Nat.le_trans (Token.groups_after_le opened cursor.openGroups) shallow
      obtain ⟨gone, left, rfl, accepted, showsStop, total, counts⟩ := ih showsAfter afterShallow
      refine ⟨lexeme :: gone, left, rfl, ?_, showsStop, ?_, ?_⟩
      · rw [List.map_cons, List.map_cons, known, accepted]
      · rw [total, groups]
        rfl
      · intro count member
        rw [group_counts_cons, ← groups] at member
        rcases List.mem_cons.mp member with rfl | later
        · exact afterShallow
        · exact counts count later

end Walk

end Calculator
