import Calculator.Proofs.Script

/-!
# What is done on the way

`parse` gives the outcome of a rule and shows nothing of the way there. The script of the rule shows it:
unfolded through the rules it asks for (`Script.Unfolds`), it leaves the record of the rules and groups entered
and left again, and of all that was called in between. Each rule has such a record at each cursor, and no
other, and the outcome beside it is that of `parse`. `Rule.trace` computes both. What holds of single calls
holds of whole records (`Compositional`).
-/

set_option autoImplicit false

namespace Calculator

/-- What is entered and left again: a rule that was asked for, or the inside of a group. -/
inductive Scope where
  | rule (rule : Rule)
  | body
  deriving DecidableEq

inductive Move where
  | enter (scope : Scope)
  | leave (scope : Scope)
  | call (made : Call)
  deriving DecidableEq

def Move.takes : Move → Bool
  | call made => made.action.takes
  | _ => false

def enclosed (scope : Scope) (moves : List Move) : List Move :=
  .enter scope :: moves ++ [.leave scope]

namespace Script

/-- The script is carried out to the end with this outcome and this record. A scope is left also when what
is inside has failed. -/
inductive Unfolds : {α : Type} → Script α → Outcome α → List Move → Prop where
  | done {α : Type} (answer : α) (cursor : Cursor) :
      Unfolds (done answer cursor) (.done answer cursor) []
  | failed {α : Type} (fault : Fault) (cursor : Cursor) :
      Unfolds (failed fault cursor : Script α) (.failed fault cursor) []
  | call {α : Type} {action : Action} {cursor : Cursor} {more : action.Answer → Cursor → Script α}
      {outcome : Outcome α} {others : List Move}
      (rest : Unfolds (behind (action.run cursor) more) outcome others) :
      Unfolds (call action cursor more) outcome ([.call ⟨action, cursor⟩] ++ others)
  | ask {α : Type} {rule : Rule} {cursor : Cursor} {more : Binary64 → Cursor → Script α}
      {result : Outcome Binary64} {outcome : Outcome α} {moves others : List Move}
      (asked : Unfolds (rule.script cursor) result moves)
      (rest : Unfolds (behind result more) outcome others) :
      Unfolds (ask rule cursor more) outcome (enclosed (.rule rule) moves ++ others)
  | within {α β : Type} {body : Script β} {more : β → Cursor → Script α} {result : Outcome β}
      {outcome : Outcome α} {moves others : List Move} (inside : Unfolds body result moves)
      (rest : Unfolds (behind result more) outcome others) :
      Unfolds (within body more) outcome (enclosed .body moves ++ others)

section

variable {α : Type} {script : Script α} {outcome second : Outcome α} {moves others : List Move}

theorem Unfolds.eq_run (unfolds : script.Unfolds outcome moves) : outcome = script.run := by
  induction unfolds with
  | done answer cursor => rfl
  | failed fault cursor => rfl
  | call rest ih => rw [ih, run_behind, run]
  | ask asked rest asked_ih rest_ih =>
      rw [rest_ih, run_behind, asked_ih, Rule.run_script, run]
  | within inside rest inside_ih rest_ih => rw [rest_ih, run_behind, inside_ih, run]

theorem Unfolds.unique (first : script.Unfolds outcome moves)
    (other : script.Unfolds second others) : moves = others := by
  induction first generalizing others with
  | done answer cursor =>
      cases other
      rfl
  | failed fault cursor =>
      cases other
      rfl
  | call rest ih =>
      cases other with
      | call otherRest => rw [ih otherRest]
  | ask asked rest asked_ih rest_ih =>
      cases other with
      | ask otherAsked otherRest =>
          have same := asked.eq_run.trans otherAsked.eq_run.symm
          rw [← same] at otherRest
          rw [asked_ih otherAsked, rest_ih otherRest]
  | within inside rest inside_ih rest_ih =>
      cases other with
      | within otherInside otherRest =>
          have same := inside.eq_run.trans otherInside.eq_run.symm
          rw [← same] at otherRest
          rw [inside_ih otherInside, rest_ih otherRest]

def UnfoldsOnly (script : Script α) (outcome : Outcome α) (moves : List Move) : Prop :=
  ∀ second others, script.Unfolds second others ↔ second = outcome ∧ others = moves

theorem Unfolds.only (unfolds : script.Unfolds outcome moves) : script.UnfoldsOnly outcome moves := by
  intro second others
  constructor
  · intro other
    exact ⟨other.eq_run.trans unfolds.eq_run.symm, other.unique unfolds⟩
  · rintro ⟨rfl, rfl⟩
    exact unfolds

end

end Script

/-! ## What holds of calls holds of records -/

/-- What can hold of a record, from the cursor before to the one behind and with the fault if there is one. It is
enough to know it of single calls and of faults of the rules: scopes do not change it, and what is done one
behind another keeps it. -/
structure Compositional (holds : Cursor → Option Fault → Cursor → List Move → Prop) : Prop where
  rests : ∀ cursor, holds cursor none cursor []
  refuses : ∀ fault cursor, fault.isOfRule = true → holds cursor (some fault) cursor []
  calls : ∀ call : Call, call.Fits →
    holds call.cursor (call.action.run call.cursor).fault? (call.action.run call.cursor).cursor [.call call]
  scopes : ∀ scope start fault? stop inner, holds start fault? stop inner →
    holds start fault? stop (enclosed scope inner)
  appends : ∀ start between fault? stop front rest, holds start none between front →
    holds between fault? stop rest → holds start fault? stop (front ++ rest)

namespace Compositional

variable {α β : Type} {holds : Cursor → Option Fault → Cursor → List Move → Prop}

theorem joined {start : Cursor} {result : Outcome β} {more : β → Cursor → Script α} {outcome : Outcome α}
    {front rest : List Move} (compositional : Compositional holds)
    (first : holds start result.fault? result.cursor front)
    (unfolds : (Script.behind result more).Unfolds outcome rest)
    (further : ∀ answer next, result = .done answer next →
      holds next outcome.fault? outcome.cursor rest) :
    holds start outcome.fault? outcome.cursor (front ++ rest) := by
  cases result with
  | done answer next => exact compositional.appends _ _ _ _ _ _ first (further answer next rfl)
  | failed fault stopped =>
      -- Behind a fault nothing is left to do, so there is nothing to append.
      cases unfolds
      rw [List.append_nil]
      exact first

theorem of_unfolds {script : Script α} {outcome : Outcome α} {moves : List Move} {limit : Nat}
    {cursor : Cursor} (compositional : Compositional holds) (unfolds : script.Unfolds outcome moves)
    (orderly : script.Orderly limit cursor) : holds cursor outcome.fault? outcome.cursor moves := by
  induction unfolds generalizing limit cursor with
  | done answer last =>
      have place : last = cursor := orderly
      rw [place]
      exact compositional.rests cursor
  | failed fault stopped =>
      obtain ⟨rfl, own⟩ := orderly
      exact compositional.refuses fault stopped own
  | @call _ action start _ _ _ rest ih =>
      obtain ⟨rfl, fits, goes⟩ := orderly
      refine compositional.joined (compositional.calls ⟨action, start⟩ fits) rest ?_
      intro answer next ran
      rw [ran] at ih
      exact ih (goes answer next ran)
  | @ask _ rule start _ result _ _ _ asked rest asked_ih rest_ih =>
      obtain ⟨rfl, _, goes⟩ := orderly
      have answered := asked.eq_run
      rw [rule.run_script] at answered
      have inner := asked_ih (rule.script_orderly start)
      refine compositional.joined (compositional.scopes (.rule rule) _ _ _ _ inner) rest ?_
      intro value next same
      rw [same] at rest_ih
      exact rest_ih (goes value next (answered.symm.trans same))
  | within inside rest inside_ih rest_ih =>
      obtain ⟨inner, goes⟩ := orderly
      refine compositional.joined (compositional.scopes .body _ _ _ _ (inside_ih inner)) rest ?_
      intro answer next same
      rw [same] at rest_ih
      exact rest_ih (goes answer next (inside.eq_run.symm.trans same))

theorem of_rule {rule : Rule} {cursor : Cursor} {outcome : Outcome Binary64} {moves : List Move}
    (compositional : Compositional holds) (unfolds : (rule.script cursor).Unfolds outcome moves) :
    holds cursor outcome.fault? outcome.cursor moves :=
  compositional.of_unfolds unfolds (rule.script_orderly cursor)

end Compositional

/-! ## The record is computed beside the outcome -/

/-- The log has the latest move first. -/
structure Trace (α : Type) where
  outcome : Outcome α
  log : List Move

namespace Trace

variable {α β : Type}

def andThen (trace : Trace β) (more : β → Cursor → List Move → Trace α) : Trace α :=
  match trace.outcome with
  | .done answer cursor => more answer cursor trace.log
  | .failed fault cursor => { outcome := .failed fault cursor, log := trace.log }

def leaving (scope : Scope) (trace : Trace α) : Trace α :=
  { trace with log := .leave scope :: trace.log }

end Trace

/-- What is done for a script behind what has been, if `asked` tells what is done for the rules it asks for. -/
def Script.trace (asked : Rule → Cursor → List Move → Trace Binary64) :
    {α : Type} → Script α → List Move → Trace α
  | _, done answer cursor, log => { outcome := .done answer cursor, log }
  | _, failed fault cursor, log => { outcome := .failed fault cursor, log }
  | _, call action cursor more, log =>
      Trace.andThen { outcome := action.run cursor, log := .call ⟨action, cursor⟩ :: log }
        fun answer next log => (more answer next).trace asked log
  | _, ask rule cursor more, log =>
      ((asked rule cursor (.enter (.rule rule) :: log)).leaving (.rule rule)).andThen
        fun value next log => (more value next).trace asked log
  | _, within body more, log =>
      ((body.trace asked (.enter .body :: log)).leaving .body).andThen
        fun answer next log => (more answer next).trace asked log

def Rule.traceTo : Nat → Rule → Cursor → List Move → Trace Binary64
  | 0, rule, cursor, log => { outcome := parse rule cursor, log }
  | levels + 1, rule, cursor, log => (rule.script cursor).trace (traceTo levels) log

/-- More rules than a rule weighs are never one inside another below it. -/
def Rule.trace (rule : Rule) (cursor : Cursor) (log : List Move) : Trace Binary64 :=
  rule.traceTo (rule.weight cursor + 1) cursor log

namespace Script

variable {α β : Type} {limit : Nat} {asked : Rule → Cursor → List Move → Trace Binary64}

def Records (script : Script α) (log : List Move) (trace : Trace α) : Prop :=
  ∃ moves, script.Unfolds trace.outcome moves ∧ trace.log = moves.reverse ++ log

theorem records_rest {outcome : Outcome β} {more : β → Cursor → Script α} (log : List Move)
    (rest : ∀ answer next, outcome = .done answer next →
      (more answer next).Records log ((more answer next).trace asked log)) :
    (behind outcome more).Records log
      (Trace.andThen { outcome, log } fun answer next log => (more answer next).trace asked log) := by
  cases outcome with
  | done answer next => exact rest answer next rfl
  | failed fault stopped => exact ⟨[], .failed fault stopped, rfl⟩

theorem log_of_scope {scope : Scope} {inner moves others log later : List Move}
    (inside : inner = moves.reverse ++ .enter scope :: log)
    (rest : later = others.reverse ++ .leave scope :: inner) :
    later = (enclosed scope moves ++ others).reverse ++ log := by
  rw [rest, inside, enclosed]
  simp

theorem behind_records (outcome : Outcome α) (log : List Move) :
    (behind outcome done).Records log ((behind outcome done).trace asked log) := by
  cases outcome with
  | done answer next => exact ⟨[], .done answer next, rfl⟩
  | failed fault stopped => exact ⟨[], .failed fault stopped, rfl⟩

theorem ask_records {rule : Rule} {start : Cursor} {more : Binary64 → Cursor → Script α} {log : List Move}
    (right : (rule.script start).Records (.enter (.rule rule) :: log)
      (asked rule start (.enter (.rule rule) :: log)))
    (rest : ∀ value next log, parse rule start = .done value next →
      (more value next).Records log ((more value next).trace asked log)) :
    (ask rule start more).Records log ((ask rule start more).trace asked log) := by
  obtain ⟨moves, unfolds, inside⟩ := right
  have answered := unfolds.eq_run
  rw [rule.run_script] at answered
  obtain ⟨others, goesOn, later⟩ := records_rest _ fun value next result =>
    rest value next _ (answered.symm.trans result)
  exact ⟨_, .ask unfolds goesOn, log_of_scope inside later⟩

/-- The trace of an orderly script is right if it is for the rules that the script asks for. -/
theorem trace_records
    (right : ∀ (rule : Rule) start log, rule.weight start < limit →
      (rule.script start).Records log (asked rule start log))
    {script : Script α} {cursor : Cursor} (orderly : script.Orderly limit cursor) (log : List Move) :
    script.Records log (script.trace asked log) := by
  induction script generalizing cursor log with
  | done answer last => exact ⟨[], .done answer last, rfl⟩
  | failed fault stopped => exact ⟨[], .failed fault stopped, rfl⟩
  | call action start more ih =>
      obtain ⟨_, _, rest⟩ := orderly
      obtain ⟨others, goesOn, later⟩ := records_rest (.call ⟨action, start⟩ :: log) fun answer next ran =>
        ih answer next (rest answer next ran) _
      refine ⟨_, .call goesOn, ?_⟩
      rw [List.reverse_append, List.append_assoc]
      exact later
  | ask rule start more ih =>
      obtain ⟨_, smaller, rest⟩ := orderly
      apply ask_records (right rule start _ smaller)
      intro value next log parsed
      exact ih value next (rest value next parsed) log
  | within body more body_ih ih =>
      obtain ⟨inner, rest⟩ := orderly
      obtain ⟨moves, unfolds, inside⟩ := body_ih inner (.enter .body :: log)
      obtain ⟨others, goesOn, later⟩ := records_rest _ fun answer next result =>
        ih answer next (rest answer next (unfolds.eq_run.symm.trans result)) _
      exact ⟨_, .within unfolds goesOn, log_of_scope inside later⟩

end Script

theorem Rule.trace_to_records {levels : Nat} (rule : Rule) (cursor : Cursor) (log : List Move)
    (enough : rule.weight cursor < levels) :
    (rule.script cursor).Records log (rule.traceTo levels cursor log) := by
  induction levels generalizing rule cursor log with
  | zero => exact absurd enough (Nat.not_lt_zero _)
  | succ levels ih =>
      refine Script.trace_records ?_ (rule.script_orderly cursor) log
      intro inner start log smaller
      exact ih inner start log (Nat.lt_of_lt_of_le smaller (Nat.le_of_lt_succ enough))

theorem Rule.trace_records (rule : Rule) (cursor : Cursor) (log : List Move) :
    (rule.script cursor).Records log (rule.trace cursor log) :=
  rule.trace_to_records cursor log (Nat.lt_succ_self _)

/-- The record of a rule has the outcome of `parse` beside it. -/
theorem Rule.exists_unfolds (rule : Rule) (cursor : Cursor) :
    ∃ moves, (rule.script cursor).Unfolds (parse rule cursor) moves := by
  obtain ⟨moves, unfolds, _⟩ := rule.trace_records cursor []
  have answered := unfolds.eq_run
  rw [rule.run_script] at answered
  rw [answered] at unfolds
  exact ⟨moves, unfolds⟩

namespace Script

theorem evaluation_unfolds (expression : String) :
    (evaluation expression).Unfolds ((evaluation expression).trace Rule.trace []).outcome
      ((evaluation expression).trace Rule.trace []).log.reverse := by
  have right : (evaluation expression).Records [] ((evaluation expression).trace Rule.trace []) := by
    unfold evaluation
    cases Cursor.openSource (Text.stripWhitespace expression) with
    | failed fault stopped => exact ⟨[], .failed fault stopped, rfl⟩
    | done _ first =>
        apply ask_records (Rule.trace_records .expression first _)
        exact fun value next log _ => behind_records (next.finish value) log
  obtain ⟨moves, unfolds, logged⟩ := right
  rw [logged, List.append_nil, List.reverse_reverse]
  exact unfolds

theorem exists_unfolds_evaluation (expression : String) :
    ∃ moves, (evaluation expression).Unfolds (readSource (Text.stripWhitespace expression)) moves := by
  have unfolds := evaluation_unfolds expression
  have answered := unfolds.eq_run
  rw [run_evaluation] at answered
  rw [answered] at unfolds
  exact ⟨_, unfolds⟩

end Script

end Calculator
