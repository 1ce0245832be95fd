import Calculator.Proofs.Cause
import Calculator.Proofs.Course
import Calculator.Proofs.ScannedPart
import Calculator.Proofs.Spans
import Calculator.Proofs.SyntaxFault

/-!
# What the log tells

Every lexeme that is scanned and has a token is reported once, when it is scanned, and nothing else is
reported before the end. So the log of an evaluation is the beginning of the list of lexemes, and how far
it reaches is told by the result: to the end if there is a value, up to an unknown run that is named, to a
token left over behind a whole expression. Any other fault is settled by the tokens taken and the one in view,
and the log ends with these.
-/

set_option autoImplicit false

namespace Calculator

def Lexeme.report? (lexeme : Lexeme) : Option Event :=
  (Token.ofLexeme? lexeme).map fun token => .scanned token lexeme.start lexeme.stop

namespace Cursor

variable {source : String} {cursor last stopped : Cursor} {fault? : Option Fault} {fault : Fault}

/-! ## The log of a cursor -/

structure Reports (source : String) (cursor : Cursor) : Prop where
  split : Lexeme.ofSource source = cursor.scanned source ++ cursor.pending
  log : cursor.log.reverse = (cursor.scanned source).filterMap Lexeme.report?

theorem advance_pending (cursor : Cursor) : cursor.advance.cursor.pending = cursor.pending.drop 1 := by
  unfold advance
  split
  · next nothing => simp [nothing, Outcome.cursor]
  · next lexeme pending more =>
      rw [more]
      split <;> rfl

/-- A lexeme without a token is scanned too, and not reported. -/
theorem advance_log (cursor : Cursor) : cursor.advance.cursor.log.reverse =
    cursor.log.reverse ++ (cursor.pending.take 1).filterMap Lexeme.report? := by
  unfold advance
  split
  · next nothing => simp [nothing, Outcome.cursor]
  · next lexeme pending more =>
      split
      · next unknown => simp [more, Lexeme.report?, unknown, Outcome.cursor]
      · next token known => simp [more, Lexeme.report?, known, Outcome.cursor]

theorem reports_of_advance {front : List Lexeme} (split : Lexeme.ofSource source = front ++ cursor.pending)
    (log : cursor.log.reverse = front.filterMap Lexeme.report?) : cursor.advance.cursor.Reports source := by
  have further : Lexeme.ofSource source =
      (front ++ cursor.pending.take 1) ++ cursor.advance.cursor.pending := by
    rw [split, advance_pending, List.append_assoc, List.take_append_drop]
  have scanned := scanned_of_split further
  constructor
  · rw [scanned]
    exact further
  · rw [scanned, advance_log, log, List.filterMap_append]

theorem reports_of_open (source : String) : (openSource source).cursor.Reports source := by
  have split : Lexeme.ofSource source = [] ++ (ofSource source).pending := rfl
  exact reports_of_advance split rfl

theorem Reports.take (reports : cursor.Reports source) (waiting : cursor.lookahead ≠ .finish) :
    cursor.take.cursor.Reports source := by
  rw [take_eq_advance waiting, Outcome.cursor_map]
  exact reports_of_advance reports.split reports.log

/-- The induction is on the tokens that the course takes. -/
theorem Reports.of_course (course : Course cursor fault? last) (reports : cursor.Reports source) :
    last.Reports source := by
  induction course with
  | rest cursor => exact reports
  | refuse cursor own => exact reports
  | stuck waiting failed =>
      have stuck := reports.take waiting
      rwa [failed] at stuck
  | take took more ih =>
      have waiting := waiting_of_take took
      have taken := reports.take waiting
      rw [took] at taken
      exact ih taken

/-! ## What has been scanned where a cursor stands -/

/-- Behind the lexemes of the tokens taken the one in view has been scanned too. At the end there is none. -/
theorem StandsIn.scanned_cases (stands : cursor.StandsIn source) :
    ∃ behind, behind.map Token.ofLexeme? = (cursor.taken source).map some ∧
      ((cursor.lookahead = .finish ∧ cursor.scanned source = behind ∧ cursor.pending = []) ∨
        ∃ lexeme, Token.ofLexeme? lexeme = some cursor.lookahead ∧ lexeme.text = cursor.text ∧
          cursor.scanned source = behind ++ [lexeme]) := by
  refine ⟨_, stands.behind, ?_⟩
  have split := (List.take_append_drop (cursor.taken source).length (Lexeme.ofSource source)).symm
  have shows := stands.ahead
  generalize (Lexeme.ofSource source).take (cursor.taken source).length = behind at *
  cases ahead : (Lexeme.ofSource source).drop (cursor.taken source).length with
  | nil =>
      rw [ahead] at split shows
      obtain ⟨finished, _, nothing⟩ := shows
      rw [← nothing] at split
      exact Or.inl ⟨finished, scanned_of_split split, nothing⟩
  | cons lexeme rest =>
      rw [ahead] at split shows
      obtain ⟨known, written, pending⟩ := shows
      rw [← pending, List.append_cons] at split
      exact Or.inr ⟨lexeme, known, written.symm, scanned_of_split split⟩

end Cursor

/-- The lexemes scanned are those of the tokens taken and of the token in view; at the end nothing is in view
and nothing is left. -/
inductive InSight (taken : List Token) (scanned ahead : List Lexeme) : Token → Prop where
  | token {view : Token} (waiting : view ≠ .finish)
      (known : scanned.map Token.ofLexeme? = (taken ++ [view]).map some) :
      InSight taken scanned ahead view
  | finish (known : scanned.map Token.ofLexeme? = taken.map some) (nothing : ahead = []) :
      InSight taken scanned ahead .finish

theorem InSight.known {taken : List Token} {scanned ahead : List Lexeme} {view : Token}
    (sight : InSight taken scanned ahead view) :
    ∃ tokens : List Token, scanned.map Token.ofLexeme? = tokens.map some := by
  cases sight with
  | token _ known => exact ⟨_, known⟩
  | finish known _ => exact ⟨_, known⟩

theorem Cursor.StandsIn.in_sight {source : String} {cursor : Cursor} (stands : cursor.StandsIn source) :
    InSight (cursor.taken source) (cursor.scanned source) cursor.pending cursor.lookahead := by
  obtain ⟨behind, accepted, ⟨finished, scanned, nothing⟩ | ⟨lexeme, known, _, scanned⟩⟩ :=
    stands.scanned_cases
  · rw [finished, scanned]
    exact .finish accepted nothing
  · have waiting : cursor.lookahead ≠ .finish := by
      intro finished
      rw [finished] at known
      exact Token.of_lexeme_ne_finish lexeme known
    rw [scanned]
    exact .token waiting (Token.of_lexemes_snoc accepted known)

/-- Where a reading of the source has come to rest: with a token in view, or cut off by a run without one. -/
inductive Told (source : String) : Option Fault → Cursor → Prop where
  | inView {fault? : Option Fault} {cursor : Cursor}
      (own : ∀ fault ∈ fault?, fault.isOfRule = true) (stands : cursor.StandsIn source) :
      Told source fault? cursor
  | cutOff {cursor : Cursor} {accepted : List Lexeme} {tokens : List Token} {bad : Lexeme}
      (scanned : cursor.scanned source = accepted ++ [bad])
      (known : accepted.map Token.ofLexeme? = tokens.map some) (unknown : Token.ofLexeme? bad = none) :
      Told source (some (.unknownOperator bad.text)) cursor

namespace Told

variable {source : String} {cursor last stopped : Cursor} {fault : Fault} {fault? : Option Fault}

theorem of_unopened (opened : Cursor.openSource source = .failed fault stopped) :
    Told source (some fault) stopped := by
  obtain ⟨bad, rest, pending, unknown, rfl⟩ := Cursor.advance_failed opened
  have left : stopped.pending = rest := by
    have dropped := Cursor.advance_pending (Cursor.ofSource source)
    rw [← Cursor.openSource, opened, pending] at dropped
    exact dropped
  have split : Lexeme.ofSource source = ([] ++ [bad]) ++ stopped.pending := by
    rw [left]
    exact pending
  have nothing : ([] : List Lexeme).map Token.ofLexeme? = ([] : List Token).map some := rfl
  exact .cutOff (Cursor.scanned_of_split split) nothing unknown

theorem of_stuck (stands : cursor.StandsIn source) (waiting : cursor.lookahead ≠ .finish)
    (failed : cursor.take = .failed fault stopped) : Told source (some fault) stopped := by
  obtain ⟨lexeme, bad, rest, ahead, known, unknown, rfl⟩ := Cursor.take_failed stands.ahead waiting failed
  have shows := stands.ahead
  rw [ahead] at shows
  have pending : stopped.pending = rest := by
    have stop := congrArg Outcome.cursor failed
    rw [Cursor.take_eq_advance waiting, Outcome.cursor_map] at stop
    have dropped := Cursor.advance_pending
      { cursor with openGroups := cursor.lookahead.groupsAfter cursor.openGroups }
    rw [stop] at dropped
    rw [Outcome.cursor, shows.2.2] at dropped
    exact dropped
  have split := (List.take_append_drop (cursor.taken source).length (Lexeme.ofSource source)).symm
  rw [ahead, ← pending, List.append_cons, List.append_cons] at split
  exact .cutOff (Cursor.scanned_of_split split) (Token.of_lexemes_snoc stands.behind known) unknown

theorem of_course (course : Course cursor fault? last) (stands : cursor.StandsIn source) :
    Told source fault? last := by
  induction course with
  | rest cursor => exact .inView nofun stands
  | refuse cursor own =>
      refine .inView ?_ stands
      rintro _ ⟨⟩
      exact own
  | stuck waiting failed => exact of_stuck stands waiting failed
  | take took more ih => exact ih (Cursor.stands_in_of_take stands took).1

end Told

/-- The tokens taken and the one in view settle a fault that a rule finds, and one token fewer would not:
nothing goes on so, or a group has become too deep, or a factorial has turned out to have no value. -/
inductive Settles (taken : List Token) (view : Token) : Fault → Prop where
  | refused {fault : Fault} (syntactic : fault.isSyntactic = true) (viable : Viable taken)
      (blocked : view ≠ .finish → ¬Viable (taken ++ [view]))
      (unfinished : view = .finish → ¬IsSentence taken) : Settles taken view fault
  | tooDeep {front : List Token} (opened : taken = front ++ [.symbol .openParen])
      (shallow : deepest front ≤ nestingLimit) (deep : ¬deepest taken ≤ nestingLimit) :
      Settles taken view (.nestingTooDeep nestingLimit)
  | undefined {front : List Token} (closed : taken = front ++ [.symbol .closeParen])
      (whole : ¬FaultyCall front) (faulty : FaultyCall taken) : Settles taken view .integerExpected

theorem settles_of_rule {source : String} {fault : Fault} {stopped : Cursor}
    (failed : readSource source = .failed fault stopped) (own : fault.isOfRule = true) :
    Settles (stopped.taken source) stopped.lookahead fault := by
  rcases read_source_failed failed with
    ⟨bad, rest, _, _, rfl⟩ | ⟨tokens, state, place, ahead, reached, halts⟩
  · cases own
  · cases halts with
    | refused blocked unfinished same =>
        have moved := reached.of_place same
        rw [← same] at blocked unfinished
        rw [moved.taken]
        refine .refused (Reading.refusal_is_syntactic state place.text)
          (Reading.viable_iff_read.mpr ⟨state, moved.read⟩) ?_ ?_
        · intro _
          exact Reading.not_viable_of_blocked moved.read blocked
        · intro finished sentence
          exact unfinished finished (Reading.complete_of_sentence moved.read sentence)
    | unknown read stuck =>
        obtain ⟨_, _, _, _, _, _, rfl⟩ :=
          Cursor.take_failed reached.shows (Reading.waiting_of_step read) stuck
        cases own
    | tooDeep read took opened deep =>
        have taken := (Cursor.stands_in_of_take reached.stands_in took).2
        rw [reached.taken, opened] at taken
        refine .tooDeep taken reached.shallow ?_
        have tooDeep := reached.too_deep took deep
        rwa [opened, ← taken] at tooDeep
    | undefined read took undefined =>
        have taken := (Cursor.stands_in_of_take reached.stands_in took).2
        have closed := Reading.close_paren_of_undefined read reached.defined undefined
        have faulty := Reading.faulty_of_undefined (Reading.read_snoc reached.read read) undefined
        rw [reached.taken] at taken
        rw [← taken] at faulty
        rw [closed] at taken
        exact .undefined taken reached.whole faulty

/-! ## The account of an evaluation -/

def Event.leftOver : Except Fault Binary64 → List Event
  | .error (.unexpectedToken text) => [.trailingInput text]
  | _ => []

/-- How far the lexemes have been scanned is told by the result. -/
def Reaches (scanned ahead : List Lexeme) : Except Fault Binary64 → Prop
  | .ok _ => ahead = []
  | .error (.unknownOperator text) =>
      ∃ bad rest, ahead = bad :: rest ∧ bad.text = text ∧ Token.ofLexeme? bad = none
  | .error (.unexpectedToken text) =>
      ∃ before last tokens, scanned = before ++ [last] ∧ last.text = text ∧
        before.map Token.ofLexeme? = tokens.map some ∧ IsSentence tokens
  | .error fault => ∃ taken view, Settles taken view fault ∧ InSight taken scanned ahead view

theorem reaches_of_rule {fault : Fault} {scanned ahead : List Lexeme} {taken : List Token} {view : Token}
    (own : fault.isOfRule = true) (settles : Settles taken view fault)
    (sight : InSight taken scanned ahead view) :
    Reaches scanned ahead (.error fault) ∧ Event.leftOver (.error fault) = [] := by
  cases fault with
  | unknownOperator text => cases own
  | unexpectedToken text => cases own
  | _ => exact ⟨⟨taken, view, settles, sight⟩, rfl⟩

theorem reports_of_known {scanned : List Lexeme} {tokens : List Token}
    (known : scanned.map Token.ofLexeme? = tokens.map some) :
    scanned.map Lexeme.report? = (scanned.filterMap Lexeme.report?).map some := by
  induction scanned generalizing tokens with
  | nil => rfl
  | cons lexeme rest ih =>
      cases tokens with
      | nil => cases known
      | cons token tokens =>
          injection known with first later
          have report : lexeme.report? = some (.scanned token lexeme.start lexeme.stop) := by
            rw [Lexeme.report?, first]
            rfl
          rw [List.map_cons, ih later, report, List.filterMap_cons_some report, List.map_cons]

/-- The account that the log gives of an outcome: the reports of all lexemes that have been scanned, and of
what is left over. -/
structure Accounted (source : String) (outcome : Outcome Binary64) (scanned ahead : List Lexeme)
    (reports : List Event) : Prop where
  split : Lexeme.ofSource source = scanned ++ ahead
  known : scanned.map Lexeme.report? = reports.map some
  all : reports = (outcome.cursor.scanned source).filterMap Lexeme.report?
  log : outcome.cursor.log.reverse = reports ++ Event.leftOver outcome.toExcept
  reaches : Reaches scanned ahead outcome.toExcept

namespace Accounted

variable {source : String} {outcome : Outcome Binary64} {cursor stopped : Cursor} {fault : Fault}

theorem of_sight (reports : cursor.Reports source) (stands : cursor.StandsIn source)
    (place : outcome.cursor.pending = cursor.pending)
    (log : outcome.cursor.log.reverse = cursor.log.reverse ++ Event.leftOver outcome.toExcept)
    (reaches : Reaches (cursor.scanned source) cursor.pending outcome.toExcept) :
    Accounted source outcome (cursor.scanned source) cursor.pending
      ((cursor.scanned source).filterMap Lexeme.report?) where
  split := reports.split
  known := by
    obtain ⟨tokens, known⟩ := stands.in_sight.known
    exact reports_of_known known
  all := by rw [Cursor.scanned, Cursor.scanned, place]
  log := by rw [log, reports.log]
  reaches := reaches

theorem of_failed (failed : readSource source = .failed fault stopped) (reports : stopped.Reports source)
    (told : Told source (some fault) stopped) :
    ∃ scanned ahead reports, Accounted source (.failed fault stopped) scanned ahead reports := by
  cases told with
  | inView own stands =>
      have settles := settles_of_rule failed (own fault rfl)
      obtain ⟨reaches, nothing⟩ := reaches_of_rule (own fault rfl) settles stands.in_sight
      refine ⟨_, _, _, of_sight reports stands rfl ?_ reaches⟩
      rw [Outcome.toExcept, nothing, List.append_nil]
      rfl
  | @cutOff _ accepted tokens bad scanned known unknown =>
      have split := reports.split
      rw [scanned, List.append_assoc, List.singleton_append] at split
      have silent : bad.report? = none := by rw [Lexeme.report?, unknown, Option.map_none]
      have same : accepted.filterMap Lexeme.report? =
          (stopped.scanned source).filterMap Lexeme.report? := by
        rw [scanned, List.filterMap_append, List.filterMap_cons_none silent, List.filterMap_nil,
          List.append_nil]
      refine ⟨accepted, bad :: stopped.pending, _, split, reports_of_known known, same, ?_, bad,
        stopped.pending, rfl, rfl, unknown⟩
      rw [same, ← reports.log]
      exact (List.append_nil _).symm

theorem of_finish {value : Binary64} (reports : cursor.Reports source) (stands : cursor.StandsIn source)
    (sentence : IsSentence (cursor.taken source)) :
    ∃ scanned ahead reports, Accounted source (cursor.finish value) scanned ahead reports := by
  obtain ⟨behind, accepted, view⟩ := stands.scanned_cases
  unfold Cursor.finish
  split
  · next finished =>
      rcases view with ⟨_, _, nothing⟩ | ⟨lexeme, known, _, _⟩
      · exact ⟨_, _, _, of_sight reports stands rfl (List.append_nil _).symm nothing⟩
      · rw [Token.is_finish_iff.mp finished] at known
        exact absurd known (Token.of_lexeme_ne_finish lexeme)
  · next leftOver =>
      rcases view with ⟨finished, _, _⟩ | ⟨lexeme, _, written, scanned⟩
      · exact absurd (Token.is_finish_iff.mpr finished) leftOver
      · refine ⟨_, _, _, of_sight reports stands rfl List.reverse_cons ?_⟩
        exact ⟨behind, lexeme, _, scanned, written, accepted, sentence⟩

end Accounted

theorem sentence_taken {source : String} {first stop : Cursor} {value : Binary64}
    (opened : first.Shows (Lexeme.ofSource source)) (noGroups : first.openGroups = 0)
    (parsed : parse .expression first = .done value stop) : IsSentence (stop.taken source) := by
  have follows := simulates .expression first .start trivial
  rw [parsed] at follows
  obtain ⟨tokens, _, walk, tree, rfl, _, _⟩ := follows
  obtain ⟨rest, reached⟩ := Reached.of_walk opened noGroups walk
  rw [reached.taken]
  refine ⟨tree, ?_⟩
  have read := Reading.read_tokens reached.read
  rwa [Context.settle_tokens, Reading.start_tokens] at read

theorem read_source_accounted (source : String) :
    ∃ scanned ahead reports, Accounted source (readSource source) scanned ahead reports := by
  have opening := Cursor.reports_of_open source
  cases opened : Cursor.openSource source with
  | failed fault stopped =>
      rw [opened] at opening
      have failed : readSource source = .failed fault stopped := by
        rw [readSource, opened]
        rfl
      rw [failed]
      exact Accounted.of_failed failed opening (.of_unopened opened)
  | done answer first =>
      rw [opened] at opening
      have whole : readSource source = parseAll first := by
        rw [readSource, opened]
        rfl
      have stands := (Cursor.stands_in_of_open opened).1
      have course := parse_keeps_course .expression first
      rw [Outcome.KeepsCourse] at course
      cases parsed : parse .expression first with
      | failed fault stopped =>
          rw [parsed] at course
          have failed : readSource source = .failed fault stopped := by
            rw [whole, parseAll, parsed]
            rfl
          rw [failed]
          exact Accounted.of_failed failed (opening.of_course course) (.of_course course stands)
      | done value stop =>
          rw [parsed] at course
          obtain ⟨shows, groups⟩ := Cursor.advance_done opened
          have sentence := sentence_taken shows groups parsed
          rw [whole, parseAll, parsed]
          cases Told.of_course course stands with
          | inView _ stands => exact Accounted.of_finish (opening.of_course course) stands sentence

/-- The events of an evaluation are the text it starts from, the report of each lexeme scanned, what is left
over, and how it ended. -/
theorem events_of_evaluation (expression : String) :
    ∃ scanned ahead reports,
      Accounted (Text.stripWhitespace expression) (readSource (Text.stripWhitespace expression))
          scanned ahead reports ∧
        (Evaluation.ofExpression expression).events =
          .evaluating (Text.stripWhitespace expression) :: reports ++
            Event.leftOver (evaluate expression) ++
              [Evaluation.lastEvent (Text.stripWhitespace expression) (evaluate expression)] := by
  obtain ⟨scanned, ahead, reports, account⟩ := read_source_accounted (Text.stripWhitespace expression)
  refine ⟨scanned, ahead, reports, account, ?_⟩
  rw [evaluate_eq, List.cons_append, ← account.log]
  rfl

/-- The spans that an evaluation reports lie side by side from the first byte of the stripped text on, and
each holds its lexeme. They are all that have been scanned where the evaluation stopped. How far they reach,
and whether a token is reported as left over, is told by the result. -/
theorem events_account_for_scanned (expression : String) :
    ∃ source stop scanned ahead reports,
      source = Text.stripWhitespace expression ∧ stop = (readSource source).cursor ∧
        Lexeme.ofSource source = scanned ++ ahead ∧
          scanned.map Lexeme.report? = reports.map some ∧
            reports = (stop.scanned source).filterMap Lexeme.report? ∧
              (Evaluation.ofExpression expression).events =
                .evaluating source :: reports ++ Event.leftOver (evaluate expression) ++
                  [Evaluation.lastEvent source (evaluate expression)] ∧
                Contiguous 0 (scanned.map Lexeme.span) (Lexeme.written scanned).utf8ByteSize ∧
                  (∀ lexeme ∈ scanned, Text.At source lexeme.start lexeme.stop lexeme.text) ∧
                    source = Lexeme.written scanned ++ Lexeme.written ahead ∧
                      Reaches scanned ahead (evaluate expression) := by
  obtain ⟨scanned, ahead, reports, account, events⟩ := events_of_evaluation expression
  refine ⟨_, _, scanned, ahead, reports, rfl, rfl, account.split, account.known, account.all, events,
    Lexeme.contiguous_of_source account.split, ?_, ?_, ?_⟩
  · intro lexeme member
    obtain ⟨before, behind, rfl⟩ := List.append_of_mem member
    have split := account.split
    rw [List.append_assoc, List.cons_append] at split
    exact Lexeme.at_of_source split
  · rw [← Lexeme.written_append, ← account.split, Lexeme.written_of_source]
  · rw [evaluate_eq]
    exact account.reaches

/-- A token left over is scanned and what stands behind it is not. -/
example : (Evaluation.ofExpression "(1) 2.50 é").events.map Event.message =
    [ "evaluating \"(1)2.50é\""
    , "token Operator(ParenOpen) at 0..1"
    , "token Number(1.0) at 1..2"
    , "token Operator(ParenClose) at 2..3"
    , "token Number(2.5) at 3..7"
    , "trailing input starting at \"2.50\""
    , "\"(1)2.50é\" failed: Syntax error: unexpected token \"2.50\"." ] := by
  decide +kernel

end Calculator
