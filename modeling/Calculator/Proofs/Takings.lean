import Calculator.Session
import Calculator.Proofs.NestingLimit
import Calculator.Proofs.Stream

/-!
# Nothing is lost or taken twice

A session that only takes tokens, of either kind and in any order. A taking of the wrong kind, and any at
the end, leaves the cursor as it is. Every other one takes one piece off the stream: the look-ahead, which
it answers, or the piece behind it, which it reports because it has no token. So what has been answered and
what is still ahead are together the tokens of the source, and the same holds of what has been reported.
-/

set_option autoImplicit false

namespace Calculator

def Piece.rejected? (piece : Piece) : Option String :=
  match piece.token? with
  | some _ => none
  | none => some piece.text

namespace Session

def Step.Takes (step : Step) : Prop :=
  step = .takeNumber ∨ step = .takeOperator

def behind (cursor : Cursor) (steps : List Step) : Cursor :=
  steps.foldl (fun cursor step => (step.run cursor).cursor) cursor

def returned? : Outcome Answer → Option Token
  | .done (.number value) _ => some (.number value)
  | .done (.operator operator) _ => some (.symbol operator)
  | _ => none

def reported? : Outcome Answer → Option String
  | .failed (.unknownOperator text) _ => some text
  | _ => none

/-- The steps take what lies ahead, each the kind of token that it meets, and nothing is left then. -/
def Exhausts (cursor : Cursor) : List Step → Prop
  | [] => cursor.lookahead = .finish
  | step :: steps =>
      cursor.lookahead ≠ .finish ∧ step = fitting cursor.lookahead ∧
        Exhausts (step.run cursor).cursor steps

def answerOf : Token → Answer
  | .number value => .number value
  | .symbol operator => .operator operator
  | .finish => .noGroup

variable {cursor : Cursor} {step : Step} {steps : List Step}

theorem returned_of_answer {token : Token} {next : Cursor} (waiting : token ≠ .finish) :
    returned? (.done (answerOf token) next) = some token := by
  cases token with
  | finish => exact absurd rfl waiting
  | _ => rfl

theorem fitting_takes (token : Token) : (fitting token).Takes := by
  cases token with
  | number value => exact Or.inl rfl
  | symbol operator => exact Or.inr rfl
  | finish => exact Or.inr rfl

theorem run_fitting (waiting : cursor.lookahead ≠ .finish) :
    (fitting cursor.lookahead).run cursor = cursor.take.map answerOf := by
  cases ahead : cursor.lookahead with
  | number value =>
      simp only [fitting, Token.isNumber, if_true, Step.run, Cursor.take, ahead, Outcome.map_map]
      rfl
  | symbol operator =>
      simp only [fitting, Token.isNumber, Bool.false_eq_true, if_false, Step.run, Cursor.take, ahead,
        Outcome.map_map]
      rfl
  | finish => exact absurd ahead waiting

theorem run_refused (takes : step.Takes)
    (wrong : cursor.lookahead = .finish ∨ step ≠ fitting cursor.lookahead) :
    ∃ fault, step.run cursor = .failed fault cursor ∧ ∀ text, fault ≠ .unknownOperator text := by
  rcases takes with rfl | rfl
  · refine ⟨.numberExpected, ?_, fun text => Fault.noConfusion⟩
    cases ahead : cursor.lookahead with
    | number value =>
        rw [ahead] at wrong
        simp [fitting, Token.isNumber] at wrong
    | symbol operator => simp only [Step.run, Cursor.takeNumber, ahead]; rfl
    | finish => simp only [Step.run, Cursor.takeNumber, ahead]; rfl
  · refine ⟨.unexpectedToken cursor.lookahead.text, ?_, fun text => Fault.noConfusion⟩
    cases ahead : cursor.lookahead with
    | symbol operator =>
        rw [ahead] at wrong
        simp [fitting, Token.isNumber] at wrong
    | number value => simp only [Step.run, Cursor.takeOperator, ahead]; rfl
    | finish => simp only [Step.run, Cursor.takeOperator, ahead]; rfl

inductive Moves (cursor : Cursor) : Outcome Answer → Prop where
  | taken (next : Cursor) (waiting : cursor.lookahead ≠ .finish) (intact : next.Intact)
      (split : cursor.stream = ⟨some cursor.lookahead, cursor.text⟩ :: next.stream)
      (groups : next.openGroups = cursor.lookahead.groupsAfter cursor.openGroups) :
      Moves cursor (.done (answerOf cursor.lookahead) next)
  | skipped (text : String) (next : Cursor) (rest : List Piece) (intact : next.Intact)
      (split : cursor.stream = ⟨some cursor.lookahead, cursor.text⟩ :: ⟨none, text⟩ :: rest)
      (kept : next.stream = ⟨some cursor.lookahead, cursor.text⟩ :: rest)
      (same : next.lookahead = cursor.lookahead)
      (groups : next.openGroups = cursor.lookahead.groupsAfter cursor.openGroups) :
      Moves cursor (.failed (.unknownOperator text) next)

inductive Taking (cursor : Cursor) : Outcome Answer → Prop where
  | refused (fault : Fault) (known : ∀ text, fault ≠ .unknownOperator text) :
      Taking cursor (.failed fault cursor)
  | moved (outcome : Outcome Answer) (moves : Moves cursor outcome) : Taking cursor outcome

theorem moves_of_fitting (intact : cursor.Intact) (waiting : cursor.lookahead ≠ .finish) :
    Moves cursor ((fitting cursor.lookahead).run cursor) := by
  rw [run_fitting waiting]
  rcases cursor.take_cases with
    ⟨finished, _⟩ | ⟨_, ⟨next, took, shows, groups⟩ | ⟨bad, rest, more, unknown, failed⟩⟩
  · exact absurd finished waiting
  · rw [took]
    refine .taken next waiting ⟨_, shows⟩ ?_ groups
    rw [Cursor.stream_of_waiting waiting, Cursor.stream_of_shows shows]
  · rw [failed]
    refine .skipped bad.text _ (rest.map Lexeme.piece) (Cursor.intact_of_skipping intact waiting)
      ?_ ?_ rfl rfl
    · rw [Cursor.stream_of_waiting waiting, more, List.map_cons, Lexeme.piece, unknown]
    · exact Cursor.stream_of_waiting waiting

theorem taking (intact : cursor.Intact) (takes : step.Takes) : Taking cursor (step.run cursor) := by
  by_cases wrong : cursor.lookahead = .finish ∨ step ≠ fitting cursor.lookahead
  · obtain ⟨fault, refused, known⟩ := run_refused takes wrong
    rw [refused]
    exact .refused fault known
  · obtain ⟨waiting, same⟩ := not_or.mp wrong
    rw [Decidable.not_not.mp same]
    exact .moved _ (moves_of_fitting intact waiting)

section

variable {outcome : Outcome Answer}

theorem Moves.intact (moves : Moves cursor outcome) : outcome.cursor.Intact := by
  cases moves with
  | taken next waiting intact split groups => exact intact
  | skipped text next rest intact split kept same groups => exact intact

theorem Moves.length (moves : Moves cursor outcome) :
    outcome.cursor.stream.length + 1 = cursor.stream.length := by
  cases moves with
  | taken next waiting intact split groups => rw [split, List.length_cons, Outcome.cursor]
  | skipped text next rest intact split kept same groups =>
      rw [split, Outcome.cursor, kept, List.length_cons, List.length_cons, List.length_cons]

theorem Taking.intact (taking : Taking cursor outcome) (intact : cursor.Intact) :
    outcome.cursor.Intact := by
  cases taking with
  | refused fault known => exact intact
  | moved outcome moves => exact moves.intact

theorem Taking.tokens (taking : Taking cursor outcome) :
    (returned? outcome).toList ++ outcome.cursor.stream.filterMap Piece.token? =
      cursor.stream.filterMap Piece.token? := by
  cases taking with
  | refused fault known => rfl
  | moved outcome moves =>
      cases moves with
      | taken next waiting intact split groups =>
          rw [returned_of_answer waiting, split]
          rfl
      | skipped text next rest intact split kept same groups =>
          rw [Outcome.cursor, kept, split]
          rfl

theorem Taking.rejected (taking : Taking cursor outcome) :
    (reported? outcome).toList ++ outcome.cursor.stream.filterMap Piece.rejected? =
      cursor.stream.filterMap Piece.rejected? := by
  cases taking with
  | refused fault known =>
      have silent : reported? (.failed fault cursor) = none := by
        cases fault with
        | unknownOperator text => exact absurd rfl (known text)
        | _ => rfl
      rw [silent]
      rfl
  | moved outcome moves =>
      cases moves with
      | taken next waiting intact split groups =>
          rw [split, List.filterMap_cons_none rfl]
          rfl
      | skipped text next rest intact split kept same groups =>
          rw [Outcome.cursor, kept, split, List.filterMap_cons_none rfl, List.filterMap_cons_none rfl]
          rfl

end

theorem filter_map_perform {α : Type} (pick : Outcome Answer → Option α) (cursor : Cursor)
    (step : Step) (steps : List Step) :
    (perform cursor (step :: steps)).filterMap pick =
      (pick (step.run cursor)).toList ++ (perform (step.run cursor).cursor steps).filterMap pick := by
  rw [perform, List.filterMap_cons]
  cases pick (step.run cursor) <;> rfl

/-- What each taking moves from the stream to its outcome, a session moves step by step. -/
theorem conserved {α : Type} {pick : Outcome Answer → Option α} {kind : Piece → Option α}
    (moved : ∀ cursor outcome, Taking cursor outcome →
      (pick outcome).toList ++ outcome.cursor.stream.filterMap kind = cursor.stream.filterMap kind)
    (intact : cursor.Intact) (takes : ∀ step ∈ steps, step.Takes) :
    (perform cursor steps).filterMap pick ++ (behind cursor steps).stream.filterMap kind =
      cursor.stream.filterMap kind := by
  induction steps generalizing cursor with
  | nil => rfl
  | cons step steps ih =>
      have first := taking intact (takes step List.mem_cons_self)
      have rest := ih (first.intact intact) fun other member =>
        takes other (List.mem_cons_of_mem _ member)
      rw [filter_map_perform, List.append_assoc, behind, List.foldl_cons, ← moved cursor _ first, ← rest]
      rfl

theorem Exhausts.takes (exhausts : Exhausts cursor steps) : ∀ step ∈ steps, step.Takes := by
  induction steps generalizing cursor with
  | nil =>
      intro step member
      cases member
  | cons step steps ih =>
      obtain ⟨_, rfl, more⟩ := exhausts
      intro other member
      rcases List.mem_cons.mp member with rfl | later
      · exact fitting_takes _
      · exact ih more other later

theorem Exhausts.intact_and_finished (exhausts : Exhausts cursor steps) (intact : cursor.Intact) :
    (behind cursor steps).Intact ∧ (behind cursor steps).lookahead = .finish := by
  induction steps generalizing cursor with
  | nil => exact ⟨intact, exhausts⟩
  | cons step steps ih =>
      obtain ⟨waiting, rfl, more⟩ := exhausts
      exact ih more (moves_of_fitting intact waiting).intact

theorem Exhausts.length (exhausts : Exhausts cursor steps) (intact : cursor.Intact) :
    steps.length = cursor.stream.length := by
  induction steps generalizing cursor with
  | nil =>
      rw [(Cursor.stream_eq_nil_iff intact).mpr exhausts]
      rfl
  | cons step steps ih =>
      obtain ⟨waiting, rfl, more⟩ := exhausts
      have moves := moves_of_fitting intact waiting
      rw [List.length_cons, ih more moves.intact, moves.length]

theorem exists_exhausts (cursor : Cursor) : ∃ steps, Exhausts cursor steps := by
  induction bound : cursor.remaining using Nat.strongRecOn generalizing cursor with
  | ind remaining ih =>
      by_cases finished : cursor.lookahead = .finish
      · exact ⟨[], finished⟩
      · have waiting : cursor.lookahead.isFinish = false :=
          Bool.eq_false_iff.mpr fun ended => finished (Token.is_finish_iff.mp ended)
        have falls := fitting_remaining waiting
        rw [bound] at falls
        obtain ⟨steps, exhausts⟩ := ih _ falls _ rfl
        exact ⟨_ :: steps, finished, rfl, exhausts⟩

end Session

def rejectedTexts (source : String) : List String :=
  ((Lexeme.ofSource source).filter fun lexeme => (Token.ofLexeme? lexeme).isNone).map Lexeme.text

theorem Piece.filter_map_rejected (lexemes : List Lexeme) :
    (lexemes.map Lexeme.piece).filterMap Piece.rejected? =
      (lexemes.filter fun lexeme => (Token.ofLexeme? lexeme).isNone).map Lexeme.text := by
  induction lexemes with
  | nil => rfl
  | cons lexeme rest ih =>
      rw [List.map_cons]
      cases token : Token.ofLexeme? lexeme with
      | none =>
          have rejected : lexeme.piece.rejected? = some lexeme.text := by
            rw [Piece.rejected?, Lexeme.piece, token]
          rw [List.filterMap_cons_some rejected, ih, List.filter_cons_of_pos (by rw [token]; rfl),
            List.map_cons]
      | some known =>
          have accepted : lexeme.piece.rejected? = none := by
            rw [Piece.rejected?, Lexeme.piece, token]
          rw [List.filterMap_cons_none accepted, ih,
            List.filter_cons_of_neg (by rw [token]; exact Bool.false_ne_true)]

namespace Cursor

variable {source : String} {first : Cursor}

theorem open_of_scannable
    (scannable : ∀ lexeme ∈ (Lexeme.ofSource source).head?, Token.ofLexeme? lexeme ≠ none) :
    ∃ first, openSource source = .done () first := by
  cases opened : openSource source with
  | done answer first => exact ⟨first, rfl⟩
  | failed fault stopped =>
      obtain ⟨lexeme, rest, begins, unknown, _⟩ := advance_failed opened
      have member : lexeme ∈ (Lexeme.ofSource source).head? := by
        rw [show Lexeme.ofSource source = lexeme :: rest from begins]
        rfl
      exact absurd unknown (scannable lexeme member)

theorem stream_of_open (opened : openSource source = .done () first) :
    first.Intact ∧ first.stream = (Lexeme.ofSource source).map Lexeme.piece := by
  obtain ⟨shows, _⟩ := advance_done opened
  exact ⟨⟨_, shows⟩, stream_of_shows shows⟩

end Cursor

namespace Session

variable {source : String} {first : Cursor} {steps : List Step}

/-- What has been answered and what is still ahead are together the tokens of the source. -/
theorem returned_and_ahead (opened : Cursor.openSource source = .done () first)
    (takes : ∀ step ∈ steps, step.Takes) :
    (perform first steps).filterMap returned? ++
      (behind first steps).stream.filterMap Piece.token? = sourceTokens source := by
  obtain ⟨intact, stream⟩ := Cursor.stream_of_open opened
  rw [conserved (fun _ _ taking => taking.tokens) intact takes, stream, List.filterMap_map]
  rfl

theorem reported_and_ahead (opened : Cursor.openSource source = .done () first)
    (takes : ∀ step ∈ steps, step.Takes) :
    (perform first steps).filterMap reported? ++
      (behind first steps).stream.filterMap Piece.rejected? = rejectedTexts source := by
  obtain ⟨intact, stream⟩ := Cursor.stream_of_open opened
  rw [conserved (fun _ _ taking => taking.rejected) intact takes, stream,
    Piece.filter_map_rejected]
  rfl

end Session

/-- Whatever a session takes, in whatever order, what it has been answered and what it has been told of are
fronts of what the source holds, and all of it when nothing is left ahead. -/
theorem takings_lose_nothing {source : String}
    (scannable : ∀ lexeme ∈ (Lexeme.ofSource source).head?, Token.ofLexeme? lexeme ≠ none) :
    ∃ first, Cursor.openSource source = .done () first ∧
      (∀ steps, (∀ step ∈ steps, Session.Step.Takes step) →
        (∀ step, step.Takes →
          (Session.behind first steps).lookahead = .finish ∨
              step ≠ Session.fitting (Session.behind first steps).lookahead →
            ∃ fault, step.run (Session.behind first steps) =
              .failed fault (Session.behind first steps)) ∧
        (Session.perform first steps).filterMap Session.returned? <+: sourceTokens source ∧
        (Session.perform first steps).filterMap Session.reported? <+: rejectedTexts source) ∧
      (∃ steps, Session.Exhausts first steps) ∧
      ∀ steps, Session.Exhausts first steps →
        (Session.perform first steps).filterMap Session.returned? = sourceTokens source ∧
        (Session.perform first steps).filterMap Session.reported? = rejectedTexts source ∧
        steps.length = (Lexeme.ofSource source).length := by
  obtain ⟨first, opened⟩ := Cursor.open_of_scannable scannable
  refine ⟨first, opened, ?_, Session.exists_exhausts first, ?_⟩
  · intro steps takes
    refine ⟨?_, ⟨_, Session.returned_and_ahead opened takes⟩,
      ⟨_, Session.reported_and_ahead opened takes⟩⟩
    intro step stepTakes wrong
    obtain ⟨fault, refused, _⟩ := Session.run_refused stepTakes wrong
    exact ⟨fault, refused⟩
  · intro steps exhausts
    obtain ⟨intact, stream⟩ := Cursor.stream_of_open opened
    obtain ⟨intactLast, finished⟩ := exhausts.intact_and_finished intact
    have nothing := (Cursor.stream_eq_nil_iff intactLast).mpr finished
    have tokens := Session.returned_and_ahead opened exhausts.takes
    have rejected := Session.reported_and_ahead opened exhausts.takes
    rw [nothing, List.filterMap_nil, List.append_nil] at tokens rejected
    refine ⟨tokens, rejected, ?_⟩
    rw [exhausts.length intact, stream, List.length_map]

/-- The parenthesis is taken at the second attempt, behind the unknown run; a number asked for in between
changes nothing. -/
theorem parenthesis_taken_behind_unknown_run :
    ∃ first, Cursor.openSource "($)2" = .done () first ∧
      (∃ fault, Session.Step.takeNumber.run (Session.behind first [.takeOperator]) =
        .failed fault (Session.behind first [.takeOperator])) ∧
      (Session.perform first [.takeOperator, .takeNumber, .takeOperator]).filterMap
        Session.returned? <+: sourceTokens "($)2" ∧
      Session.Exhausts first [.takeOperator, .takeOperator, .takeOperator, .takeNumber] ∧
      (Session.perform first [.takeOperator, .takeOperator, .takeOperator, .takeNumber]).filterMap
        Session.reported? = rejectedTexts "($)2" := by
  have scannable : ∀ lexeme ∈ (Lexeme.ofSource "($)2").head?, Token.ofLexeme? lexeme ≠ none := by
    decide +kernel
  obtain ⟨first, opened, fronts, _, whole⟩ := takings_lose_nothing scannable
  have place : first = (Cursor.openSource "($)2").cursor := by
    rw [opened]
    rfl
  have takesOne : ∀ step ∈ [Session.Step.takeOperator], step.Takes := by
    simp [Session.Step.Takes]
  have takesThree : ∀ step ∈ [Session.Step.takeOperator, .takeNumber, .takeOperator],
      step.Takes := by
    simp [Session.Step.Takes]
  have wrong : Session.Step.takeNumber ≠
      Session.fitting (Session.behind first [.takeOperator]).lookahead := by
    rw [place]
    decide +kernel
  have exhausts : Session.Exhausts first
      [.takeOperator, .takeOperator, .takeOperator, .takeNumber] := by
    rw [place]
    simp only [Session.Exhausts]
    decide +kernel
  exact ⟨first, opened, (fronts _ takesOne).1 _ (Or.inl rfl) (Or.inr wrong),
    (fronts _ takesThree).2.1, exhausts, (whole _ exhausts).2.1⟩

end Calculator
