import Calculator.Proofs.SourceReading

/-!
# Why an evaluation fails

`Cause` says of the tokens of a source, up to the first lexeme that has none, for which fault an
evaluation fails. It mentions no cursor and no machine: only whether an expression can begin so, how deep
its groups are, and whether a factorial among its tokens has no value. `cause_of_evaluate` finds the
cause from the place where the walk halts.
-/

set_option autoImplicit false

namespace Calculator

/-- The lexemes have the tokens `all`, as far as `rest`, and the first of `rest` has none. -/
inductive ReadsAs (rest : List Lexeme) : List Lexeme → List Token → Prop where
  | stop (rejected : ∀ lexeme ∈ rest.head?, Token.ofLexeme? lexeme = none) :
      ReadsAs rest rest []
  | token {lexeme : Lexeme} {token : Token} {lexemes : List Lexeme} {all : List Token}
      (known : Token.ofLexeme? lexeme = some token) (more : ReadsAs rest lexemes all) :
      ReadsAs rest (lexeme :: lexemes) (token :: all)

theorem viable_nil : Viable [] :=
  ⟨Tree.filler.tokens, Tree.filler, rfl⟩

theorem not_faulty_nil : ¬FaultyCall [] :=
  fun faulty => List.not_mem_nil faulty.closed

/-- The cause of a fault, for a source with the tokens `all` up to the lexemes `rest`, of which the first
has no token. A check behind a parenthesis is made only when the lexeme after it has been scanned. -/
inductive Cause (all : List Token) (rest : List Lexeme) : Fault → Prop where
  | refused {fault : Fault} (syntactic : fault.isSyntactic = true)
      (dead : ¬Viable all ∨ rest = [] ∧ ¬IsSentence all) : Cause all rest fault
  | unknown {bad : Lexeme} {behind : List Lexeme} (split : rest = bad :: behind)
      (viable : Viable all) (shallow : deepest all.dropLast ≤ nestingLimit)
      (whole : ¬FaultyCall all.dropLast) : Cause all rest (.unknownOperator bad.text)
  | tooDeep (front more : List Token) (split : all = front ++ [.symbol .openParen] ++ more)
      (scanned : more = [] → rest = []) (viable : Viable (front ++ [.symbol .openParen]))
      (shallow : deepest front ≤ nestingLimit)
      (deep : ¬deepest (front ++ [.symbol .openParen]) ≤ nestingLimit)
      (whole : ¬FaultyCall front) : Cause all rest (.nestingTooDeep nestingLimit)
  | undefined (front more : List Token) (split : all = front ++ [.symbol .closeParen] ++ more)
      (scanned : more = [] → rest = []) (viable : Viable (front ++ [.symbol .closeParen]))
      (shallow : deepest front ≤ nestingLimit) (whole : ¬FaultyCall front)
      (faulty : FaultyCall (front ++ [.symbol .closeParen])) : Cause all rest .integerExpected

namespace ReadsAs

variable {rest lexemes behind : List Lexeme} {all tokens : List Token} {bad : Lexeme}

theorem of_split {front : List Lexeme} (accepted : front.map Token.ofLexeme? = all.map some)
    (rejected : ∀ lexeme ∈ rest.head?, Token.ofLexeme? lexeme = none) :
    ReadsAs rest (front ++ rest) all := by
  induction front generalizing all with
  | nil =>
      rw [List.map_eq_nil_iff.mp accepted.symm]
      exact .stop rejected
  | cons lexeme front ih =>
      cases all with
      | nil => cases accepted
      | cons token all =>
          injection accepted with known more
          exact .token known (ih more)

theorem of_append (reads : ReadsAs rest (behind ++ lexemes) all)
    (accepted : behind.map Token.ofLexeme? = tokens.map some) :
    ∃ more, all = tokens ++ more ∧ ReadsAs rest lexemes more := by
  induction behind generalizing all tokens with
  | nil =>
      rw [List.map_eq_nil_iff.mp accepted.symm]
      exact ⟨all, rfl, reads⟩
  | cons lexeme behind ih =>
      cases tokens with
      | nil => cases accepted
      | cons token tokens =>
          injection accepted with known acceptedRest
          cases reads with
          | stop rejected =>
              rw [rejected lexeme rfl] at known
              cases known
          | token found later =>
              rw [found] at known
              cases known
              obtain ⟨more, rfl, left⟩ := ih later acceptedRest
              exact ⟨more, rfl, left⟩

theorem next_token {lexeme : Lexeme} {token : Token}
    (reads : ReadsAs rest (lexeme :: behind) all) (known : Token.ofLexeme? lexeme = some token) :
    ∃ others, all = token :: others ∧ ReadsAs rest behind others := by
  cases reads with
  | stop rejected =>
      rw [rejected lexeme rfl] at known
      cases known
  | token found later =>
      rw [found] at known
      cases known
      exact ⟨_, rfl, later⟩

theorem at_rejected (reads : ReadsAs rest (bad :: behind) all)
    (unknown : Token.ofLexeme? bad = none) : rest = bad :: behind ∧ all = [] := by
  cases reads with
  | stop rejected => exact ⟨rfl, rfl⟩
  | token found later =>
      rw [found] at unknown
      cases unknown

theorem at_end (reads : ReadsAs rest [] all) : rest = [] ∧ all = [] := by
  cases reads with
  | stop rejected => exact ⟨rfl, rfl⟩

theorem nothing_left {cursor : Cursor} (reads : ReadsAs rest lexemes all)
    (shows : cursor.Shows lexemes) (nothing : all = []) : rest = [] := by
  cases reads with
  | token found later => cases nothing
  | stop rejected =>
      cases rest with
      | nil => rfl
      | cons lexeme behind =>
          have unknown := rejected lexeme rfl
          rw [shows.1] at unknown
          cases unknown

end ReadsAs

namespace Reached

variable {source : String} {tokens all : List Token} {state : Reading} {place : Cursor}
  {ahead rest : List Lexeme}

theorem ahead_reads (reached : Reached source tokens state place ahead)
    (reads : ReadsAs rest (Lexeme.ofSource source) all) :
    ∃ more, all = tokens ++ more ∧ ReadsAs rest ahead more := by
  obtain ⟨behind, split, accepted⟩ := reached.split
  rw [split] at reads
  exact reads.of_append accepted

theorem whole (reached : Reached source tokens state place ahead) : ¬FaultyCall tokens :=
  Reading.not_faulty_of_defined reached.read reached.defined

theorem too_deep {stopped : Cursor} (reached : Reached source tokens state place ahead)
    (took : place.take = .done place.lookahead stopped) (deep : nestingLimit < stopped.openGroups) :
    ¬deepest (tokens ++ [place.lookahead]) ≤ nestingLimit := by
  intro shallow
  obtain ⟨_, _, _, _, _, _, groups⟩ := Cursor.take_done reached.shows took
  have member : stopped.openGroups ∈ groupCounts 0 (tokens ++ [place.lookahead]) := by
    rw [group_counts_append, group_counts_cons, ← reached.groups, ← groups]
    exact List.mem_append_right _ List.mem_cons_self
  have bounded := deepest_le_iff.mp shallow stopped.openGroups member
  omega

theorem cause (reached : Reached source tokens state place ahead) {fault : Fault}
    {stopped : Cursor} (reads : ReadsAs rest (Lexeme.ofSource source) all)
    (halts : Halts state place fault stopped) : Cause all rest fault := by
  obtain ⟨more, rfl, aheadReads⟩ := reached.ahead_reads reads
  cases halts with
  | refused blocked unfinished _ =>
      apply Cause.refused (Reading.refusal_is_syntactic state place.text)
      cases ahead with
      | nil =>
          obtain ⟨rfl, rfl⟩ := aheadReads.at_end
          right
          constructor
          · rfl
          · intro sentence
            rw [List.append_nil] at sentence
            exact unfinished reached.shows.1 (Reading.complete_of_sentence reached.read sentence)
      | cons lexeme pending =>
          obtain ⟨others, rfl, _⟩ := aheadReads.next_token reached.shows.1
          left
          intro viable
          rw [← List.singleton_append, ← List.append_assoc] at viable
          exact Reading.not_viable_of_blocked reached.read blocked viable.of_append
  | unknown read stuck =>
      have waiting := Reading.waiting_of_step read
      obtain ⟨lexeme, bad, behind, rfl, known, unknown, rfl⟩ :=
        Cursor.take_failed reached.shows waiting stuck
      obtain ⟨others, rfl, pendingReads⟩ := aheadReads.next_token known
      obtain ⟨left, rfl⟩ := pendingReads.at_rejected unknown
      have last : (tokens ++ [place.lookahead]).dropLast = tokens := List.dropLast_concat
      refine .unknown left (Reading.viable_of_step reached.read read) ?_ ?_
      · rw [last]
        exact reached.shallow
      · rw [last]
        exact reached.whole
  | tooDeep read took opened deep =>
      obtain ⟨lexeme, pending, rfl, known, _, showsAfter, _⟩ :=
        Cursor.take_done reached.shows took
      obtain ⟨others, rfl, pendingReads⟩ := aheadReads.next_token known
      have tooDeep := reached.too_deep took deep
      rw [opened] at read tooDeep
      refine .tooDeep tokens others ?_ (pendingReads.nothing_left showsAfter)
        (Reading.viable_of_step reached.read read) reached.shallow tooDeep reached.whole
      rw [opened, List.append_assoc, List.singleton_append]
  | undefined read took undefined =>
      obtain ⟨lexeme, pending, rfl, known, _, showsAfter, _⟩ :=
        Cursor.take_done reached.shows took
      obtain ⟨others, rfl, pendingReads⟩ := aheadReads.next_token known
      have closed := Reading.close_paren_of_undefined read reached.defined undefined
      rw [closed] at read
      refine .undefined tokens others ?_ (pendingReads.nothing_left showsAfter)
        (Reading.viable_of_step reached.read read) reached.shallow reached.whole
        (Reading.faulty_of_undefined (Reading.read_snoc reached.read read) undefined)
      rw [closed, List.append_assoc, List.singleton_append]

end Reached

/-- Whatever fails, fails for a cause. -/
theorem cause_of_evaluate {expression : String} {fault : Fault} {all : List Token}
    {rest : List Lexeme}
    (reads : ReadsAs rest (Lexeme.ofSource (Text.stripWhitespace expression)) all)
    (failed : evaluate expression = .error fault) : Cause all rest fault := by
  obtain ⟨stopped, failedSource⟩ := evaluate_error_iff_failed.mp failed
  rcases read_source_failed failedSource with
    ⟨bad, behind, first, unknown, rfl⟩ | ⟨tokens, state, place, ahead, reached, halts⟩
  · rw [first] at reads
    obtain ⟨left, rfl⟩ := reads.at_rejected unknown
    exact .unknown left viable_nil (Nat.zero_le _) not_faulty_nil
  · exact reached.cause reads halts

/-- Whatever has a value has no cause to fail: its tokens are a sentence with a value. -/
theorem tree_of_evaluate {expression : String} {value : Binary64} {all : List Token}
    {rest : List Lexeme}
    (reads : ReadsAs rest (Lexeme.ofSource (Text.stripWhitespace expression)) all)
    (finished : evaluate expression = .ok value) :
    ∃ tree : Tree .expression, rest = [] ∧ all = tree.tokens ∧ deepest all ≤ nestingLimit ∧
      tree.value = .ok value := by
  obtain ⟨stop, finishedSource⟩ := evaluate_ok_iff_done.mp finished
  obtain ⟨tree, accepted, shallow, valued⟩ := read_source_done finishedSource
  rw [← List.append_nil (Lexeme.ofSource _)] at reads
  obtain ⟨more, rfl, nothing⟩ := reads.of_append accepted
  obtain ⟨rfl, rfl⟩ := nothing.at_end
  rw [List.append_nil]
  exact ⟨tree, rfl, rfl, shallow, valued⟩

end Calculator
