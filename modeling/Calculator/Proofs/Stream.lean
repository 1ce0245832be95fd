import Calculator.Proofs.Scan

/-!
# The stream ahead of a cursor

What a cursor has ahead is its look-ahead and the lexemes behind it that have not been scanned, each with
its token, if it has one, and its text. `Cursor.take_cases` says all that taking a token can do to them:
nothing at the end, one piece gone, or one piece gone from behind the look-ahead because it has no token.
-/

set_option autoImplicit false

namespace Calculator

structure Piece where
  token? : Option Token
  text : String
  deriving DecidableEq

def Lexeme.piece (lexeme : Lexeme) : Piece where
  token? := Token.ofLexeme? lexeme
  text := lexeme.text

namespace Cursor

/-- The look-ahead, if it can be taken, and the pieces not yet scanned. -/
def stream (cursor : Cursor) : List Piece :=
  if cursor.lookahead = .finish then
    cursor.pending.map Lexeme.piece
  else
    { token? := some cursor.lookahead, text := cursor.text } :: cursor.pending.map Lexeme.piece

def Splits (cursor : Cursor) (tokens : List Token) (rest : List Piece) : Prop :=
  ∃ gone, cursor.stream = gone ++ rest ∧ gone.map Piece.token? = tokens.map some

/-- The look-ahead is that of a lexeme, or the end with nothing behind it. -/
def Intact (cursor : Cursor) : Prop :=
  ∃ ahead, cursor.Shows ahead

variable {cursor next : Cursor} {ahead : List Lexeme}

theorem stream_of_waiting (waiting : cursor.lookahead ≠ .finish) :
    cursor.stream =
      { token? := some cursor.lookahead, text := cursor.text } :: cursor.pending.map Lexeme.piece :=
  if_neg waiting

theorem stream_length (cursor : Cursor) : cursor.stream.length = cursor.remaining := by
  by_cases finished : cursor.lookahead = .finish
  · rw [stream, if_pos finished, List.length_map, remaining, if_pos (Token.is_finish_iff.mpr finished)]
    rfl
  · have waiting : cursor.lookahead.isFinish = false :=
      Bool.eq_false_iff.mpr fun same => finished (Token.is_finish_iff.mp same)
    rw [stream_of_waiting finished, List.length_cons, List.length_map, remaining_of_waiting cursor waiting]

theorem stream_of_shows (shows : cursor.Shows ahead) : cursor.stream = ahead.map Lexeme.piece := by
  cases ahead with
  | nil =>
      obtain ⟨finished, _, nothing⟩ := shows
      rw [stream, if_pos finished, nothing]
  | cons lexeme rest =>
      obtain ⟨known, written, pending⟩ := shows
      have waiting : cursor.lookahead ≠ .finish := by
        intro finished
        rw [finished] at known
        exact Token.of_lexeme_ne_finish lexeme known
      rw [stream_of_waiting waiting, List.map_cons, Lexeme.piece, known, written, pending]

theorem stream_eq_nil_iff (intact : cursor.Intact) :
    cursor.stream = [] ↔ cursor.lookahead = .finish := by
  obtain ⟨ahead, shows⟩ := intact
  constructor
  · intro nothing
    rw [stream_of_shows shows, List.map_eq_nil_iff] at nothing
    rw [nothing] at shows
    exact shows.1
  · intro finished
    cases ahead with
    | nil => exact stream_of_shows shows
    | cons lexeme rest =>
        have known := shows.1
        rw [finished] at known
        exact absurd known (Token.of_lexeme_ne_finish lexeme)

theorem stream_head (intact : cursor.Intact) {first : Piece} (member : first ∈ cursor.stream.head?) :
    first.token? = some cursor.lookahead ∧ cursor.lookahead ≠ .finish := by
  by_cases finished : cursor.lookahead = .finish
  · rw [(stream_eq_nil_iff intact).mpr finished] at member
    cases member
  · rw [stream_of_waiting finished] at member
    cases member
    exact ⟨rfl, finished⟩

/-- The cursor behind the look-ahead when the lexeme after it has no token: that lexeme is gone, and what
the look-ahead does to the groups is done. -/
def skipping (cursor : Cursor) (rest : List Lexeme) : Cursor :=
  { cursor with
    openGroups := cursor.lookahead.groupsAfter cursor.openGroups
    pending := rest }

theorem advance_of_unknown {bad : Lexeme} {rest : List Lexeme} (more : cursor.pending = bad :: rest)
    (unknown : Token.ofLexeme? bad = none) :
    cursor.advance = .failed (.unknownOperator bad.text) { cursor with pending := rest } := by
  rcases cursor with ⟨lookahead, text, openGroups, pending, log⟩
  cases more
  simp only [advance, unknown]

/-- All that an attempt to take the look-ahead can do. -/
theorem take_cases (cursor : Cursor) :
    cursor.lookahead = .finish ∧ cursor.take = .failed .numberExpected cursor ∨
      cursor.lookahead ≠ .finish ∧
        ((∃ next, cursor.take = .done cursor.lookahead next ∧ next.Shows cursor.pending ∧
            next.openGroups = cursor.lookahead.groupsAfter cursor.openGroups) ∨
          ∃ bad rest, cursor.pending = bad :: rest ∧ Token.ofLexeme? bad = none ∧
            cursor.take = .failed (.unknownOperator bad.text) (cursor.skipping rest)) := by
  by_cases finished : cursor.lookahead = .finish
  · exact Or.inl ⟨finished, by simp only [take, finished]⟩
  · refine Or.inr ⟨finished, ?_⟩
    rw [take_eq_advance finished]
    cases advanced : ({ cursor with
        openGroups := cursor.lookahead.groupsAfter cursor.openGroups } : Cursor).advance with
    | done answer next =>
        obtain ⟨shows, groups⟩ := advance_done advanced
        exact Or.inl ⟨next, rfl, shows, groups⟩
    | failed fault stopped =>
        obtain ⟨bad, rest, more, unknown, _⟩ := advance_failed advanced
        rw [advance_of_unknown more unknown] at advanced
        cases advanced
        exact Or.inr ⟨bad, rest, more, unknown, rfl⟩

theorem intact_of_skipping {rest : List Lexeme} (intact : cursor.Intact)
    (waiting : cursor.lookahead ≠ .finish) : (cursor.skipping rest).Intact := by
  obtain ⟨ahead, shows⟩ := intact
  cases ahead with
  | nil => exact absurd shows.1 waiting
  | cons lexeme pending => exact ⟨lexeme :: rest, shows.1, shows.2.1, rfl⟩

theorem intact_of_take (intact : cursor.Intact) : cursor.take.cursor.Intact := by
  rcases cursor.take_cases with
    ⟨_, failed⟩ | ⟨waiting, ⟨next, took, shows, _⟩ | ⟨bad, rest, _, _, failed⟩⟩
  · rw [failed]
    exact intact
  · rw [took]
    exact ⟨cursor.pending, shows⟩
  · rw [failed]
    exact intact_of_skipping intact waiting

end Cursor

end Calculator
