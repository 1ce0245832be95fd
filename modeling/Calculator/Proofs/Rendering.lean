import Calculator.Proofs.Partition
import Calculator.Proofs.Takings

/-!
# Tokens written one behind another

A token is written as one lexeme, and where no two numbers and no two names meet, the lexemes of neighbours
do not run together. So what is written is divided into the texts of the tokens, and since a text can be
divided in one way only, reading gives the tokens back.
-/

set_option autoImplicit false

namespace Calculator

namespace Token

def isName (token : Token) : Bool :=
  token.isAmong (Operator.unaryFunctions ++ Operator.binaryFunctions)

/-- What a source can hold: no numeral has a sign or is infinite. -/
def Writable : Token → Prop
  | number value => ∃ magnitude, value = .finite false magnitude
  | symbol _ => True
  | finish => False

def Apart (first second : Token) : Prop :=
  ¬(first.isNumber = true ∧ second.isNumber = true) ∧ ¬(first.isName = true ∧ second.isName = true)

def render (tokens : List Token) : String :=
  String.join (tokens.map text)

def lexemeKind : Token → Lexeme.Kind
  | number _ => .numeral
  | symbol operator => if (symbol operator).isName then .word else .mark operator
  | finish => .word

def written (token : Token) : Lexeme.Run where
  kind := token.lexemeKind
  text := token.text.toList

variable {token first second : Token}

theorem number_text (magnitude : Magnitude) :
    (number (.finite false magnitude)).text.toList =
      (Decimal.shortest magnitude.units).positional := by
  simp [text, Binary64.plainText, Binary64.textWith, Binary64.withSign]

theorem symbol_matches (operator : Operator) :
    (symbol operator).written.kind.Matches (symbol operator).written.text := by
  cases operator
  all_goals first
    | exact Lexeme.Kind.word_matches (by decide +kernel) (by decide +kernel)
    | exact ⟨_, by decide, rfl, rfl⟩

theorem symbol_of_run (operator : Operator) :
    ofRun? (symbol operator).written = some (symbol operator) := by
  cases operator <;> decide +kernel

theorem written_matches (writable : token.Writable) :
    token.written.kind.Matches token.written.text := by
  cases token with
  | number value =>
      obtain ⟨magnitude, rfl⟩ := writable
      have numeral := Numeral.shortest magnitude
      rw [written, number_text]
      exact ⟨numeral.nonempty, fun character member =>
        Lexeme.Kind.mem_numeral_characters.mpr (numeral.gathers character member)⟩
  | symbol operator => exact symbol_matches operator
  | finish => cases writable

theorem of_run_written (writable : token.Writable) : ofRun? token.written = some token := by
  cases token with
  | number value =>
      obtain ⟨magnitude, rfl⟩ := writable
      rw [written, number_text]
      exact (Numeral.shortest magnitude).token
  | symbol operator => exact symbol_of_run operator
  | finish => cases writable

theorem number_of_numeral (numeral : token.lexemeKind = .numeral) : token.isNumber = true := by
  cases token with
  | number value => rfl
  | symbol operator =>
      rw [lexemeKind] at numeral
      split at numeral <;> cases numeral
  | finish => cases numeral

theorem name_of_word (writable : token.Writable) (word : token.lexemeKind = .word) :
    token.isName = true := by
  cases token with
  | number value => cases word
  | symbol operator =>
      rw [lexemeKind] at word
      split at word
      · next name => exact name
      · cases word
  | finish => cases writable

theorem written_apart (firstWritable : first.Writable) (secondWritable : second.Writable)
    (apart : first.Apart second) : first.written.kind.Apart second.written.kind := by
  constructor
  · intro numerals
    exact apart.1 ⟨number_of_numeral numerals.1, number_of_numeral numerals.2⟩
  · intro words
    exact apart.2 ⟨name_of_word firstWritable words.1, name_of_word secondWritable words.2⟩

variable {tokens : List Token}

theorem render_to_list (tokens : List Token) :
    ((tokens.map written).map Lexeme.Run.text).flatten = (render tokens).toList := by
  induction tokens with
  | nil => rfl
  | cons token rest ih =>
      have joined : render (token :: rest) = token.text ++ render rest := String.join_cons
      rw [joined, String.toList_append, ← ih]
      rfl

theorem divides_render (writable : ∀ token ∈ tokens, token.Writable) (apart : tokens.IsChain Apart) :
    Lexeme.Divides (render tokens).toList (tokens.map written) where
  whole := render_to_list tokens
  classes := by
    rw [List.forall_mem_map]
    exact fun token member => written_matches (writable token member)
  apart := by
    rw [List.isChain_map]
    exact apart.imp_of_mem_imp fun first second firstMember secondMember =>
      written_apart (writable first firstMember) (writable second secondMember)

theorem pieces_of_render (writable : ∀ token ∈ tokens, token.Writable) (apart : tokens.IsChain Apart) :
    (Lexeme.ofSource (render tokens)).map Lexeme.piece =
      tokens.map fun token => { token? := some token, text := token.text } := by
  have runs := (divides_render writable apart).eq_runs
  rw [← Lexeme.map_run_of_source] at runs
  have pieces : (Lexeme.ofSource (render tokens)).map Lexeme.piece =
      ((Lexeme.ofSource (render tokens)).map Lexeme.run).map fun run =>
        { token? := ofRun? run, text := String.ofList run.text } := by
    rw [List.map_map]
    apply List.map_congr_left
    intro lexeme _
    rw [Function.comp_apply, of_run, Lexeme.ofList_text_run, Lexeme.piece]
  rw [pieces, ← runs, List.map_map]
  apply List.map_congr_left
  intro token member
  rw [Function.comp_apply, of_run_written (writable token member), written, String.ofList_toList]

end Token

namespace Session

theorem drain_of_done {cursor next : Cursor} {answer : Answer} (waiting : cursor.lookahead ≠ .finish)
    (answered : (fitting cursor.lookahead).run cursor = .done answer next) :
    drain cursor = ((cursor.lookahead, cursor.text) :: (drain next).1, (drain next).2) := by
  rw [drain, dif_neg (mt Token.is_finish_iff.mp waiting)]
  split
  · next other after outcome =>
      rw [answered] at outcome
      cases outcome
      rfl
  · next fault stopped outcome =>
      rw [answered] at outcome
      cases outcome

theorem drain_of_pieces {cursor : Cursor} (intact : cursor.Intact) {pairs : List (Token × String)}
    (ahead : cursor.stream = pairs.map fun pair => { token? := some pair.1, text := pair.2 }) :
    drain cursor = (pairs, none) := by
  induction pairs generalizing cursor with
  | nil =>
      have finished := (Cursor.stream_eq_nil_iff intact).mp ahead
      rw [drain, dif_pos (by rw [finished]; rfl)]
  | cons pair rest ih =>
      have waiting : cursor.lookahead ≠ .finish := by
        rw [Ne, ← Cursor.stream_eq_nil_iff intact, ahead]
        exact List.cons_ne_nil _ _
      have moves := moves_of_fitting intact waiting
      cases outcome : (fitting cursor.lookahead).run cursor with
      | done answer next =>
          have answered := drain_of_done waiting outcome
          rw [outcome] at moves
          cases moves with
          | taken next waiting intactNext split groups =>
              rw [split] at ahead
              injection ahead with first others
              injection first with token text
              rw [answered, ih intactNext others, Option.some.inj token, text]
      | failed fault stopped =>
          rw [outcome] at moves
          cases moves with
          | skipped text next others intactNext split kept same groups =>
              rw [split] at ahead
              injection ahead with _ behind
              cases rest with
              | nil => cases behind
              | cons second rest =>
                  injection behind with unknown _
                  cases unknown

end Session

/-- Tokens written one behind another are read as they were, each with its text, and to the end. -/
theorem tokens_of_render {tokens : List Token} (writable : ∀ token ∈ tokens, token.Writable)
    (apart : tokens.IsChain Token.Apart) :
    Session.tokensOf (Token.render tokens) = (tokens.map fun token => (token, token.text), none) := by
  have pieces := Token.pieces_of_render writable apart
  have scannable : ∀ lexeme ∈ (Lexeme.ofSource (Token.render tokens)).head?,
      Token.ofLexeme? lexeme ≠ none := by
    intro lexeme member unknown
    have inSource : lexeme.piece ∈ (Lexeme.ofSource (Token.render tokens)).map Lexeme.piece :=
      List.mem_map_of_mem (List.mem_of_mem_head? member)
    rw [pieces] at inSource
    obtain ⟨token, _, same⟩ := List.mem_map.mp inSource
    have known : some token = Token.ofLexeme? lexeme := congrArg Piece.token? same
    rw [unknown] at known
    cases known
  obtain ⟨first, opened⟩ := Cursor.open_of_scannable scannable
  obtain ⟨intact, stream⟩ := Cursor.stream_of_open opened
  have ahead : first.stream = (tokens.map fun token => (token, token.text)).map fun pair =>
      { token? := some pair.1, text := pair.2 } := by
    rw [stream, pieces, List.map_map]
    rfl
  rw [Session.tokensOf, opened]
  exact Session.drain_of_pieces intact ahead

/-- Names on either side of a number do not run into it, nor do two marks into one another. -/
theorem smallest_number_between_names :
    ∃ (smallest : Magnitude) (tokens : List Token), smallest.units = 1 ∧
      tokens = [.symbol .fact, .number (.finite false smallest), .symbol .pow, .symbol .minus,
        .symbol .minus] ∧
      Session.tokensOf (Token.render tokens) = (tokens.map fun token => (token, token.text), none) := by
  let smallest : Magnitude := { units := 1, representable := by decide +kernel }
  refine ⟨smallest, _, rfl, rfl, tokens_of_render ?_ ?_⟩
  · simp [Token.Writable]
  · simp [Token.Apart, Token.isNumber, Token.isName, Token.isAmong, Operator.unaryFunctions,
      Operator.binaryFunctions]

end Calculator
