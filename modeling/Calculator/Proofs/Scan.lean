import Calculator.Evaluation
import Calculator.Grammar

/-!
# Taking tokens from a source

A cursor that no bad lexeme has stopped stands before a run of lexemes: the first is its look-ahead and
the others are still to be scanned. Taking the look-ahead moves it behind one lexeme, or fails at the
next one. `taken` are the tokens of the lexemes behind it, which are the tokens taken so far.
-/

set_option autoImplicit false

namespace Calculator

namespace Outcome

variable {α β γ : Type}

theorem map_map (first : α → β) (second : β → γ) (outcome : Outcome α) :
    (outcome.map first).map second = outcome.map fun answer => second (first answer) := by
  cases outcome <;> rfl

theorem map_done {change : α → β} {outcome : Outcome α} {answer : β} {next : Cursor}
    (finished : outcome.map change = .done answer next) :
    ∃ inner, outcome = .done inner next ∧ change inner = answer := by
  cases outcome with
  | done inner cursor =>
      cases finished
      exact ⟨inner, rfl, rfl⟩
  | failed fault cursor => cases finished

theorem map_failed {change : α → β} {outcome : Outcome α} {fault : Fault} {stopped : Cursor}
    (broken : outcome.map change = .failed fault stopped) : outcome = .failed fault stopped := by
  cases outcome with
  | done inner cursor => cases broken
  | failed other cursor =>
      cases broken
      rfl

end Outcome

def Token.groupsAfter : Token → Nat → Nat
  | .symbol operator, openGroups => operator.groupsAfter openGroups
  | _, openGroups => openGroups

theorem Token.is_among_singleton {token : Token} {operator : Operator} :
    token.isAmong [operator] = true ↔ token = .symbol operator := by
  cases token <;> simp [Token.isAmong]

theorem Token.is_number_iff {token : Token} :
    token.isNumber = true ↔ ∃ value, token = .number value := by
  cases token <;> simp [Token.isNumber]

theorem Token.is_finish_iff {token : Token} : token.isFinish = true ↔ token = .finish := by
  cases token <;> simp [Token.isFinish]

theorem Token.is_among_iff {token : Token} {candidates : List Operator} :
    token.isAmong candidates = true ↔ ∃ operator ∈ candidates, token = .symbol operator := by
  cases token <;> simp [Token.isAmong]

theorem Token.is_among_append {token : Token} {first second : List Operator} :
    token.isAmong (first ++ second) = false ↔
      token.isAmong first = false ∧ token.isAmong second = false := by
  cases token <;> simp [Token.isAmong]

theorem Token.is_among_nil {token : Token} : token.isAmong [] = false := by
  cases token <;> rfl

theorem Token.groups_after_le {token : Token} (closed : token ≠ .symbol .openParen)
    (openGroups : Nat) : token.groupsAfter openGroups ≤ openGroups := by
  cases token with
  | number value => exact Nat.le_refl _
  | finish => exact Nat.le_refl _
  | symbol operator =>
      cases operator with
      | openParen => exact absurd rfl closed
      | closeParen => exact Nat.sub_le openGroups 1
      | _ => exact Nat.le_refl _

theorem Token.of_lexeme_ne_finish (lexeme : Lexeme) : Token.ofLexeme? lexeme ≠ some .finish := by
  unfold Token.ofLexeme?
  cases lexeme.kind <;> simp

theorem Token.of_lexemes_snoc {front : List Lexeme} {lexeme : Lexeme} {tokens : List Token} {token : Token}
    (accepted : front.map ofLexeme? = tokens.map some) (known : ofLexeme? lexeme = some token) :
    (front ++ [lexeme]).map ofLexeme? = (tokens ++ [token]).map some := by
  rw [List.map_append, accepted, List.map_append, List.map_singleton, known]
  rfl

theorem group_counts_cons (openGroups : Nat) (token : Token) (rest : List Token) :
    groupCounts openGroups (token :: rest) =
      token.groupsAfter openGroups :: groupCounts (token.groupsAfter openGroups) rest := by
  cases token <;> rfl

theorem group_counts_append (openGroups : Nat) (front behind : List Token) :
    groupCounts openGroups (front ++ behind) =
      groupCounts openGroups front ++
        groupCounts (front.foldl (fun count token => token.groupsAfter count) openGroups)
          behind := by
  induction front generalizing openGroups with
  | nil => rfl
  | cons token rest ih =>
      rw [List.cons_append, group_counts_cons, group_counts_cons, ih]
      rfl

theorem deepest_le_iff {tokens : List Token} {limit : Nat} :
    deepest tokens ≤ limit ↔ ∀ count ∈ groupCounts 0 tokens, count ≤ limit := by
  unfold deepest
  induction groupCounts 0 tokens with
  | nil => simp
  | cons count rest ih =>
      rw [List.foldr_cons, Nat.max_le, ih]
      simp

theorem deepest_of_append {front behind : List Token} {limit : Nat}
    (shallow : deepest (front ++ behind) ≤ limit) : deepest front ≤ limit := by
  rw [deepest_le_iff] at shallow ⊢
  intro count member
  apply shallow
  rw [group_counts_append]
  exact List.mem_append_left _ member

namespace Cursor

def take (cursor : Cursor) : Outcome Token :=
  match cursor.lookahead with
  | .number _ => cursor.takeNumber.map .number
  | .symbol _ => cursor.takeOperator.map .symbol
  | .finish => .failed .numberExpected cursor

def Shows (cursor : Cursor) : List Lexeme → Prop
  | [] => cursor.lookahead = .finish ∧ cursor.text = "" ∧ cursor.pending = []
  | lexeme :: rest =>
      Token.ofLexeme? lexeme = some cursor.lookahead ∧ cursor.text = lexeme.text ∧
        cursor.pending = rest

/-- The tokens of the lexemes of a source that the cursor has behind it. -/
def taken (source : String) (cursor : Cursor) : List Token :=
  let lexemes := Lexeme.ofSource source
  (lexemes.take (lexemes.length - cursor.remaining)).filterMap Token.ofLexeme?

/-- Behind the cursor are the lexemes of the tokens taken, and ahead of it are all others. -/
structure StandsIn (source : String) (cursor : Cursor) : Prop where
  behind : ((Lexeme.ofSource source).take (cursor.taken source).length).map Token.ofLexeme? =
    (cursor.taken source).map some
  ahead : cursor.Shows ((Lexeme.ofSource source).drop (cursor.taken source).length)

theorem take_operator_cases {cursor : Cursor} {operator : Operator}
    (ahead : cursor.lookahead = .symbol operator) :
    (∃ stop, cursor.takeOperator = .done operator stop ∧
        cursor.take = .done cursor.lookahead stop) ∨
      ∃ fault stopped, cursor.takeOperator = .failed fault stopped ∧
        cursor.take = .failed fault stopped := by
  simp only [take, takeOperator, ahead]
  cases (cursor.countGroup operator).advance with
  | done answer stop => exact Or.inl ⟨stop, rfl, rfl⟩
  | failed fault stopped => exact Or.inr ⟨fault, stopped, rfl, rfl⟩

theorem take_number_cases {cursor : Cursor} {value : Binary64}
    (ahead : cursor.lookahead = .number value) :
    (∃ stop, cursor.takeNumber = .done value stop ∧ cursor.take = .done cursor.lookahead stop) ∨
      ∃ fault stopped, cursor.takeNumber = .failed fault stopped ∧
        cursor.take = .failed fault stopped := by
  simp only [take, takeNumber, ahead]
  cases cursor.advance with
  | done answer stop => exact Or.inl ⟨stop, rfl, rfl⟩
  | failed fault stopped => exact Or.inr ⟨fault, stopped, rfl, rfl⟩

theorem take_eq_advance {cursor : Cursor} (waiting : cursor.lookahead ≠ .finish) :
    cursor.take =
      ({ cursor with
          openGroups := cursor.lookahead.groupsAfter cursor.openGroups } : Cursor).advance.map
        fun _ => cursor.lookahead := by
  rcases cursor with ⟨lookahead, text, openGroups, pending, log⟩
  cases lookahead with
  | number value =>
      simp only [take, takeNumber, Outcome.map_map]
      rfl
  | symbol operator =>
      simp only [take, takeOperator, Outcome.map_map]
      rfl
  | finish => exact absurd rfl waiting

theorem advance_done {cursor next : Cursor} (advanced : cursor.advance = .done () next) :
    next.Shows cursor.pending ∧ next.openGroups = cursor.openGroups := by
  unfold advance at advanced
  split at advanced
  · next finished =>
      cases advanced
      rw [finished]
      exact ⟨⟨rfl, rfl, rfl⟩, rfl⟩
  · next lexeme pending more =>
      split at advanced
      · cases advanced
      · next token known =>
          cases advanced
          rw [more]
          exact ⟨⟨known, rfl, rfl⟩, rfl⟩

theorem advance_failed {cursor stopped : Cursor} {fault : Fault}
    (stuck : cursor.advance = .failed fault stopped) :
    ∃ lexeme rest, cursor.pending = lexeme :: rest ∧ Token.ofLexeme? lexeme = none ∧
      fault = .unknownOperator lexeme.text := by
  unfold advance at stuck
  split at stuck
  · cases stuck
  · next lexeme pending more =>
      split at stuck
      · next unknown =>
          cases stuck
          exact ⟨lexeme, pending, more, unknown, rfl⟩
      · cases stuck

theorem waiting_of_take {cursor next : Cursor} {token : Token} (took : cursor.take = .done token next) :
    cursor.lookahead ≠ .finish := by
  intro finished
  simp only [take, finished] at took
  cases took

theorem take_done {cursor next : Cursor} {token : Token} {ahead : List Lexeme}
    (shows : cursor.Shows ahead) (took : cursor.take = .done token next) :
    ∃ lexeme rest, ahead = lexeme :: rest ∧ Token.ofLexeme? lexeme = some token ∧
      token = cursor.lookahead ∧ next.Shows rest ∧
        next.openGroups = token.groupsAfter cursor.openGroups := by
  have waiting := waiting_of_take took
  rw [take_eq_advance waiting] at took
  obtain ⟨_, advanced, rfl⟩ := Outcome.map_done took
  obtain ⟨showsNext, groups⟩ := advance_done advanced
  cases ahead with
  | nil => exact absurd shows.1 waiting
  | cons lexeme rest =>
      obtain ⟨known, _, pending⟩ := shows
      rw [← pending]
      exact ⟨lexeme, cursor.pending, rfl, known, rfl, showsNext, groups⟩

/-- A token that cannot be taken has a lexeme without a token behind it. -/
theorem take_failed {cursor stopped : Cursor} {fault : Fault} {ahead : List Lexeme}
    (shows : cursor.Shows ahead) (waiting : cursor.lookahead ≠ .finish)
    (stuck : cursor.take = .failed fault stopped) :
    ∃ lexeme bad rest, ahead = lexeme :: bad :: rest ∧
      Token.ofLexeme? lexeme = some cursor.lookahead ∧ Token.ofLexeme? bad = none ∧
        fault = .unknownOperator bad.text := by
  rw [take_eq_advance waiting] at stuck
  obtain ⟨bad, rest, more, unknown, named⟩ := advance_failed (Outcome.map_failed stuck)
  cases ahead with
  | nil => exact absurd shows.1 waiting
  | cons lexeme pending =>
      obtain ⟨known, _, rfl⟩ := shows
      exact ⟨lexeme, bad, rest, by rw [← more], known, unknown, named⟩

theorem remaining_of_shows {cursor : Cursor} {ahead : List Lexeme} (shows : cursor.Shows ahead) :
    cursor.remaining = ahead.length := by
  cases ahead with
  | nil =>
      obtain ⟨finished, _, pending⟩ := shows
      simp [remaining, finished, pending, Token.isFinish]
  | cons lexeme rest =>
      obtain ⟨known, _, rfl⟩ := shows
      have waiting : cursor.lookahead.isFinish = false := by
        cases token : cursor.lookahead with
        | number value => rfl
        | symbol operator => rfl
        | finish =>
            rw [token] at known
            exact absurd known (Token.of_lexeme_ne_finish lexeme)
      rw [remaining_of_waiting cursor waiting, List.length_cons]

theorem taken_of_shows {source : String} {cursor : Cursor} {behind ahead : List Lexeme}
    {tokens : List Token} (split : Lexeme.ofSource source = behind ++ ahead)
    (accepted : behind.map Token.ofLexeme? = tokens.map some) (shows : cursor.Shows ahead) :
    cursor.taken source = tokens := by
  have count : (behind ++ ahead).length - ahead.length = behind.length := by simp
  have values : behind.filterMap Token.ofLexeme? = tokens := by
    have flattened := congrArg (List.filterMap id) accepted
    simpa [List.filterMap_map, Function.comp_def] using flattened
  simp only [taken, split, remaining_of_shows shows, count, List.take_left, values]

theorem stands_in_of_shows {source : String} {cursor : Cursor} {behind ahead : List Lexeme}
    {tokens : List Token} (split : Lexeme.ofSource source = behind ++ ahead)
    (accepted : behind.map Token.ofLexeme? = tokens.map some) (shows : cursor.Shows ahead) :
    cursor.StandsIn source := by
  have taken := taken_of_shows split accepted shows
  have count : behind.length = tokens.length := by
    simpa using congrArg List.length accepted
  constructor
  · rw [taken, ← count, split, List.take_left]
    exact accepted
  · rw [taken, ← count, split, List.drop_left]
    exact shows

theorem stands_in_of_open {source : String} {first : Cursor}
    (opened : openSource source = .done () first) :
    first.StandsIn source ∧ first.taken source = [] := by
  obtain ⟨shows, _⟩ := advance_done opened
  have split : Lexeme.ofSource source = [] ++ (ofSource source).pending := rfl
  have accepted : ([] : List Lexeme).map Token.ofLexeme? = ([] : List Token).map some := rfl
  exact ⟨stands_in_of_shows split accepted shows, taken_of_shows split accepted shows⟩

theorem stands_in_of_take {source : String} {cursor next : Cursor} {token : Token}
    (stands : cursor.StandsIn source) (took : cursor.take = .done token next) :
    next.StandsIn source ∧ next.taken source = cursor.taken source ++ [token] := by
  obtain ⟨lexeme, rest, more, known, _, shows, _⟩ := take_done stands.ahead took
  have split : Lexeme.ofSource source =
      (Lexeme.ofSource source).take (cursor.taken source).length ++ [lexeme] ++ rest := by
    rw [List.append_assoc, List.singleton_append, ← more, List.take_append_drop]
  have accepted := Token.of_lexemes_snoc stands.behind known
  exact ⟨stands_in_of_shows split accepted shows, taken_of_shows split accepted shows⟩

end Cursor

end Calculator
