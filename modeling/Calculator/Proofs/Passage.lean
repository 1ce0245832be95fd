import Calculator.Proofs.Chain

/-!
# What a rule has taken

A rule that has a value has taken the tokens of a part, or of the links of a chain, and the value is that
of what it took. `Cursor.Passes` is what every taking of tokens preserves: nothing ahead is lost or moved,
the groups are counted, and no parenthesis taken opens a group beyond the limit.
-/

set_option autoImplicit false

namespace Calculator

theorem Cursor.lookahead_of_take_operator {cursor stop : Cursor} {operator : Operator}
    (took : cursor.takeOperator = .done operator stop) : cursor.lookahead = .symbol operator := by
  cases view : cursor.lookahead with
  | number value =>
      rw [Cursor.takeOperator, view] at took
      cases took
  | finish =>
      rw [Cursor.takeOperator, view] at took
      cases took
  | symbol taken =>
      rw [Cursor.takeOperator, view] at took
      obtain ⟨_, _, rfl⟩ := Outcome.map_done took
      rfl

/-- The cursor has taken the tokens and stands behind them at `stop`. -/
structure Cursor.Passes (cursor : Cursor) (tokens : List Token) (stop : Cursor) : Prop where
  ahead : cursor.Splits tokens stop.stream
  groups : stop.openGroups = groupsBehind cursor.openGroups tokens
  room : NestsWithin cursor.openGroups tokens
  intact : cursor.Intact → stop.Intact

namespace Cursor.Passes

variable {cursor middle stop : Cursor} {front behind tokens : List Token}

theorem refl (cursor : Cursor) : cursor.Passes [] cursor where
  ahead := ⟨[], rfl, rfl⟩
  groups := rfl
  room := trivial
  intact := id

theorem trans (first : cursor.Passes front middle) (second : middle.Passes behind stop) :
    cursor.Passes (front ++ behind) stop where
  ahead := by
    obtain ⟨gone, split, accepted⟩ := first.ahead
    obtain ⟨more, splitMore, acceptedMore⟩ := second.ahead
    refine ⟨gone ++ more, ?_, ?_⟩
    · rw [split, splitMore, List.append_assoc]
    · rw [List.map_append, List.map_append, accepted, acceptedMore]
  groups := by rw [second.groups, first.groups, groups_behind_append]
  room := by
    rw [nests_within_append, ← first.groups]
    exact ⟨first.room, second.room⟩
  intact := fun before => second.intact (first.intact before)

theorem remaining (passes : cursor.Passes tokens stop) :
    tokens.length + stop.remaining = cursor.remaining := by
  obtain ⟨gone, split, accepted⟩ := passes.ahead
  have length := congrArg List.length accepted
  rw [List.length_map, List.length_map] at length
  rw [← length, ← stop.stream_length, ← cursor.stream_length, split, List.length_append]

theorem of_take (took : cursor.take = .done cursor.lookahead stop)
    (shallow : cursor.lookahead = .symbol .openParen → stop.openGroups ≤ nestingLimit) :
    cursor.Passes [cursor.lookahead] stop := by
  rcases cursor.take_cases with
    ⟨_, failed⟩ | ⟨waiting, ⟨next, answered, shows, groups⟩ | ⟨_, _, _, _, failed⟩⟩
  · rw [took] at failed
    cases failed
  · rw [took] at answered
    cases answered
    refine ⟨⟨[⟨some cursor.lookahead, cursor.text⟩], ?_, rfl⟩, groups, ⟨?_, trivial⟩, ?_⟩
    · rw [Cursor.stream_of_waiting waiting, Cursor.stream_of_shows shows]
      rfl
    · intro opens
      have limited := shallow opens
      rw [groups, opens] at limited
      exact limited
    · exact fun _ => ⟨_, shows⟩
  · rw [took] at failed
    cases failed

theorem of_walk {state last : Reading} (walk : Walk state cursor tokens last stop) :
    cursor.Passes tokens stop := by
  induction walk with
  | stay state cursor => exact refl cursor
  | go step more ih => exact (of_take step.took step.shallow).trans ih

theorem of_take_operator {operator : Operator} (plain : operator ≠ .openParen)
    (took : cursor.takeOperator = .done operator stop) :
    cursor.Passes [.symbol operator] stop := by
  have view := lookahead_of_take_operator took
  rcases Cursor.take_operator_cases view with ⟨next, answered, token⟩ | ⟨_, _, failed, _⟩
  · rw [took] at answered
    cases answered
    rw [← view]
    apply of_take token
    intro opens
    rw [view] at opens
    cases opens
    exact absurd rfl plain
  · rw [took] at failed
    cases failed

end Cursor.Passes

theorem Outcome.and_then_done {α β : Type} {outcome : Outcome α} {more : α → Cursor → Outcome β}
    {answer : β} {stop : Cursor} (finished : outcome.andThen more = .done answer stop) :
    ∃ first next, outcome = .done first next ∧ more first next = .done answer stop := by
  cases outcome with
  | done first next => exact ⟨first, next, rfl, finished⟩
  | failed fault stopped => cases finished

theorem Outcome.eq_done {α : Type} {outcome : Outcome α} {answer : α}
    (answered : outcome.toExcept.toOption = some answer) : outcome = .done answer outcome.cursor := by
  cases outcome with
  | done other stop =>
      cases answered
      rfl
  | failed fault stopped => cases answered

theorem part_of_parse {category : Category} {cursor stop : Cursor} {value : Binary64}
    (parsed : parse category.rule cursor = .done value stop) :
    ∃ tree : Tree category, tree.value = .ok value ∧ cursor.Passes tree.tokens stop ∧
      stop.lookahead.isAmong category.continuations = false := by
  have asked : category = .group → ¬cursor.lookahead.isNumber = true := by
    rintro rfl number
    rw [Category.rule, parse_group_of_number number] at parsed
    cases parsed
  have follows := follows_home category asked
  rw [parsed] at follows
  obtain ⟨tokens, last, walk, tree, rfl, valued, stops⟩ := follows
  have same : tree.tokens = tokens := by
    have read := Reading.read_tokens walk.read
    rw [Context.settle_tokens, Context.want_tokens] at read
    exact List.append_cancel_left read
  rw [← same] at walk
  exact ⟨tree, valued, .of_walk walk, stops⟩

namespace Chain

variable {chain : Chain}

/-- What a tail has taken is a chain. The induction is on the tokens that remain, as the tail turns. -/
theorem links_of_parse {left value : Binary64} {cursor stop : Cursor}
    (parsed : parse (chain.tail left) cursor = .done value stop) :
    ∃ links : List (Link chain), fold left links = .ok value ∧ cursor.Passes (tokens links) stop ∧
      stop.lookahead.isAmong (continuations links) = false ∧ (links = [] → stop = cursor) := by
  induction bound : cursor.remaining using Nat.strongRecOn generalizing left cursor with
  | ind remaining ih =>
      rw [parse_tail] at parsed
      split at parsed
      · next waiting =>
          obtain ⟨operator, next, took, parsed⟩ := Outcome.and_then_done parsed
          obtain ⟨right, middle, operand, parsed⟩ := Outcome.and_then_done parsed
          obtain ⟨folded, same, combined, parsed⟩ := Outcome.and_then_done parsed
          have falls := take_operator_falls waiting took
          have keeps := parse_remaining operand
          have listed : operator ∈ chain.operators := by
            rw [Cursor.lookahead_of_take_operator took] at waiting
            simpa [Token.isAmong] using waiting
          obtain ⟨tree, valued, passed, stops⟩ := part_of_parse operand
          obtain ⟨result, evaluated⟩ := combine_listed listed left right
          rw [evaluated] at combined
          cases combined
          obtain ⟨links, total, further, ended, unmoved⟩ := ih middle.remaining (by omega) parsed rfl
          let link : Link chain := ⟨operator, listed, tree⟩
          have plain := (Operator.no_paren operator (listed_known listed)).1
          refine ⟨link :: links, ?_, ?_, ?_, fun nothing => absurd nothing (List.cons_ne_nil _ _)⟩
          · rw [fold_cons valued, evaluated]
            exact total
          · exact ((Cursor.Passes.of_take_operator plain took).trans passed).trans further
          · cases links with
            | nil =>
                rw [unmoved rfl] at ended ⊢
                exact Token.is_among_append.mpr ⟨ended, stops⟩
            | cons second others => exact ended
      · next stays =>
          cases parsed
          exact ⟨[], rfl, .refl _, Bool.eq_false_iff.mpr stays, fun _ => rfl⟩

end Chain

end Calculator
