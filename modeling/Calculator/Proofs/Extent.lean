import Calculator.Proofs.Acceptance
import Calculator.Proofs.LongestChain
import Calculator.Proofs.Passage

/-!
# How far each rule reads

Wherever a session has come to, also behind faults and with groups already open, each rule has a value
exactly when the stream ahead begins with a part of its kind that has the value, nothing follows that would
go on with the part, and the groups find room. It takes that part and no token more, and a tail takes the
longest chain of its level.
-/

set_option autoImplicit false

namespace Calculator

/-- The end of the source, or a lexeme with a token that is none of the operators. -/
def StopsBefore (candidates : List Operator) (rest : List Piece) : Prop :=
  ∀ first ∈ rest.head?, ∃ token, first.token? = some token ∧ token.isAmong candidates = false

theorem stops_before_iff {candidates : List Operator} {cursor : Cursor} (intact : cursor.Intact) :
    StopsBefore candidates cursor.stream ↔ cursor.lookahead.isAmong candidates = false := by
  constructor
  · intro stops
    cases ahead : cursor.stream with
    | nil =>
        rw [(Cursor.stream_eq_nil_iff intact).mp ahead]
        rfl
    | cons first rest =>
        have member : first ∈ cursor.stream.head? := by rw [ahead]; rfl
        obtain ⟨token, known, other⟩ := stops first member
        rw [(Cursor.stream_head intact member).1] at known
        cases known
        exact other
  · intro other first member
    exact ⟨cursor.lookahead, (Cursor.stream_head intact member).1, other⟩

namespace Cursor

variable {cursor stop : Cursor} {tokens : List Token} {rest : List Piece}
  {candidates : List Operator}

theorem Splits.faces (splits : cursor.Splits tokens rest) (intact : cursor.Intact)
    (stops : StopsBefore candidates rest) : cursor.Faces tokens rest where
  intact := intact
  ahead := splits
  scanned := by
    intro first member unknown
    obtain ⟨token, known, _⟩ := stops first member
    cases unknown.symm.trans known

theorem Faces.finished (faces : stop.Faces [] rest) : stop.stream = rest := by
  obtain ⟨gone, split, nothing⟩ := faces.ahead
  rw [split, List.map_eq_nil_iff.mp nothing]
  rfl

theorem Faces.stops (faces : stop.Faces [] rest) (stops : StopsBefore candidates rest) :
    stop.lookahead.isAmong candidates = false := by
  rw [← stops_before_iff faces.intact, faces.finished]
  exact stops

end Cursor

section

variable {cursor : Cursor} {value : Binary64} {rest : List Piece}

theorem parse_category_iff (category : Category) (intact : cursor.Intact) :
    (∃ stop, parse category.rule cursor = .done value stop ∧ stop.stream = rest) ↔
      ∃ tree : Tree category, tree.value = .ok value ∧ cursor.Splits tree.tokens rest ∧
        StopsBefore category.continuations rest ∧ NestsWithin cursor.openGroups tree.tokens := by
  constructor
  · intro done
    obtain ⟨stop, parsed, rfl⟩ := done
    obtain ⟨tree, valued, passes, stops⟩ := part_of_parse parsed
    exact ⟨tree, valued, passes.ahead, (stops_before_iff (passes.intact intact)).mpr stops,
      passes.room⟩
  · intro part
    obtain ⟨tree, valued, splits, stops, room⟩ := part
    have faces := splits.faces intact stops
    rw [← List.append_nil tree.tokens] at faces
    obtain ⟨stop, facesStop, _, comes⟩ := tree.is_read cursor [] rest value faces room valued
    exact ⟨stop, comes.done (facesStop.stops stops), facesStop.finished⟩

namespace Chain

variable {chain : Chain} {left : Binary64}

/-- The tail goes through a chain link by link. -/
theorem tail_reads {links : List (Link chain)} (faces : cursor.Faces (tokens links) rest)
    (room : NestsWithin cursor.openGroups (tokens links)) (valued : fold left links = .ok value)
    (stops : StopsBefore (continuations links) rest) :
    ∃ stop, parse (chain.tail left) cursor = .done value stop ∧ stop.stream = rest := by
  induction links generalizing cursor left with
  | nil =>
      cases valued
      have ended : cursor.lookahead.isAmong chain.operators = false := faces.stops stops
      refine ⟨cursor, ?_, faces.finished⟩
      rw [parse_tail, if_neg (by rw [ended]; exact Bool.false_ne_true)]
  | cons link links ih =>
      obtain ⟨right, operandValue, folded⟩ := bind_defined valued
      obtain ⟨first, combined, total⟩ := bind_defined folded
      obtain ⟨roomLink, roomRest⟩ := nests_within_append.mp room
      rw [link.balanced.whole] at roomRest
      obtain ⟨middle, facesMiddle, kept, turns⟩ :=
        Tree.link_is_read link link.operand.is_read faces roomLink operandValue combined
      rw [← kept] at roomRest
      have ended : StopsBefore (continuations links) rest ∧
          middle.lookahead.isAmong chain.operand.continuations = false := by
        cases links with
        | nil =>
            have both := Token.is_among_append.mp (facesMiddle.stops stops)
            refine ⟨?_, both.2⟩
            rw [← facesMiddle.finished, stops_before_iff facesMiddle.intact]
            exact both.1
        | cons next others =>
            refine ⟨stops, ?_⟩
            exact facesMiddle.not_among (listed_not_continuing next.listed)
      obtain ⟨stop, parsed, finished⟩ := ih facesMiddle roomRest total ended.1
      exact ⟨stop, by rw [turns ended.2, parsed], finished⟩

theorem parse_tail_iff (chain : Chain) (intact : cursor.Intact) :
    (∃ stop, parse (chain.tail left) cursor = .done value stop ∧ stop.stream = rest) ↔
      ∃ links : List (Link chain), fold left links = .ok value ∧
        cursor.Splits (tokens links) rest ∧ StopsBefore (continuations links) rest ∧
          NestsWithin cursor.openGroups (tokens links) := by
  constructor
  · intro done
    obtain ⟨stop, parsed, rfl⟩ := done
    obtain ⟨links, valued, passes, stops, _⟩ := links_of_parse parsed
    exact ⟨links, valued, passes.ahead, (stops_before_iff (passes.intact intact)).mpr stops,
      passes.room⟩
  · intro part
    obtain ⟨links, valued, splits, stops, room⟩ := part
    exact tail_reads (splits.faces intact stops) room valued stops

/-- No chain of the level that the stream begins with reaches behind the end of the tail. -/
theorem tail_reaches_furthest {stop : Cursor} (intact : cursor.Intact)
    (parsed : parse (chain.tail left) cursor = .done value stop) {links : List (Link chain)}
    (splits : cursor.Splits (tokens links) rest) : stop.stream.length ≤ rest.length := by
  obtain ⟨taken, _, passes, stops, _⟩ := links_of_parse parsed
  obtain ⟨gone, split, accepted⟩ := passes.ahead
  obtain ⟨other, otherSplit, otherAccepted⟩ := splits
  rw [split] at otherSplit
  rcases List.append_eq_append_iff.mp otherSplit with ⟨gap, rfl, behind⟩ | ⟨gap, _, behind⟩
  · cases gap with
    | nil => exact Nat.le_of_eq (congrArg List.length behind)
    | cons first gap =>
        -- The piece at which the tail stops would be the next one of a longer chain.
        have member : first ∈ stop.stream.head? := by rw [behind]; rfl
        obtain ⟨known, _⟩ := Cursor.stream_head (passes.intact intact) member
        rw [List.map_append, accepted, List.map_cons, known] at otherAccepted
        obtain ⟨front, later, written, sameFront, sameLater⟩ :=
          List.map_eq_append_iff.mp otherAccepted.symm
        have same : front = tokens taken :=
          (List.map_inj_right fun _ _ => Option.some.inj).mp sameFront
        cases later with
        | nil => cases sameLater
        | cons token more =>
            injection sameLater with named _
            rw [same, Option.some.inj named] at written
            cases stops.symm.trans (next_of_longer written)
  · rw [behind, List.length_append]
    exact Nat.le_add_left _ _

end Chain

end

def Category.Derives (category : Category) (tokens : List Token) (value : Binary64) : Prop :=
  ∃ tree : Tree category, tree.tokens = tokens ∧ tree.value = .ok value

def Chain.Derives (chain : Chain) (left : Binary64) (tokens : List Token) (value : Binary64) : Prop :=
  ∃ links : List (Link chain), Chain.tokens links = tokens ∧ fold left links = .ok value

namespace Rule

def Derives : Rule → List Token → Binary64 → Prop
  | expression => Category.expression.Derives
  | expressionTail left => Chain.sum.Derives left
  | term => Category.term.Derives
  | termTail left => Chain.product.Derives left
  | unary => Category.unary.Derives
  | factor => Category.factor.Derives
  | group => Category.group.Derives

/-- The operators that go on with what the rule has taken. A tail that has taken nothing does not stand
behind a term of its own, which a factor could go on with. -/
def continuations : Rule → List Token → List Operator
  | expression, _ => Operator.additive ++ Operator.multiplicative
  | expressionTail _, [] => Operator.additive
  | expressionTail _, _ :: _ => Operator.additive ++ Operator.multiplicative
  | term, _ => Operator.multiplicative
  | termTail _, _ => Operator.multiplicative
  | unary, _ => []
  | factor, _ => []
  | group, _ => []

/-- Ahead of the cursor, up to `rest`, is what the rule may take; nothing goes on with it, and no
parenthesis in it opens a group beyond the limit. -/
structure Reads (rule : Rule) (cursor : Cursor) (tokens : List Token) (value : Binary64)
    (rest : List Piece) : Prop where
  ahead : cursor.Splits tokens rest
  derives : rule.Derives tokens value
  stops : StopsBefore (rule.continuations tokens) rest
  room : ∀ front behind, tokens = front ++ .symbol .openParen :: behind →
    cursor.openGroups + groupsBehind 0 (front ++ [.symbol .openParen]) ≤ nestingLimit

end Rule

theorem Balanced.nests_within_iff {tokens : List Token} (balanced : Balanced tokens)
    {openGroups : Nat} :
    NestsWithin openGroups tokens ↔
      ∀ front behind, tokens = front ++ .symbol .openParen :: behind →
        openGroups + groupsBehind 0 (front ++ [.symbol .openParen]) ≤ nestingLimit := by
  rw [Calculator.nests_within_iff]
  refine forall₃_congr fun front behind split => ?_
  have within : front ++ [.symbol .openParen] <+: tokens := ⟨behind, by rw [split]; simp⟩
  rw [balanced.lifted _ within]

section

variable {cursor : Cursor} {value left : Binary64} {rest : List Piece}

/-- What a rule reads, told by the parts whose tokens it may take. -/
theorem Rule.reads_iff_part {Part : Type} (rule : Rule) (tokens : Part → List Token)
    (result : Part → Except Fault Binary64) (continuing : Part → List Operator)
    (derives : ∀ written, rule.Derives written value ↔
      ∃ part, tokens part = written ∧ result part = .ok value)
    (continuations : ∀ part, rule.continuations (tokens part) = continuing part)
    (balanced : ∀ part, Balanced (tokens part)) :
    (∃ part, result part = .ok value ∧ cursor.Splits (tokens part) rest ∧
        StopsBefore (continuing part) rest ∧ NestsWithin cursor.openGroups (tokens part)) ↔
      ∃ written, rule.Reads cursor written value rest := by
  constructor
  · intro found
    obtain ⟨part, valued, splits, stops, room⟩ := found
    refine ⟨tokens part, splits, (derives _).mpr ⟨part, rfl, valued⟩, ?_, ?_⟩
    · rw [continuations]
      exact stops
    · exact (balanced part).nests_within_iff.mp room
  · intro reads
    obtain ⟨written, splits, derived, stops, room⟩ := reads
    obtain ⟨part, rfl, valued⟩ := (derives _).mp derived
    rw [continuations] at stops
    exact ⟨part, valued, splits, stops, (balanced part).nests_within_iff.mpr room⟩

theorem parse_category_iff_reads (category : Category) (intact : cursor.Intact)
    (derives : category.rule.Derives = category.Derives)
    (continuations : ∀ tokens, category.rule.continuations tokens = category.continuations) :
    (∃ stop, parse category.rule cursor = .done value stop ∧ stop.stream = rest) ↔
      ∃ tokens, category.rule.Reads cursor tokens value rest := by
  rw [parse_category_iff category intact]
  apply category.rule.reads_iff_part Tree.tokens Tree.value fun _ => category.continuations
  · intro written
    rw [derives]
    rfl
  · exact fun tree => continuations tree.tokens
  · exact Tree.balanced

theorem parse_tail_iff_reads (chain : Chain) (intact : cursor.Intact)
    (derives : (chain.tail left).Derives = chain.Derives left)
    (continuations : ∀ links : List (Chain.Link chain),
      (chain.tail left).continuations (Chain.tokens links) = Chain.continuations links) :
    (∃ stop, parse (chain.tail left) cursor = .done value stop ∧ stop.stream = rest) ↔
      ∃ tokens, (chain.tail left).Reads cursor tokens value rest := by
  rw [Chain.parse_tail_iff chain intact]
  apply (chain.tail left).reads_iff_part Chain.tokens (Chain.fold left) Chain.continuations
  · intro written
    rw [derives]
    rfl
  · exact continuations
  · exact Chain.balanced

theorem parse_iff_reads (rule : Rule) (intact : cursor.Intact) :
    (∃ stop, parse rule cursor = .done value stop ∧ stop.stream = rest) ↔
      ∃ tokens, rule.Reads cursor tokens value rest := by
  cases rule with
  | expression => exact parse_category_iff_reads .expression intact rfl fun _ => rfl
  | term => exact parse_category_iff_reads .term intact rfl fun _ => rfl
  | unary => exact parse_category_iff_reads .unary intact rfl fun _ => rfl
  | factor => exact parse_category_iff_reads .factor intact rfl fun _ => rfl
  | group => exact parse_category_iff_reads .group intact rfl fun _ => rfl
  | expressionTail left =>
      apply parse_tail_iff_reads .sum intact rfl
      intro links
      cases links <;> rfl
  | termTail left =>
      apply parse_tail_iff_reads .product intact rfl
      intro links
      cases links <;> rfl

theorem parse_group_iff_reads (intact : cursor.Intact) :
    (∃ stop, parseGroup? cursor = .done (some value) stop ∧ stop.stream = rest) ↔
      ∃ tokens, Rule.group.Reads cursor tokens value rest := by
  rw [← parse_iff_reads .group intact]
  constructor
  · intro done
    obtain ⟨stop, answered, finished⟩ := done
    rw [parseGroup?] at answered
    split at answered
    · obtain ⟨_, _, parsed, same⟩ := Outcome.and_then_done answered
      cases same
      exact ⟨stop, parsed, finished⟩
    · cases answered
  · intro done
    obtain ⟨stop, parsed, finished⟩ := done
    refine ⟨stop, ?_, finished⟩
    have begins : cursor.lookahead.isAmong
        (.openParen :: Operator.unaryFunctions ++ Operator.binaryFunctions) = true := by
      obtain ⟨tree, _, splits, stops, _⟩ := (parse_category_iff .group intact).mp ⟨stop, parsed, rfl⟩
      obtain ⟨operator, behind, written, listed⟩ := tree.group_begins
      rw [written] at splits
      exact (splits.faces intact stops).among listed
    rw [parseGroup?, if_pos begins, parsed]
    rfl

end

/-- Wherever a session has come to, a rule has a value exactly if it may take what lies ahead, and a tail
takes the longest chain. -/
theorem parse_reads_exactly {source : String} {cursor : Cursor}
    (reached : Session.Reachable source cursor) :
    (∀ (rule : Rule) (value : Binary64) (rest : List Piece),
      (∃ stop, parse rule cursor = .done value stop ∧ stop.stream = rest) ↔
        ∃ tokens, rule.Reads cursor tokens value rest) ∧
    (∀ (value : Binary64) (rest : List Piece),
      (∃ stop, parseGroup? cursor = .done (some value) stop ∧ stop.stream = rest) ↔
        ∃ tokens, Rule.group.Reads cursor tokens value rest) ∧
    ∀ (chain : Chain) (left value : Binary64) (stop : Cursor),
      parse (chain.tail left) cursor = .done value stop →
        ∀ (links : List (Chain.Link chain)) (rest : List Piece),
          cursor.Splits (Chain.tokens links) rest → stop.stream.length ≤ rest.length := by
  have intact := reached.intact
  refine ⟨?_, ?_, ?_⟩
  · intro rule value rest
    exact parse_iff_reads rule intact
  · intro value rest
    exact parse_group_iff_reads intact
  · intro chain left value stop parsed links rest splits
    exact Chain.tail_reaches_furthest intact parsed splits

/-- Behind an unknown run and with a group open, the sum is read up to the parenthesis that closes the
group. -/
theorem sum_read_in_open_group : ∃ cursor, Session.Reachable "7 $ (2+3)*4" cursor ∧
    cursor.openGroups = 1 ∧
      ∃ tokens, Rule.expression.Reads cursor tokens (Binary64.ofNat 5)
        [⟨some (.symbol .closeParen), ")"⟩, ⟨some (.symbol .times), "*"⟩,
          ⟨some (.number (Binary64.ofNat 4)), "4"⟩] := by
  have opens : Cursor.openSource "7 $ (2+3)*4" =
      .done () (Cursor.openSource "7 $ (2+3)*4").cursor :=
    Outcome.eq_done (by decide +kernel)
  -- The first attempt to take the number fails at the unknown run and skips it.
  have reached := (((Session.Reachable.opened opens).step .takeNumber).step .takeNumber).step
    .takeOperator
  refine ⟨_, reached, by decide +kernel, ?_⟩
  rw [← (parse_reads_exactly reached).1]
  exact ⟨_, Outcome.eq_done (by decide +kernel), by decide +kernel⟩

end Calculator
