import Calculator.Proofs.Chain

/-!
# No chain reaches further

Where one operand ends can be told from its tokens, so of two operands at the same place neither is longer.
A chain is a row of operators and operands, a sum one in which each term is written out. So of two chains
at the same place the longer one goes on, behind the shorter, with an operator of the row.
-/

set_option autoImplicit false

namespace Calculator

namespace Tree

/-- A group ends with the parenthesis that closes what its first one opens. -/
theorem group_shape (tree : Tree .group) : ∃ name inner,
    tree.tokens = name ++ .symbol .openParen :: (inner ++ [.symbol .closeParen]) ∧ Balanced inner ∧
      (name = [] ∨ ∃ function ≠ .openParen, name = [.symbol function]) := by
  cases tree with
  | parenthesized inner => exact ⟨[], inner.tokens, rfl, inner.balanced, Or.inl rfl⟩
  | unaryCall function known argument =>
      have plain := (Operator.unary_function_begins_group function known).2
      exact ⟨[.symbol function], argument.tokens, rfl, argument.balanced, Or.inr ⟨function, plain, rfl⟩⟩
  | binaryCall function known first second =>
      have plain := (Operator.binary_function_begins_group function known).2.1
      have behindComma : Balanced (.symbol .comma :: second.tokens) := second.balanced.cons fun _ => rfl
      refine ⟨[.symbol function], _, ?_, first.balanced.append behindComma,
        Or.inr ⟨function, plain, rfl⟩⟩
      simp [tokens]

theorem group_end_unique {tree other : Tree .group} {behind rest : List Token}
    (same : tree.tokens ++ behind = other.tokens ++ rest) : behind = rest := by
  obtain ⟨name, inner, shape, balanced, names⟩ := tree.group_shape
  obtain ⟨otherName, otherInner, otherShape, otherBalanced, otherNames⟩ := other.group_shape
  rw [shape, otherShape] at same
  have opened : inner ++ .symbol .closeParen :: behind =
      otherInner ++ .symbol .closeParen :: rest := by
    rcases names with rfl | ⟨function, plain, rfl⟩
    · rcases otherNames with rfl | ⟨otherFunction, otherPlain, rfl⟩
      · simpa using same
      · injection same with paren _
        injection paren with paren
        exact absurd paren.symm otherPlain
    · rcases otherNames with rfl | ⟨otherFunction, otherPlain, rfl⟩
      · injection same with paren _
        injection paren with paren
        exact absurd paren plain
      · simpa using (List.cons.inj same).2
  exact (balanced.unique otherBalanced opened).2

theorem factor_end_unique {tree other : Tree .factor} {behind rest : List Token}
    (same : tree.tokens ++ behind = other.tokens ++ rest) : behind = rest := by
  cases tree with
  | number value =>
      cases other with
      | number otherValue => exact (List.cons.inj same).2
      | ofGroup group =>
          obtain ⟨name, inner, shape, _, names⟩ := group.group_shape
          rw [tokens, tokens, shape] at same
          rcases names with rfl | ⟨function, _, rfl⟩
          · cases same
          · cases same
  | ofGroup group =>
      cases other with
      | number value =>
          obtain ⟨name, inner, shape, _, names⟩ := group.group_shape
          rw [tokens, tokens, shape] at same
          rcases names with rfl | ⟨function, _, rfl⟩
          · cases same
          · cases same
      | ofGroup otherGroup => exact group_end_unique same

/-- An operand determines where it ends, whatever stands behind it. -/
theorem unary_end_unique {tree other : Tree .unary} {behind rest : List Token}
    (same : tree.tokens ++ behind = other.tokens ++ rest) : behind = rest := by
  have differ : ∀ {sign : Operator} {factor : Tree .factor} {more left : List Token},
      sign ∈ Operator.additive → ¬.symbol sign :: more = factor.tokens ++ left := by
    intro sign factor more left additive starts
    obtain ⟨token, tail, begins, unsigned⟩ := factor.factor_begins
    rw [begins] at starts
    injection starts with first _
    rw [← first, Token.isAmong, List.contains_eq_mem, decide_eq_false_iff_not] at unsigned
    exact unsigned additive
  cases tree with
  | ofFactor factor =>
      cases other with
      | ofFactor otherFactor => exact factor_end_unique same
      | signed sign additive otherFactor => exact absurd same.symm (differ additive)
  | signed sign additive factor =>
      cases other with
      | ofFactor otherFactor => exact absurd same (differ additive)
      | signed otherSign otherAdditive otherFactor =>
          exact factor_end_unique (List.cons.inj same).2

end Tree

def rowTokens (row : List (Operator × Tree .unary)) : List Token :=
  row.flatMap fun part => .symbol part.1 :: part.2.tokens

theorem row_tokens_append (front behind : List (Operator × Tree .unary)) :
    rowTokens (front ++ behind) = rowTokens front ++ rowTokens behind :=
  List.flatMap_append

theorem next_of_row {row longer : List (Operator × Tree .unary)} {token : Token} {more : List Token}
    (same : rowTokens longer = rowTokens row ++ token :: more) :
    ∃ part ∈ longer, token = .symbol part.1 := by
  induction row generalizing longer with
  | nil =>
      cases longer with
      | nil => cases same
      | cons part longer =>
          injection same with first _
          exact ⟨part, List.mem_cons_self, first.symm⟩
  | cons part row ih =>
      cases longer with
      | nil => cases same
      | cons other longer =>
          simp only [rowTokens, List.flatMap_cons, List.cons_append, List.append_assoc] at same
          injection same with _ behind
          obtain ⟨found, member, named⟩ := ih (Tree.unary_end_unique behind)
          exact ⟨found, List.mem_cons_of_mem _ member, named⟩

theorem row_of_term : (term : Tree .term) → ∃ (first : Tree .unary) (row : List (Operator × Tree .unary)),
    term.tokens = first.tokens ++ rowTokens row ∧ ∀ part ∈ row, part.1 ∈ Operator.multiplicative
  | .ofUnary unary => ⟨unary, [], (List.append_nil unary.tokens).symm, nofun⟩
  | .product left operator multiplicative right => by
      obtain ⟨first, row, written, listed⟩ := row_of_term left
      refine ⟨first, row ++ [(operator, right)], ?_, ?_⟩
      · rw [Tree.tokens, written, row_tokens_append]
        simp [rowTokens]
      · intro part member
        rcases List.mem_append.mp member with earlier | last
        · exact listed part earlier
        · rw [List.mem_singleton.mp last]
          exact multiplicative

namespace Chain

variable {chain : Chain}

theorem row_of_link (link : Link chain) : ∃ row : List (Operator × Tree .unary),
    link.tokens = rowTokens row ∧
      ∀ part ∈ row, part.1 ∈ chain.operators ++ chain.operand.continuations := by
  rcases link with ⟨operator, listed, operand⟩
  cases chain with
  | product =>
      refine ⟨[(operator, operand)], (List.append_nil _).symm, ?_⟩
      intro part member
      rw [List.mem_singleton.mp member]
      exact List.mem_append_left _ listed
  | sum =>
      obtain ⟨first, row, written, multiplicative⟩ := row_of_term operand
      refine ⟨(operator, first) :: row, ?_, ?_⟩
      · exact congrArg (List.cons (.symbol operator)) written
      · intro part member
        rcases List.mem_cons.mp member with rfl | later
        · exact List.mem_append_left _ listed
        · exact List.mem_append_right _ (multiplicative part later)

theorem row_of_links (links : List (Link chain)) : ∃ row : List (Operator × Tree .unary),
    tokens links = rowTokens row ∧
      ∀ part ∈ row, part.1 ∈ chain.operators ++ chain.operand.continuations := by
  induction links with
  | nil => exact ⟨[], rfl, nofun⟩
  | cons link rest ih =>
      obtain ⟨front, writtenFront, listedFront⟩ := row_of_link link
      obtain ⟨behind, writtenBehind, listedBehind⟩ := ih
      refine ⟨front ++ behind, ?_, ?_⟩
      · rw [row_tokens_append, ← writtenFront, ← writtenBehind]
        rfl
      · intro part member
        rcases List.mem_append.mp member with early | late
        · exact listedFront part early
        · exact listedBehind part late

/-- Behind a chain, a longer one of the same level goes on with what would go on with it. -/
theorem next_of_longer {links longer : List (Link chain)} {token : Token} {more : List Token}
    (same : tokens longer = tokens links ++ token :: more) :
    token.isAmong (continuations links) = true := by
  cases links with
  | nil =>
      cases longer with
      | nil => cases same
      | cons link longer =>
          injection same with first _
          exact Token.is_among_iff.mpr ⟨link.operator, link.listed, first.symm⟩
  | cons link rest =>
      obtain ⟨row, written, _⟩ := row_of_links (link :: rest)
      obtain ⟨longRow, longWritten, listed⟩ := row_of_links longer
      rw [written, longWritten] at same
      obtain ⟨part, member, rfl⟩ := next_of_row same
      exact Token.is_among_iff.mpr ⟨part.1, listed part member, rfl⟩

end Chain

end Calculator
