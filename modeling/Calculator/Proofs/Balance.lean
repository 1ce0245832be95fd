import Calculator.Proofs.Standing

/-!
# Balanced tokens

A part of an expression closes every group that it opens, and closes none besides. So however many groups
are open before it, within it there are as many more as there would be were it alone, and the parenthesis
that ends a group around it can be told from those inside: `Balanced.unique`. What the limit of nesting
asks of tokens is `NestsWithin`, parenthesis by parenthesis.
-/

set_option autoImplicit false

namespace Calculator

theorem Operator.no_paren : ∀ operator ∈ Operator.additive ++ Operator.multiplicative ++
    Operator.unaryFunctions ++ Operator.binaryFunctions,
      operator ≠ .openParen ∧ operator ≠ .closeParen := by
  decide

theorem Operator.groups_after_of_mem {operator : Operator}
    (known : operator ∈ Operator.additive ++ Operator.multiplicative ++
      Operator.unaryFunctions ++ Operator.binaryFunctions) (openGroups : Nat) :
    operator.groupsAfter openGroups = openGroups := by
  obtain ⟨notOpen, notClose⟩ := Operator.no_paren operator known
  cases operator with
  | openParen => exact absurd rfl notOpen
  | closeParen => exact absurd rfl notClose
  | _ => rfl

theorem Operator.groups_after_of_function {function : Operator}
    (known : function ∈ Operator.unaryFunctions ++ Operator.binaryFunctions) (openGroups : Nat) :
    function.groupsAfter openGroups = openGroups := by
  apply function.groups_after_of_mem
  rw [List.append_assoc _ Operator.unaryFunctions]
  exact List.mem_append_right _ known

/-- Nothing is left open, and no front of the tokens closes a group that was open before. -/
structure Balanced (tokens : List Token) : Prop where
  closed : groupsBehind 0 tokens = 0
  lifted : ∀ front, front <+: tokens → ∀ openGroups,
    groupsBehind openGroups front = openGroups + groupsBehind 0 front

namespace Balanced

variable {tokens first second inner other behind rest : List Token} {token : Token}

theorem whole (balanced : Balanced tokens) (openGroups : Nat) :
    groupsBehind openGroups tokens = openGroups := by
  rw [balanced.lifted tokens (List.prefix_refl tokens) openGroups, balanced.closed, Nat.add_zero]

theorem nil : Balanced [] where
  closed := rfl
  lifted := by
    intro front within openGroups
    rw [List.prefix_nil.mp within]
    rfl

theorem append (left : Balanced first) (right : Balanced second) : Balanced (first ++ second) where
  closed := by rw [groups_behind_append, left.closed, right.closed]
  lifted := by
    intro front within openGroups
    rcases List.prefix_or_prefix_of_prefix within (List.prefix_append first second) with early | late
    · exact left.lifted front early openGroups
    · obtain ⟨more, rfl⟩ := late
      have later : more <+: second := (List.prefix_append_right_inj first).mp within
      rw [groups_behind_append, groups_behind_append, left.whole, left.closed]
      exact right.lifted more later openGroups

theorem cons (plain : ∀ openGroups, token.groupsAfter openGroups = openGroups)
    (balanced : Balanced tokens) : Balanced (token :: tokens) where
  closed := by rw [groups_behind_cons, plain, balanced.closed]
  lifted := by
    intro front within openGroups
    rcases List.prefix_cons_iff.mp within with rfl | ⟨more, rfl, later⟩
    · rfl
    · rw [groups_behind_cons, groups_behind_cons, plain, plain]
      exact balanced.lifted more later openGroups

theorem enclosed (balanced : Balanced inner) :
    Balanced (.symbol .openParen :: inner ++ [.symbol .closeParen]) where
  closed := by
    rw [List.cons_append, groups_behind_cons, groups_behind_append, balanced.whole]
    rfl
  lifted := by
    intro front within openGroups
    rcases List.prefix_concat_iff.mp within with rfl | inside
    · rw [List.cons_append, groups_behind_cons, groups_behind_cons, groups_behind_append,
        groups_behind_append, balanced.whole, balanced.whole]
      rfl
    · rcases List.prefix_cons_iff.mp inside with rfl | ⟨more, rfl, later⟩
      · rfl
      · rw [groups_behind_cons, groups_behind_cons, balanced.lifted more later,
          balanced.lifted more later (Token.groupsAfter _ 0)]
        simp only [Token.groupsAfter, Operator.groupsAfter]
        omega

/-- Balanced tokens end at the first parenthesis that closes a group around them. -/
theorem unique (balanced : Balanced inner) (balancedOther : Balanced other)
    (same : inner ++ .symbol .closeParen :: behind = other ++ .symbol .closeParen :: rest) :
    inner = other ∧ behind = rest := by
  have absurdly : ∀ {short long more : List Token}, Balanced short → Balanced long →
      ¬short ++ .symbol .closeParen :: more = long := by
    intro short long more shortBalanced longBalanced longer
    have within : short ++ [.symbol .closeParen] <+: long := ⟨more, by simpa using longer⟩
    have lifted := longBalanced.lifted _ within 1
    rw [groups_behind_append, groups_behind_append, shortBalanced.whole] at lifted
    simp only [groups_behind_cons, Token.groupsAfter, Operator.groupsAfter] at lifted
    simp [groupsBehind] at lifted
    omega
  rcases List.append_eq_append_iff.mp same with ⟨gap, rfl, front⟩ | ⟨gap, rfl, front⟩
  · cases gap with
    | nil =>
        injection front with _ ends
        exact ⟨(List.append_nil inner).symm, ends⟩
    | cons token more =>
        injection front with closes _
        rw [← closes] at balancedOther
        exact absurd rfl (absurdly balanced balancedOther)
  · cases gap with
    | nil =>
        injection front with _ ends
        exact ⟨List.append_nil other, ends.symm⟩
    | cons token more =>
        injection front with closes _
        rw [← closes] at balanced
        exact absurd rfl (absurdly balancedOther balanced)

end Balanced

theorem Tree.balanced {category : Category} (tree : Tree category) : Balanced tree.tokens := by
  induction tree with
  | ofTerm term ih => exact ih
  | ofUnary unary ih => exact ih
  | ofFactor factor ih => exact ih
  | ofGroup group ih => exact ih
  | number value => exact Balanced.nil.cons fun openGroups => rfl
  | sum left operator additive right left_ih right_ih =>
      exact left_ih.append (right_ih.cons (operator.groups_after_of_mem (by simp [additive])))
  | product left operator multiplicative right left_ih right_ih =>
      exact left_ih.append (right_ih.cons (operator.groups_after_of_mem (by simp [multiplicative])))
  | signed sign additive factor ih =>
      exact ih.cons (sign.groups_after_of_mem (by simp [additive]))
  | parenthesized inner ih => exact ih.enclosed
  | unaryCall function known argument ih =>
      exact ih.enclosed.cons (function.groups_after_of_mem (by simp [known]))
  | binaryCall function known first second first_ih second_ih =>
      have behindComma : Balanced (.symbol .comma :: second.tokens) := second_ih.cons fun _ => rfl
      have plain : ∀ openGroups, (Token.symbol function).groupsAfter openGroups = openGroups :=
        function.groups_after_of_mem (by simp [known])
      have call := (first_ih.append behindComma).enclosed.cons plain
      simpa [Tree.tokens] using call

theorem groups_behind_tree {category : Category} (tree : Tree category) (openGroups : Nat) :
    groupsBehind openGroups tree.tokens = openGroups :=
  tree.balanced.whole openGroups

/-- No parenthesis among the tokens opens a group beyond the limit, with `openGroups` open before. -/
def NestsWithin : Nat → List Token → Prop
  | _, [] => True
  | openGroups, token :: rest =>
      (token = .symbol .openParen → openGroups < nestingLimit) ∧
        NestsWithin (token.groupsAfter openGroups) rest

theorem nests_within_append {openGroups : Nat} {front behind : List Token} :
    NestsWithin openGroups (front ++ behind) ↔
      NestsWithin openGroups front ∧ NestsWithin (groupsBehind openGroups front) behind := by
  induction front generalizing openGroups with
  | nil => exact (true_and _).to_iff.symm
  | cons token rest ih =>
      rw [List.cons_append, NestsWithin, NestsWithin, ih, groups_behind_cons, and_assoc]

/-- The limit, told for each parenthesis by the groups that are open behind it. -/
theorem nests_within_iff {openGroups : Nat} {tokens : List Token} :
    NestsWithin openGroups tokens ↔
      ∀ front behind, tokens = front ++ .symbol .openParen :: behind →
        groupsBehind openGroups (front ++ [.symbol .openParen]) ≤ nestingLimit := by
  induction tokens generalizing openGroups with
  | nil => simp [NestsWithin]
  | cons token rest ih =>
      rw [NestsWithin, ih]
      constructor
      · intro within front behind split
        obtain ⟨here, later⟩ := within
        cases front with
        | nil =>
            injection split with opens _
            exact here opens
        | cons first front =>
            injection split with same split
            rw [List.cons_append, groups_behind_cons, ← same]
            exact later front behind split
      · intro all
        constructor
        · intro opens
          exact all [] rest (by rw [opens]; rfl)
        · intro front behind split
          have behindFirst := all (token :: front) behind (by rw [split]; rfl)
          rwa [List.cons_append, groups_behind_cons] at behindFirst

end Calculator
