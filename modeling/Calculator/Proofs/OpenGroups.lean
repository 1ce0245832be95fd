import Calculator.Proofs.ViablePrefix

/-!
# What can be told from the tokens read

A reader of tokens alone knows which groups are open behind them, in which argument of a call, and from
the last token whether an operand is missing, a name waits for its parenthesis or an operand has ended.
The machine knows no more (`fits_of_read`), and what it refuses is described here without it.
-/

set_option autoImplicit false

namespace Calculator

inductive OpenGroup where
  | plain
  | unaryCall
  | firstArgument
  | secondArgument
  deriving DecidableEq

namespace OpenGroup

def opened (previous : Option Token) : OpenGroup :=
  match previous with
  | some (.symbol name) =>
      if name ∈ Operator.unaryFunctions then .unaryCall
      else if name ∈ Operator.binaryFunctions then .firstArgument
      else .plain
  | _ => .plain

def after (previous : Option Token) (groups : List OpenGroup) (token : Token) : List OpenGroup :=
  match token with
  | .symbol .openParen => opened previous :: groups
  | .symbol .closeParen => groups.tail
  | .symbol .comma =>
      match groups with
      | .firstArgument :: outer => .secondArgument :: outer
      | _ => groups
  | _ => groups

def afterAll (previous : Option Token) (groups : List OpenGroup) : List Token → List OpenGroup
  | [] => groups
  | token :: rest => afterAll (some token) (after previous groups token) rest

theorem after_all_snoc (previous : Option Token) (groups : List OpenGroup) (tokens : List Token)
    (token : Token) :
    afterAll previous groups (tokens ++ [token]) =
      after (tokens.getLast?.or previous) (afterAll previous groups tokens) token := by
  induction tokens generalizing previous groups with
  | nil => rfl
  | cons first rest ih =>
      have last : (first :: rest).getLast?.or previous = rest.getLast?.or (some first) := by
        rw [List.getLast?_cons]
        cases rest.getLast? <;> rfl
      rw [List.cons_append, afterAll, ih, afterAll, last]

end OpenGroup

def openGroups (tokens : List Token) : List OpenGroup :=
  OpenGroup.afterAll none [] tokens

theorem open_groups_snoc (tokens : List Token) (token : Token) :
    openGroups (tokens ++ [token]) = OpenGroup.after tokens.getLast? (openGroups tokens) token := by
  rw [openGroups, OpenGroup.after_all_snoc, Option.or_none]
  rfl

/-- An operand has to follow: the tokens are none or end in an opening parenthesis, a comma or an
operator. -/
def AwaitsOperand (tokens : List Token) : Prop :=
  ∀ last ∈ tokens.getLast?,
    last.isAmong (.openParen :: .comma :: Operator.additive ++ Operator.multiplicative) = true

def EndsInName (tokens : List Token) : Prop :=
  ∃ last ∈ tokens.getLast?,
    last.isAmong (Operator.unaryFunctions ++ Operator.binaryFunctions) = true

def EndsInOperand (tokens : List Token) : Prop :=
  ∃ last ∈ tokens.getLast?, last.isNumber = true ∨ last = .symbol .closeParen

/-- A sign is an additive operator with no operand before it. -/
def EndsInSign (tokens : List Token) : Prop :=
  ∃ before sign, tokens = before ++ [.symbol sign] ∧ sign ∈ Operator.additive ∧ AwaitsOperand before

/-- What an operand begins with; only one sign stands before it. -/
def CanBeginOperand (tokens : List Token) (token : Token) : Prop :=
  token.isNumber = true ∨
    token.isAmong (.openParen :: Operator.unaryFunctions ++ Operator.binaryFunctions) = true ∨
      token.isAmong Operator.additive = true ∧ ¬EndsInSign tokens

section

variable {tokens : List Token} {token : Token} {operator : Operator}

theorem awaits_operand_snoc :
    AwaitsOperand (tokens ++ [token]) ↔
      token.isAmong (.openParen :: .comma :: Operator.additive ++ Operator.multiplicative) = true := by
  simp [AwaitsOperand]

theorem ends_in_operand_snoc :
    EndsInOperand (tokens ++ [token]) ↔ token.isNumber = true ∨ token = .symbol .closeParen := by
  simp [EndsInOperand]

theorem ends_in_sign_snoc :
    EndsInSign (tokens ++ [token]) ↔
      token.isAmong Operator.additive = true ∧ AwaitsOperand tokens := by
  constructor
  · intro ends
    obtain ⟨before, sign, same, additive, awaits⟩ := ends
    obtain ⟨rfl, last⟩ := List.append_inj' same rfl
    cases last
    exact ⟨by simpa [Token.isAmong] using additive, awaits⟩
  · intro ends
    obtain ⟨additive, awaits⟩ := ends
    cases token with
    | symbol sign => exact ⟨tokens, sign, rfl, by simpa [Token.isAmong] using additive, awaits⟩
    | number value => cases additive
    | finish => cases additive

/-- Behind such a token even a sign may follow. -/
theorem awaits_no_sign
    (awaiting : token.isAmong
      (.openParen :: .comma :: Operator.additive ++ Operator.multiplicative) = true)
    (other : token.isAmong Operator.additive = false) :
    AwaitsOperand (tokens ++ [token]) ∧ ¬EndsInSign (tokens ++ [token]) := by
  constructor
  · exact awaits_operand_snoc.mpr awaiting
  · intro sign
    have additive := (ends_in_sign_snoc.mp sign).1
    rw [other] at additive
    cases additive

theorem awaits_operand_nil : AwaitsOperand [] := by
  simp [AwaitsOperand]

theorem not_sign_nil : ¬EndsInSign [] := by
  intro ends
  obtain ⟨before, sign, same, _⟩ := ends
  simp at same

theorem awaits_behind_operator
    (between : operator ∈ Operator.additive ++ Operator.multiplicative) :
    AwaitsOperand (tokens ++ [.symbol operator]) := by
  apply awaits_operand_snoc.mpr
  simp only [Token.isAmong, List.contains_eq_mem, decide_eq_true_eq]
  exact List.mem_append_right [.openParen, .comma] between

theorem open_groups_of_operator
    (plain : operator ∈ Operator.additive ++ Operator.multiplicative ++ Operator.unaryFunctions ++
      Operator.binaryFunctions) :
    openGroups (tokens ++ [.symbol operator]) = openGroups tokens := by
  rw [open_groups_snoc]
  cases operator with
  | openParen => exact absurd plain (by decide)
  | closeParen => exact absurd plain (by decide)
  | comma => exact absurd plain (by decide)
  | _ => rfl

/-- A parenthesis that stands for an operand belongs to no name. -/
theorem opened_of_awaits (awaits : AwaitsOperand tokens) :
    OpenGroup.opened tokens.getLast? = .plain := by
  cases last : tokens.getLast? with
  | none => rfl
  | some token =>
      have ends := awaits token last
      cases token with
      | number value => rfl
      | finish => rfl
      | symbol operator => revert ends; cases operator <;> decide

theorem not_awaits_of_ends_in_operand (ended : EndsInOperand tokens) : ¬AwaitsOperand tokens := by
  obtain ⟨last, isLast, number | rfl⟩ := ended
  · intro awaits
    have operator := awaits last isLast
    cases last with
    | number value => cases operator
    | symbol operator => cases number
    | finish => cases number
  · intro awaits
    exact absurd (awaits _ isLast) (by decide)

theorem not_name_of_ends_in_operand (ended : EndsInOperand tokens) : ¬EndsInName tokens := by
  intro named
  obtain ⟨last, isLast, name⟩ := named
  obtain ⟨other, isOther, operand⟩ := ended
  cases isLast.symm.trans isOther
  rcases operand with number | rfl
  · cases last with
    | number value => cases name
    | symbol operator => cases number
    | finish => cases number
  · exact absurd name (by decide)

theorem not_name_of_awaits (awaits : AwaitsOperand tokens) : ¬EndsInName tokens := by
  intro named
  obtain ⟨last, isLast, name⟩ := named
  have ends := awaits last isLast
  cases last with
  | number value => cases name
  | finish => cases name
  | symbol operator => revert ends name; cases operator <;> decide

end

namespace Context

def openGroups : {category : Category} → Context category → List OpenGroup
  | _, start => []
  | _, parenthesized outer => .plain :: outer.openGroups
  | _, unaryArgument _ _ outer => .unaryCall :: outer.openGroups
  | _, firstArgument _ _ outer => .firstArgument :: outer.openGroups
  | _, secondArgument _ _ _ outer => .secondArgument :: outer.openGroups
  | _, firstTerm outer => outer.openGroups
  | _, addend _ _ _ outer => outer.openGroups
  | _, firstOperand outer => outer.openGroups
  | _, multiplier _ _ _ outer => outer.openGroups
  | _, unsigned outer => outer.openGroups
  | _, signed _ _ outer => outer.openGroups
  | _, grouped outer => outer.openGroups

theorem settle_unary_ended (context : Context .unary) (tree : Tree .unary) :
    ∃ outer term, context.settleUnary tree = .ended outer term ∧
      outer.openGroups = context.openGroups := by
  cases context with
  | firstOperand outer => exact ⟨outer, _, rfl, rfl⟩
  | multiplier left operator multiplicative outer => exact ⟨outer, _, rfl, rfl⟩

theorem settle_factor_ended (context : Context .factor) (tree : Tree .factor) :
    ∃ outer term, context.settleFactor tree = .ended outer term ∧
      outer.openGroups = context.openGroups := by
  cases context with
  | unsigned outer => exact outer.settle_unary_ended (.ofFactor tree)
  | signed sign additive outer => exact outer.settle_unary_ended (.signed sign additive tree)

theorem settle_ended {category : Category} (context : Context category) (tree : Tree category) :
    ∃ outer term, context.settle tree = .ended outer term ∧
      outer.openGroups = context.openGroups := by
  cases category with
  | expression =>
      cases tree with
      | ofTerm term => exact ⟨firstTerm context, term, rfl, rfl⟩
      | sum left operator additive right =>
          exact ⟨addend left operator additive context, right, rfl, rfl⟩
  | term => exact ⟨context, tree, rfl, rfl⟩
  | unary => exact context.settle_unary_ended tree
  | factor => exact context.settle_factor_ended tree
  | group =>
      cases context with
      | grouped outer => exact outer.settle_factor_ended (.ofGroup tree)

end Context

namespace Reading

def openGroups : Reading → List OpenGroup
  | operand context => context.openGroups
  | afterSign _ _ context => context.openGroups
  | unaryName _ _ context => context.openGroups
  | binaryName _ _ context => context.openGroups
  | ended context _ => context.openGroups

def EndsLike (tokens : List Token) : Reading → Prop
  | operand _ => AwaitsOperand tokens ∧ ¬EndsInSign tokens
  | afterSign _ _ _ => AwaitsOperand tokens ∧ EndsInSign tokens
  | unaryName function _ _ => tokens.getLast? = some (.symbol function)
  | binaryName function _ _ => tokens.getLast? = some (.symbol function)
  | ended _ _ => EndsInOperand tokens

/-- The invariant of reading: the tokens tell which groups are open and what is awaited. -/
structure Fits (state : Reading) (tokens : List Token) : Prop where
  groups : Calculator.openGroups tokens = state.openGroups
  ends : state.EndsLike tokens

variable {state next : Reading} {tokens before : List Token} {token : Token} {category : Category}
  {context : Context category}

theorem want_groups (context : Context category) : context.want.openGroups = context.openGroups := by
  cases category with
  | expression => rfl
  | term => rfl
  | unary => rfl
  | factor => cases context <;> rfl
  | group =>
      cases context with
      | grouped outer => cases outer <;> rfl

theorem fits_want (fits : context.want.Fits tokens) :
    Calculator.openGroups tokens = context.openGroups ∧ AwaitsOperand tokens := by
  refine ⟨fits.groups.trans (want_groups context), ?_⟩
  have ends := fits.ends
  rcases context.want_cases with ⟨outer, same⟩ | ⟨sign, additive, outer, same⟩
  · rw [same] at ends
    exact ends.1
  · rw [same] at ends
    exact ends.1

theorem fits_settle {tree : Tree category} :
    (context.settle tree).Fits tokens ↔
      Calculator.openGroups tokens = context.openGroups ∧ EndsInOperand tokens := by
  obtain ⟨outer, term, same, around⟩ := context.settle_ended tree
  rw [same, ← around]
  constructor
  · intro fits
    exact ⟨fits.groups, fits.ends⟩
  · intro told
    exact ⟨told.1, told.2⟩

theorem fits_start : start.Fits [] :=
  ⟨rfl, awaits_operand_nil, not_sign_nil⟩

theorem fits_open {inside : Context .expression} {outer : Context .group} {group : OpenGroup}
    (groups : Calculator.openGroups tokens = outer.openGroups)
    (opened : OpenGroup.opened tokens.getLast? = group)
    (within : inside.openGroups = group :: outer.openGroups) :
    inside.want.Fits (tokens ++ [.symbol .openParen]) := by
  constructor
  · rw [open_groups_snoc, OpenGroup.after, opened, groups, want_groups, within]
  · exact awaits_no_sign rfl rfl

theorem fits_close {inside : Context .expression} {outer : Context .group} {group : OpenGroup}
    {tree : Tree .expression} {whole : Tree .group} (fits : (inside.settle tree).Fits tokens)
    (within : inside.openGroups = group :: outer.openGroups) :
    (outer.settle whole).Fits (tokens ++ [.symbol .closeParen]) := by
  have groups := (fits_settle.mp fits).1
  apply fits_settle.mpr
  constructor
  · rw [open_groups_snoc, OpenGroup.after, groups, within, List.tail_cons]
  · exact ends_in_operand_snoc.mpr (Or.inr rfl)

/-- Each token changes the stack as the machine does, and leaves behind it what the machine awaits. -/
theorem fits_of_step (fits : state.Fits tokens) (stepped : state.step token = some next) :
    next.Fits (tokens ++ [token]) := by
  cases steps_of_step stepped with
  | number context value =>
      have groups := (fits_want fits).1
      apply fits_settle.mpr
      constructor
      · rw [open_groups_snoc]
        exact groups
      · exact ends_in_operand_snoc.mpr (Or.inl rfl)
  | sign context sign additive =>
      obtain ⟨groups, awaits⟩ := fits_want fits
      have known : (Token.symbol sign).isAmong Operator.additive = true := by
        simpa [Token.isAmong] using additive
      constructor
      · rw [open_groups_of_operator (by simp [additive])]
        exact groups
      · constructor
        · exact awaits_behind_operator (List.mem_append_left _ additive)
        · exact ends_in_sign_snoc.mpr ⟨known, awaits⟩
  | openParen context =>
      obtain ⟨groups, awaits⟩ := fits_want fits
      exact fits_open groups (opened_of_awaits awaits) rfl
  | unaryName context function known =>
      have groups := (fits_want fits).1
      constructor
      · rw [open_groups_of_operator (by simp [known])]
        exact groups
      · exact List.getLast?_concat
  | binaryName context function known =>
      have groups := (fits_want fits).1
      constructor
      · rw [open_groups_of_operator (by simp [known])]
        exact groups
      · exact List.getLast?_concat
  | openUnary context function known =>
      have last : tokens.getLast? = some (.symbol function) := fits.ends
      have opened : OpenGroup.opened tokens.getLast? = .unaryCall := by
        rw [last, OpenGroup.opened, if_pos known]
      exact fits_open fits.groups opened rfl
  | openBinary context function known =>
      have last : tokens.getLast? = some (.symbol function) := fits.ends
      have other : function ∉ Operator.unaryFunctions :=
        (Operator.binary_function_begins_group function known).2.2
      have opened : OpenGroup.opened tokens.getLast? = .firstArgument := by
        rw [last, OpenGroup.opened, if_neg other, if_pos known]
      exact fits_open fits.groups opened rfl
  | multiply context term operator multiplicative =>
      obtain ⟨groups, ended⟩ := fits_settle.mp fits
      constructor
      · rw [open_groups_of_operator (by simp [multiplicative])]
        exact groups
      · constructor
        · exact awaits_behind_operator (List.mem_append_right _ multiplicative)
        · exact fun sign => not_awaits_of_ends_in_operand ended (ends_in_sign_snoc.mp sign).2
  | add context tree operator additive =>
      obtain ⟨groups, ended⟩ := fits_settle.mp fits
      constructor
      · rw [open_groups_of_operator (by simp [additive])]
        exact groups
      · constructor
        · exact awaits_behind_operator (List.mem_append_left _ additive)
        -- An operand stands before it, so this is no sign.
        · exact fun sign => not_awaits_of_ends_in_operand ended (ends_in_sign_snoc.mp sign).2
  | closeParen outer tree => exact fits_close fits rfl
  | closeUnary outer function known tree => exact fits_close fits rfl
  | comma outer function known tree =>
      have groups := (fits_settle.mp fits).1
      constructor
      · rw [open_groups_snoc, groups]
        rfl
      · exact awaits_no_sign rfl rfl
  | closeBinary outer function known first second => exact fits_close fits rfl

theorem fits_of_read (fits : state.Fits before) (reads : state.read tokens = some next) :
    next.Fits (before ++ tokens) := by
  induction tokens generalizing state before with
  | nil =>
      cases reads
      rw [List.append_nil]
      exact fits
  | cons token rest ih =>
      obtain ⟨between, stepped, more⟩ := Option.bind_eq_some_iff.mp reads
      have whole := ih (fits_of_step fits stepped) more
      rwa [List.append_assoc, List.singleton_append] at whole

end Reading

end Calculator
