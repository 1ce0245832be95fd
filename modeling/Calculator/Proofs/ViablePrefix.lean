import Calculator.Proofs.Reading

/-!
# Beginnings of expressions

What a reading holds is what it has read, part by part: its tokens in order, and its trees with their
values. So a reading that goes on can be completed, one that does not never could, and a factorial
without a value stays in the reading to its end.
-/

set_option autoImplicit false

namespace Calculator

namespace Context

variable {category : Category}

theorem want_tokens (context : Context category) : context.want.tokens = context.tokens := by
  cases category with
  | expression => rfl
  | term => rfl
  | unary => rfl
  | factor => cases context <;> rfl
  | group =>
      cases context with
      | grouped outer => cases outer <;> rfl

theorem settle_unary_tokens (context : Context .unary) (tree : Tree .unary) :
    (context.settleUnary tree).tokens = context.tokens ++ tree.tokens := by
  cases context with
  | firstOperand outer => rfl
  | multiplier left operator multiplicative outer =>
      simp [settleUnary, Reading.tokens, tokens, Tree.tokens]

theorem settle_factor_tokens (context : Context .factor) (tree : Tree .factor) :
    (context.settleFactor tree).tokens = context.tokens ++ tree.tokens := by
  cases context with
  | unsigned outer => exact settle_unary_tokens outer _
  | signed sign additive outer =>
      simp [settleFactor, settle_unary_tokens, tokens, Tree.tokens]

theorem settle_tokens (context : Context category) (tree : Tree category) :
    (context.settle tree).tokens = context.tokens ++ tree.tokens := by
  cases category with
  | expression =>
      cases tree with
      | ofTerm term => rfl
      | sum left operator additive right =>
          simp [settle, Reading.tokens, tokens, Tree.tokens]
  | term => rfl
  | unary => exact settle_unary_tokens context tree
  | factor => exact settle_factor_tokens context tree
  | group =>
      cases context with
      | grouped outer => exact settle_factor_tokens outer _

theorem want_defined (context : Context category) : context.want.Defined ↔ context.Defined := by
  cases category with
  | expression => rfl
  | term => rfl
  | unary => rfl
  | factor => cases context <;> rfl
  | group =>
      cases context with
      | grouped outer => cases outer <;> rfl

theorem settle_unary_defined (context : Context .unary) (tree : Tree .unary) :
    (context.settleUnary tree).Defined ↔ context.Defined ∧ tree.Defined := by
  cases context with
  | firstOperand outer => rfl
  | multiplier left operator multiplicative outer =>
      simp only [settleUnary, Reading.Defined, Defined, Tree.defined_product, and_assoc]

theorem settle_factor_defined (context : Context .factor) (tree : Tree .factor) :
    (context.settleFactor tree).Defined ↔ context.Defined ∧ tree.Defined := by
  cases context with
  | unsigned outer => exact settle_unary_defined outer _
  | signed sign additive outer =>
      simp only [settleFactor, settle_unary_defined, Defined, Tree.defined_signed]

theorem settle_defined (context : Context category) (tree : Tree category) :
    (context.settle tree).Defined ↔ context.Defined ∧ tree.Defined := by
  cases category with
  | expression =>
      cases tree with
      | ofTerm term => rfl
      | sum left operator additive right =>
          simp only [settle, Reading.Defined, Defined, Tree.defined_sum, and_assoc]
  | term => rfl
  | unary => exact settle_unary_defined context tree
  | factor => exact settle_factor_defined context tree
  | group =>
      cases context with
      | grouped outer => exact settle_factor_defined outer _

/-- Reading the tokens of a tree builds that tree and changes nothing before it. -/
theorem read_tree (tree : Tree category) (context : Context category) :
    context.want.read tree.tokens = some (context.settle tree) := by
  induction tree with
  | ofTerm term ih => exact ih (firstTerm context)
  | ofUnary unary ih => exact ih (firstOperand context)
  | ofFactor factor ih => exact ih (unsigned context)
  | ofGroup group ih =>
      rw [← want_grouped]
      exact ih (grouped context)
  | number value =>
      simp only [Tree.tokens, Reading.read, Reading.step_of_steps (.number context value)]
      rfl
  | sum left operator additive right left_ih right_ih =>
      simp only [Tree.tokens, Reading.read_append, left_ih context, Option.bind_some, Reading.read,
        Reading.step_of_steps (.add context left operator additive)]
      exact right_ih (addend left operator additive context)
  | product left operator multiplicative right left_ih right_ih =>
      simp only [Tree.tokens, Reading.read_append, left_ih context, Option.bind_some, Reading.read,
        Reading.step_of_steps (.multiply context left operator multiplicative)]
      exact right_ih (multiplier left operator multiplicative context)
  | signed sign additive factor ih =>
      simp only [Tree.tokens, Reading.read, Option.bind_some,
        Reading.step_of_steps (.sign context sign additive)]
      exact ih (signed sign additive context)
  | parenthesized inner ih =>
      simp only [Tree.tokens, List.cons_append, Reading.read, Reading.read_append,
        Option.bind_some, Reading.step_of_steps (.openParen context), ih (parenthesized context),
        Reading.step_of_steps (.closeParen context inner)]
  | unaryCall function known argument ih =>
      simp only [Tree.tokens, List.cons_append, Reading.read, Reading.read_append,
        Option.bind_some, Reading.step_of_steps (.unaryName context function known),
        Reading.step_of_steps (.openUnary context function known),
        ih (unaryArgument function known context),
        Reading.step_of_steps (.closeUnary context function known argument)]
  | binaryCall function known first second first_ih second_ih =>
      simp only [Tree.tokens, List.cons_append, List.append_assoc, Reading.read,
        Reading.read_append, Option.bind_some,
        Reading.step_of_steps (.binaryName context function known),
        Reading.step_of_steps (.openBinary context function known),
        first_ih (firstArgument function known context),
        Reading.step_of_steps (.comma context function known first),
        second_ih (secondArgument function known first context),
        Reading.step_of_steps (.closeBinary context function known first second)]

end Context

/-- The expression that has ended, and what stands before it, can be told from the reading. -/
theorem settle_injective {context other : Context .expression} {first second : Tree .expression}
    (same : context.settle first = other.settle second) : context = other ∧ first = second := by
  cases first with
  | ofTerm term =>
      cases second with
      | ofTerm otherTerm =>
          injection same with contexts terms
          cases contexts
          exact ⟨rfl, congrArg _ terms⟩
      | sum left operator additive right =>
          injection same with contexts _
          cases contexts
  | sum left operator additive right =>
      cases second with
      | ofTerm otherTerm =>
          injection same with contexts _
          cases contexts
      | sum otherLeft otherOperator otherAdditive otherRight =>
          injection same with contexts terms
          cases contexts
          exact ⟨rfl, congrArg _ terms⟩

/-- The grammar is not ambiguous. -/
theorem tokens_injective {first second : Tree .expression} (same : first.tokens = second.tokens) :
    first = second := by
  have firstRead := Context.start.read_tree first
  have secondRead := Context.start.read_tree second
  rw [same, secondRead] at firstRead
  exact (settle_injective (Option.some.inj firstRead)).2.symm

namespace Reading

variable {state next : Reading} {token : Token} {tokens : List Token}

theorem step_tokens (stepped : state.step token = some next) :
    next.tokens = state.tokens ++ [token] := by
  cases steps_of_step stepped with
  | number context value => simp [Context.want_tokens, Context.settle_tokens, Tree.tokens]
  | sign context sign additive => simp [Context.want_tokens, Context.tokens]
  | openParen context => simp [Context.want_tokens, Context.tokens]
  | unaryName context function known =>
      rw [Context.want_tokens]
      rfl
  | binaryName context function known =>
      rw [Context.want_tokens]
      rfl
  | openUnary context function known =>
      rw [Context.want_tokens]
      simp [Context.tokens, Reading.tokens]
  | openBinary context function known =>
      rw [Context.want_tokens]
      simp [Context.tokens, Reading.tokens]
  | multiply context term operator multiplicative =>
      simp [Context.want_tokens, Context.settle_tokens, Context.tokens]
  | add context tree operator additive =>
      simp [Context.want_tokens, Context.settle_tokens, Context.tokens]
  | closeParen outer tree => simp [Context.settle_tokens, Context.tokens, Tree.tokens]
  | closeUnary outer function known tree =>
      simp [Context.settle_tokens, Context.tokens, Tree.tokens]
  | comma outer function known tree =>
      simp [Context.want_tokens, Context.settle_tokens, Context.tokens]
  | closeBinary outer function known first second =>
      simp [Context.settle_tokens, Context.tokens, Tree.tokens]

theorem read_tokens (reads : state.read tokens = some next) :
    next.tokens = state.tokens ++ tokens := by
  induction tokens generalizing state with
  | nil =>
      cases reads
      rw [List.append_nil]
  | cons token rest ih =>
      obtain ⟨between, stepped, more⟩ := Option.bind_eq_some_iff.mp reads
      rw [ih more, step_tokens stepped, List.append_assoc, List.singleton_append]

theorem start_tokens : start.tokens = [] :=
  rfl

/-- Whatever has been read can be completed. -/
theorem viable_tokens (state : Reading) : Viable state.tokens := by
  cases state with
  | operand context => exact (context.viable_append_tree Tree.fillerOperand).of_append
  | afterSign sign additive context =>
      have viable := (Context.signed sign additive context).viable_append_tree (.number .zero)
      exact viable.of_append
  | unaryName function known context =>
      have viable := (Context.unaryArgument function known context).viable_append_tree Tree.filler
      rw [Context.tokens, ← List.singleton_append, ← List.append_assoc, List.append_assoc] at viable
      exact viable.of_append
  | binaryName function known context =>
      have viable := (Context.firstArgument function known context).viable_append_tree Tree.filler
      rw [Context.tokens, ← List.singleton_append, ← List.append_assoc, List.append_assoc] at viable
      exact viable.of_append
  | ended context term => exact context.viable_append_tree term

theorem waiting_of_step (stepped : state.step token = some next) : token ≠ .finish := by
  intro same
  subst same
  cases steps_of_step stepped

theorem want_of_step_fact (stepped : state.step (.symbol .fact) = some next) :
    ∃ context : Context .group, ∃ _ : .fact ∈ Operator.unaryFunctions, context.want = state := by
  cases steps_of_step stepped with
  | sign context sign additive => exact absurd additive (by decide)
  | unaryName context function known => exact ⟨context, known, rfl⟩
  | binaryName context function known => exact absurd known (by decide)
  | multiply context term operator multiplicative => exact absurd multiplicative (by decide)
  | add context tree operator additive => exact absurd additive (by decide)

theorem sentence_iff_read :
    IsSentence tokens ↔ ∃ tree, start.read tokens = some (Context.start.settle tree) := by
  constructor
  · intro sentence
    obtain ⟨tree, rfl⟩ := sentence
    exact ⟨tree, Context.start.read_tree tree⟩
  · intro complete
    obtain ⟨tree, reads⟩ := complete
    refine ⟨tree, ?_⟩
    have whole := read_tokens reads
    rw [Context.settle_tokens, start_tokens] at whole
    exact whole

/-- The machine goes on exactly as long as an expression can. -/
theorem viable_iff_read : Viable tokens ↔ ∃ state, start.read tokens = some state := by
  constructor
  · intro viable
    obtain ⟨rest, tree, whole⟩ := viable
    have reads := Context.start.read_tree tree
    rw [whole, read_append] at reads
    obtain ⟨state, front, _⟩ := Option.bind_eq_some_iff.mp reads
    exact ⟨state, front⟩
  · intro reached
    obtain ⟨state, reads⟩ := reached
    have viable := state.viable_tokens
    rw [read_tokens reads, start_tokens] at viable
    exact viable

theorem defined_of_step (stepped : state.step token = some next) (defined : next.Defined) :
    state.Defined := by
  cases steps_of_step stepped with
  | number context value => exact (context.want_defined).mpr (((context.settle_defined _).mp defined).1)
  | sign context sign additive => exact defined
  | openParen context => exact (context.want_defined).mpr defined
  | unaryName context function known => exact (context.want_defined).mpr defined
  | binaryName context function known => exact (context.want_defined).mpr defined
  | openUnary context function known => exact defined
  | openBinary context function known => exact defined
  | multiply context term operator multiplicative => exact (context.settle_defined term).mpr defined
  | add context tree operator additive => exact (context.settle_defined tree).mpr defined
  | closeParen outer tree =>
      rw [Context.settle_defined] at defined ⊢
      exact defined
  | closeUnary outer function known tree =>
      rw [Context.settle_defined] at defined ⊢
      exact ⟨defined.1, Tree.defined_argument defined.2⟩
  | comma outer function known tree => exact (Context.settle_defined _ tree).mpr defined
  | closeBinary outer function known first second =>
      rw [Context.settle_defined, Tree.defined_binary_call] at defined
      exact (Context.settle_defined _ second).mpr ⟨⟨defined.1, defined.2.1⟩, defined.2.2⟩

theorem defined_of_read (reads : state.read tokens = some next) (defined : next.Defined) :
    state.Defined := by
  induction tokens generalizing state with
  | nil =>
      cases reads
      exact defined
  | cons token rest ih =>
      obtain ⟨between, stepped, more⟩ := Option.bind_eq_some_iff.mp reads
      exact defined_of_step stepped (ih more)

theorem close_paren_of_undefined (stepped : state.step token = some next)
    (defined : state.Defined) (undefined : ¬next.Defined) : token = .symbol .closeParen := by
  cases steps_of_step stepped with
  | number context value =>
      exact absurd ((context.settle_defined _).mpr ⟨(context.want_defined).mp defined, value, rfl⟩)
        undefined
  | sign context sign additive => exact absurd defined undefined
  | openParen context => exact absurd ((context.want_defined).mp defined) undefined
  | unaryName context function known => exact absurd ((context.want_defined).mp defined) undefined
  | binaryName context function known => exact absurd ((context.want_defined).mp defined) undefined
  | openUnary context function known => exact absurd defined undefined
  | openBinary context function known => exact absurd defined undefined
  | multiply context term operator multiplicative =>
      exact absurd ((context.settle_defined term).mp defined) undefined
  | add context tree operator additive =>
      exact absurd ((context.settle_defined tree).mp defined) undefined
  | closeParen outer tree => rfl
  | closeUnary outer function known tree => rfl
  | comma outer function known tree =>
      exact absurd ((Context.settle_defined _ tree).mp defined) undefined
  | closeBinary outer function known first second => rfl

theorem defined_or_faulty_call (state : Reading) : state.Defined ∨ FaultyCall state.tokens := by
  cases state with
  | operand context => exact context.defined_or_faulty_call
  | afterSign sign additive context =>
      exact context.defined_or_faulty_call.imp_right fun faulty => faulty.append_right _
  | unaryName function known context =>
      exact context.defined_or_faulty_call.imp_right fun faulty => faulty.append_right _
  | binaryName function known context =>
      exact context.defined_or_faulty_call.imp_right fun faulty => faulty.append_right _
  | ended context term =>
      exact both_or_faulty context.defined_or_faulty_call term.defined_or_faulty_call

theorem read_snoc (reads : start.read tokens = some state) (stepped : state.step token = some next) :
    start.read (tokens ++ [token]) = some next := by
  rw [read_append, reads, Option.bind_some, read, stepped]
  rfl

theorem not_viable_of_blocked (reads : start.read tokens = some state)
    (blocked : state.step token = none) : ¬Viable (tokens ++ [token]) := by
  intro viable
  obtain ⟨last, whole⟩ := viable_iff_read.mp viable
  rw [read_append, reads, Option.bind_some, read, blocked] at whole
  cases whole

theorem viable_of_step (reads : start.read tokens = some state)
    (stepped : state.step token = some next) : Viable (tokens ++ [token]) :=
  viable_iff_read.mpr ⟨next, read_snoc reads stepped⟩

/-- A faulty call leaves its mark: it is read as the call that it is, and its tree has no value. -/
theorem not_faulty_of_defined (reads : start.read tokens = some state) (defined : state.Defined) :
    ¬FaultyCall tokens := by
  intro faulty
  obtain ⟨before, argument, plain, after, rfl, argumentValue, broken⟩ := faulty
  rw [read_append, read_append] at reads
  obtain ⟨closed, throughCall, rest⟩ := Option.bind_eq_some_iff.mp reads
  obtain ⟨reached, _, call⟩ := Option.bind_eq_some_iff.mp throughCall
  have closedDefined := defined_of_read rest defined
  obtain ⟨named, stepped, _⟩ := Option.bind_eq_some_iff.mp call
  obtain ⟨context, known, rfl⟩ := want_of_step_fact stepped
  have whole := context.read_tree (.unaryCall .fact known argument)
  rw [Tree.tokens, call] at whole
  cases whole
  rw [Context.settle_defined] at closedDefined
  exact Tree.faulty_call_undefined argumentValue broken closedDefined.2

theorem faulty_of_undefined (reads : start.read tokens = some state) (undefined : ¬state.Defined) :
    FaultyCall tokens := by
  have faulty := (state.defined_or_faulty_call).resolve_left undefined
  rwa [read_tokens reads, start_tokens] at faulty

end Reading

end Calculator
