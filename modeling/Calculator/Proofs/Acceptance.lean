import Calculator.Proofs.Chain

/-!
# What the descent accepts

Where a cursor faces the tokens of a part, and a lexeme with a token or the end of the source behind them,
the rule of the part takes them all and has the value of the part. The proof follows the tree. Its chains
lean to the left and the rules go through them from the left, so of a chain it is said that the rule comes
to the tail behind it: what the tail does then is decided by the look-ahead there.
-/

set_option autoImplicit false

namespace Calculator

theorem scanned_append {gone rest : List Piece} {tokens : List Token}
    (accepted : gone.map Piece.token? = tokens.map some)
    (scanned : ∀ first ∈ rest.head?, first.token? ≠ none) :
    ∀ first ∈ (gone ++ rest).head?, first.token? ≠ none := by
  cases gone with
  | nil => exact scanned
  | cons piece gone =>
      intro first member unknown
      cases member
      cases tokens with
      | nil => cases accepted
      | cons token tokens =>
          injection accepted with known _
          cases known.symm.trans unknown

namespace Cursor

/-- Ahead of the cursor are the tokens, and behind them `rest`, of which the first can be scanned. -/
structure Faces (cursor : Cursor) (tokens : List Token) (rest : List Piece) : Prop where
  intact : cursor.Intact
  ahead : cursor.Splits tokens rest
  scanned : ∀ first ∈ rest.head?, first.token? ≠ none

namespace Faces

variable {cursor : Cursor} {tokens : List Token} {rest : List Piece} {token : Token}
  {operator : Operator}

theorem take (faces : cursor.Faces (token :: tokens) rest) :
    cursor.lookahead = token ∧ ∃ next, cursor.take = .done token next ∧ next.Faces tokens rest ∧
      next.openGroups = token.groupsAfter cursor.openGroups := by
  obtain ⟨gone, split, accepted⟩ := faces.ahead
  cases gone with
  | nil => cases accepted
  | cons first gone =>
      injection accepted with known acceptedRest
      obtain ⟨viewed, waiting⟩ := @stream_head cursor faces.intact first (by rw [split]; rfl)
      have same : cursor.lookahead = token := Option.some.inj (viewed.symm.trans known)
      refine ⟨same, ?_⟩
      rw [stream_of_waiting waiting, List.cons_append] at split
      injection split with _ pending
      rcases cursor.take_cases with
        ⟨finished, _⟩ | ⟨_, ⟨next, took, shows, groups⟩ | ⟨bad, others, more, unknown, _⟩⟩
      · exact absurd finished waiting
      · rw [same] at took groups
        refine ⟨next, took, ⟨⟨_, shows⟩, ⟨gone, ?_, acceptedRest⟩, faces.scanned⟩, groups⟩
        rw [stream_of_shows shows, pending]
      · have scanned := scanned_append acceptedRest faces.scanned
        rw [← pending, more] at scanned
        exact absurd unknown (scanned bad.piece rfl)

theorem takeOperator (faces : cursor.Faces (.symbol operator :: tokens) rest) :
    ∃ next, cursor.takeOperator = .done operator next ∧ next.Faces tokens rest ∧
      next.openGroups = operator.groupsAfter cursor.openGroups := by
  obtain ⟨ahead, next, took, facesNext, groups⟩ := faces.take
  rcases take_operator_cases ahead with ⟨stop, answered, same⟩ | ⟨fault, stopped, _, stuck⟩
  · rw [took, ahead] at same
    cases same
    exact ⟨_, answered, facesNext, groups⟩
  · rw [took] at stuck
    cases stuck

theorem takeNumber {value : Binary64} (faces : cursor.Faces (.number value :: tokens) rest) :
    ∃ next, cursor.takeNumber = .done value next ∧ next.Faces tokens rest ∧
      next.openGroups = cursor.openGroups := by
  obtain ⟨ahead, next, took, facesNext, groups⟩ := faces.take
  rcases take_number_cases ahead with ⟨stop, answered, same⟩ | ⟨fault, stopped, _, stuck⟩
  · rw [took, ahead] at same
    cases same
    exact ⟨_, answered, facesNext, groups⟩
  · rw [took] at stuck
    cases stuck

theorem among (faces : cursor.Faces (.symbol operator :: tokens) rest) {candidates : List Operator}
    (listed : operator ∈ candidates) : cursor.lookahead.isAmong candidates = true :=
  Token.is_among_iff.mpr ⟨operator, listed, faces.take.1⟩

theorem not_among (faces : cursor.Faces (.symbol operator :: tokens) rest)
    {candidates : List Operator} (other : operator ∉ candidates) :
    cursor.lookahead.isAmong candidates = false := by
  rw [faces.take.1]
  simpa [Token.isAmong] using other

theorem expect (faces : cursor.Faces (.symbol operator :: tokens) rest) (fault : Fault) :
    ∃ next, cursor.expect operator fault = .done () next ∧ next.Faces tokens rest ∧
      next.openGroups = operator.groupsAfter cursor.openGroups := by
  obtain ⟨next, took, facesNext, groups⟩ := faces.takeOperator
  refine ⟨next, ?_, facesNext, groups⟩
  rw [Cursor.expect, if_pos (faces.among (List.mem_singleton.mpr rfl)), took]
  rfl

theorem openGroup (faces : cursor.Faces (.symbol .openParen :: tokens) rest)
    (room : cursor.openGroups < nestingLimit) :
    ∃ next, cursor.openGroup = .done () next ∧ next.Faces tokens rest ∧
      next.openGroups = cursor.openGroups + 1 := by
  obtain ⟨next, took, facesNext, groups⟩ := faces.expect .parenthesizedEquationExpected
  refine ⟨next, ?_, facesNext, groups⟩
  have shallow : ¬nestingLimit < next.openGroups := by
    rw [groups]
    exact Nat.not_lt.mpr room
  rw [Cursor.openGroup, took]
  exact if_neg shallow

end Faces

end Cursor

/-- Where the rule of a category comes to with a value: to the end of an operand, and of a chain to the tail
behind it. Behind a sum no factor may follow, since that would belong to its last term. -/
def Category.ComesTo (category : Category) (cursor : Cursor) (value : Binary64) (stop : Cursor) :
    Prop :=
  match category with
  | .expression => stop.lookahead.isAmong Operator.multiplicative = false →
      parse .expression cursor = parse (.expressionTail value) stop
  | .term => parse .term cursor = parse (.termTail value) stop
  | .unary => parse .unary cursor = .done value stop
  | .factor => parse .factor cursor = .done value stop
  | .group => parse .group cursor = .done value stop

theorem Category.ComesTo.done {category : Category} {cursor stop : Cursor} {value : Binary64}
    (comes : category.ComesTo cursor value stop)
    (stops : stop.lookahead.isAmong category.continuations = false) :
    parse category.rule cursor = .done value stop := by
  cases category with
  | expression =>
      obtain ⟨noSum, noProduct⟩ := Token.is_among_append.mp stops
      rw [Category.rule, comes noProduct, parse_expression_tail, if_neg (by rw [noSum]; decide)]
  | term =>
      have noProduct : stop.lookahead.isAmong Operator.multiplicative = false := stops
      rw [Category.rule, comes, parse_term_tail, if_neg (by rw [noProduct]; decide)]
  | unary => exact comes
  | factor => exact comes
  | group => exact comes

namespace Tree

variable {category : Category} {cursor : Cursor} {more : List Token} {rest : List Piece}
  {value : Binary64}

def IsRead (tree : Tree category) : Prop :=
  ∀ cursor more rest value, cursor.Faces (tree.tokens ++ more) rest →
    NestsWithin cursor.openGroups tree.tokens → tree.value = .ok value →
      ∃ stop, stop.Faces more rest ∧ stop.openGroups = cursor.openGroups ∧
        category.ComesTo cursor value stop

theorem factor_unsigned (tree : Tree .factor) (faces : cursor.Faces (tree.tokens ++ more) rest) :
    cursor.lookahead.isAmong Operator.additive = false := by
  obtain ⟨token, behind, begins, unsigned⟩ := tree.factor_begins
  rw [begins] at faces
  rw [faces.take.1]
  exact unsigned

theorem number_is_read (number : Binary64) : (Tree.number number).IsRead := by
  intro cursor more rest value faces _ valued
  cases valued
  have numeric : cursor.lookahead.isNumber = true := by
    rw [faces.take.1]
    rfl
  obtain ⟨next, took, facesNext, groups⟩ := Cursor.Faces.takeNumber faces
  refine ⟨next, facesNext, groups, ?_⟩
  show parse .factor cursor = .done number next
  rw [parse_factor, if_pos numeric, took]

theorem of_group_is_read {group : Tree .group} (inner : group.IsRead) : (ofGroup group).IsRead := by
  intro cursor more rest value faces room valued
  obtain ⟨stop, facesStop, groups, comes⟩ := inner cursor more rest value faces room valued
  refine ⟨stop, facesStop, groups, ?_⟩
  have symbolic : ¬cursor.lookahead.isNumber = true := by
    obtain ⟨operator, behind, begins, _⟩ := group.group_begins
    rw [tokens, begins] at faces
    rw [faces.take.1]
    exact Bool.false_ne_true
  show parse .factor cursor = .done value stop
  rw [parse_factor, if_neg symbolic]
  exact comes

theorem of_factor_is_read {factor : Tree .factor} (inner : factor.IsRead) :
    (ofFactor factor).IsRead := by
  intro cursor more rest value faces room valued
  obtain ⟨stop, facesStop, groups, comes⟩ := inner cursor more rest value faces room valued
  refine ⟨stop, facesStop, groups, ?_⟩
  show parse .unary cursor = .done value stop
  rw [parse_unary, if_neg (by rw [factor.factor_unsigned faces]; decide)]
  exact comes

theorem signed_is_read {sign : Operator} {additive : sign ∈ Operator.additive}
    {factor : Tree .factor} (inner : factor.IsRead) : (signed sign additive factor).IsRead := by
  intro cursor more rest value faces room valued
  obtain ⟨plain, factorValue, combined⟩ := bind_defined valued
  obtain ⟨next, took, facesNext, groups⟩ := Cursor.Faces.takeOperator faces
  rw [sign.groups_after_of_mem (by simp [additive])] at groups
  have roomNext : NestsWithin next.openGroups factor.tokens := by
    rw [groups, ← sign.groups_after_of_mem (by simp [additive]) cursor.openGroups]
    exact room.2
  obtain ⟨stop, facesStop, kept, comes⟩ := inner next more rest plain facesNext roomNext factorValue
  refine ⟨stop, facesStop, kept.trans groups, ?_⟩
  show parse .unary cursor = .done value stop
  have parsed : parse .factor next = .done plain stop := comes
  rw [parse_unary, if_pos (faces.among additive), took]
  simp only [Outcome.andThen, parsed, combined]
  rfl

theorem link_is_read {chain : Chain} (link : Chain.Link chain) (inner : link.operand.IsRead)
    {left right : Binary64} (faces : cursor.Faces (link.tokens ++ more) rest)
    (room : NestsWithin cursor.openGroups link.tokens) (valued : link.operand.value = .ok right)
    (combined : link.operator.combine left right = .ok value) :
    ∃ stop, stop.Faces more rest ∧ stop.openGroups = cursor.openGroups ∧
      (stop.lookahead.isAmong chain.operand.continuations = false →
        parse (chain.tail left) cursor = parse (chain.tail value) stop) := by
  have plain := link.operator.groups_after_of_mem (Chain.listed_known link.listed) cursor.openGroups
  obtain ⟨next, took, facesNext, groups⟩ := Cursor.Faces.takeOperator faces
  rw [plain] at groups
  have roomNext : NestsWithin next.openGroups link.operand.tokens := by
    rw [groups, ← plain]
    exact room.2
  obtain ⟨stop, facesStop, kept, comes⟩ := inner next more rest right facesNext roomNext valued
  refine ⟨stop, facesStop, kept.trans groups, ?_⟩
  intro stops
  rw [Chain.parse_tail, if_pos (faces.among link.listed), took]
  simp only [Outcome.andThen, comes.done stops, combined]
  rfl

theorem of_unary_is_read {unary : Tree .unary} (inner : unary.IsRead) : (ofUnary unary).IsRead := by
  intro cursor more rest value faces room valued
  obtain ⟨stop, facesStop, groups, comes⟩ := inner cursor more rest value faces room valued
  refine ⟨stop, facesStop, groups, ?_⟩
  have parsed : parse .unary cursor = .done value stop := comes
  show parse .term cursor = parse (.termTail value) stop
  rw [parse_term, parsed]
  rfl

theorem product_is_read {left : Tree .term} {operator : Operator}
    {multiplicative : operator ∈ Operator.multiplicative} {right : Tree .unary}
    (leftRead : left.IsRead) (rightRead : right.IsRead) :
    (product left operator multiplicative right).IsRead := by
  intro cursor more rest value faces room valued
  obtain ⟨first, leftValue, remainder⟩ := bind_defined valued
  obtain ⟨second, rightValue, combined⟩ := bind_defined remainder
  rw [tokens, List.append_assoc] at faces
  obtain ⟨roomLeft, roomRight⟩ := nests_within_append.mp room
  obtain ⟨middle, facesMiddle, kept, comes⟩ :=
    leftRead cursor _ rest first faces roomLeft leftValue
  rw [groups_behind_tree, ← kept] at roomRight
  let link : Chain.Link .product := ⟨operator, multiplicative, right⟩
  obtain ⟨stop, facesStop, groups, turns⟩ :=
    link_is_read link rightRead facesMiddle roomRight rightValue combined
  refine ⟨stop, facesStop, groups.trans kept, ?_⟩
  have parsed : parse .term cursor = parse (.termTail first) middle := comes
  show parse .term cursor = parse (.termTail value) stop
  rw [parsed]
  exact turns Token.is_among_nil

theorem of_term_is_read {term : Tree .term} (inner : term.IsRead) : (ofTerm term).IsRead := by
  intro cursor more rest value faces room valued
  obtain ⟨stop, facesStop, groups, comes⟩ := inner cursor more rest value faces room valued
  refine ⟨stop, facesStop, groups, ?_⟩
  intro noProduct
  have parsed : parse .term cursor = .done value stop := comes.done noProduct
  rw [parse_expression, parsed]
  rfl

theorem sum_is_read {left : Tree .expression} {operator : Operator}
    {additive : operator ∈ Operator.additive} {right : Tree .term}
    (leftRead : left.IsRead) (rightRead : right.IsRead) :
    (sum left operator additive right).IsRead := by
  intro cursor more rest value faces room valued
  obtain ⟨first, leftValue, remainder⟩ := bind_defined valued
  obtain ⟨second, rightValue, combined⟩ := bind_defined remainder
  rw [tokens, List.append_assoc] at faces
  obtain ⟨roomLeft, roomRight⟩ := nests_within_append.mp room
  obtain ⟨middle, facesMiddle, kept, comes⟩ :=
    leftRead cursor _ rest first faces roomLeft leftValue
  rw [groups_behind_tree, ← kept] at roomRight
  let link : Chain.Link .sum := ⟨operator, additive, right⟩
  obtain ⟨stop, facesStop, groups, turns⟩ :=
    link_is_read link rightRead facesMiddle roomRight rightValue combined
  refine ⟨stop, facesStop, groups.trans kept, ?_⟩
  intro noProduct
  have plain := facesMiddle.not_among (Operator.additive_not_multiplicative operator additive)
  rw [comes plain]
  exact turns noProduct

/-- What ends an expression in a group does not go on with it. -/
theorem body_is_read {inner : Tree .expression} (innerRead : inner.IsRead) {closing : Operator}
    (ends : closing ∉ Operator.additive ++ Operator.multiplicative)
    (faces : cursor.Faces (inner.tokens ++ .symbol closing :: more) rest)
    (room : NestsWithin cursor.openGroups inner.tokens) (valued : inner.value = .ok value) :
    ∃ stop, stop.Faces (.symbol closing :: more) rest ∧ stop.openGroups = cursor.openGroups ∧
      parse .expression cursor = .done value stop := by
  obtain ⟨stop, facesStop, kept, comes⟩ := innerRead cursor _ rest value faces room valued
  exact ⟨stop, facesStop, kept, comes.done (facesStop.not_among ends)⟩

theorem parenthesized_is_read {inner : Tree .expression} (innerRead : inner.IsRead) :
    (parenthesized inner).IsRead := by
  intro cursor more rest value faces room valued
  rw [tokens, List.cons_append, List.cons_append, List.append_assoc] at faces
  obtain ⟨spare, roomInside⟩ := room
  obtain ⟨inside, opened, facesInside, deeper⟩ := faces.openGroup (spare rfl)
  have roomInner := (nests_within_append.mp roomInside).1
  obtain ⟨stop, facesStop, kept, parsed⟩ :=
    body_is_read innerRead (by decide) facesInside (by rwa [deeper]) valued
  obtain ⟨after, closed, facesAfter, groups⟩ := facesStop.expect .unclosedParenthesis
  refine ⟨after, facesAfter, ?_, ?_⟩
  · rw [groups, kept, deeper]
    rfl
  · show parse .group cursor = .done value after
    rw [parse_group, if_pos (faces.among (List.mem_singleton.mpr rfl)), opened]
    simp only [Outcome.andThen, parsed, Cursor.closeGroup, closed]
    rfl

theorem call_is_opened {function : Operator} (known : function ∈ Operator.unaryFunctions ++
      Operator.binaryFunctions)
    (faces : cursor.Faces (.symbol function :: .symbol .openParen :: more) rest)
    (spare : cursor.openGroups < nestingLimit) :
    ∃ named inside, cursor.takeOperator = .done function named ∧ named.openGroup = .done () inside ∧
      inside.Faces more rest ∧ inside.openGroups = cursor.openGroups + 1 := by
  obtain ⟨named, took, facesParen, groups⟩ := faces.takeOperator
  rw [function.groups_after_of_function known] at groups
  obtain ⟨inside, opened, facesInside, deeper⟩ := facesParen.openGroup (by rwa [groups])
  exact ⟨named, inside, took, opened, facesInside, by rw [deeper, groups]⟩

theorem call_room {function : Operator} {openGroups : Nat} {arguments : List Token}
    (known : function ∈ Operator.unaryFunctions ++ Operator.binaryFunctions)
    (room : NestsWithin openGroups (.symbol function :: .symbol .openParen :: arguments)) :
    openGroups < nestingLimit ∧ NestsWithin (openGroups + 1) arguments := by
  have plain : (Token.symbol function).groupsAfter openGroups = openGroups :=
    function.groups_after_of_function known openGroups
  obtain ⟨_, spare, inside⟩ := room
  rw [plain] at spare inside
  exact ⟨spare rfl, inside⟩

theorem unary_call_is_read {function : Operator} {known : function ∈ Operator.unaryFunctions}
    {argument : Tree .expression} (argumentRead : argument.IsRead) :
    (unaryCall function known argument).IsRead := by
  intro cursor more rest value faces room valued
  obtain ⟨plain, argumentValue, applied⟩ := bind_defined valued
  simp only [tokens, List.cons_append, List.append_assoc] at faces
  have named := List.mem_append_left Operator.binaryFunctions known
  obtain ⟨spare, roomInside⟩ := call_room named room
  obtain ⟨name, inside, took, opened, facesInside, deeper⟩ := call_is_opened named faces spare
  have roomArgument := (nests_within_append.mp roomInside).1
  obtain ⟨stop, facesStop, kept, parsed⟩ :=
    body_is_read argumentRead (by decide) facesInside (by rwa [deeper]) argumentValue
  obtain ⟨after, closed, facesAfter, groups⟩ := facesStop.expect .unclosedParenthesis
  refine ⟨after, facesAfter, ?_, ?_⟩
  · rw [groups, kept, deeper]
    rfl
  · have noParen : ¬cursor.lookahead.isAmong [.openParen] = true := by
      rw [faces.not_among (by simpa using (Operator.unary_function_begins_group function known).2)]
      decide
    show parse .group cursor = .done value after
    rw [parse_group, if_neg noParen, if_pos (faces.among known), took]
    simp only [Outcome.andThen, opened, parsed, Cursor.closeGroup, closed, applied]
    rfl

theorem binary_call_is_read {function : Operator} {known : function ∈ Operator.binaryFunctions}
    {first second : Tree .expression} (firstRead : first.IsRead) (secondRead : second.IsRead) :
    (binaryCall function known first second).IsRead := by
  intro cursor more rest value faces room valued
  obtain ⟨left, firstValue, remainder⟩ := bind_defined valued
  obtain ⟨right, secondValue, applied⟩ := bind_defined remainder
  simp only [tokens, List.cons_append, List.append_assoc] at room faces
  have named := List.mem_append_right Operator.unaryFunctions known
  obtain ⟨spare, roomInside⟩ := call_room named room
  obtain ⟨name, inside, took, opened, facesInside, deeper⟩ := call_is_opened named faces spare
  obtain ⟨roomFirst, _, roomBehind⟩ := nests_within_append.mp roomInside
  obtain ⟨middle, facesMiddle, keptFirst, parsedFirst⟩ :=
    body_is_read firstRead (by decide) facesInside (by rwa [deeper]) firstValue
  obtain ⟨between, separated, facesBetween, groupsBetween⟩ :=
    facesMiddle.expect .secondParameterExpected
  have level : between.openGroups = cursor.openGroups + 1 := by
    rw [groupsBetween, keptFirst, deeper]
    rfl
  have roomSecond : NestsWithin between.openGroups second.tokens := by
    rw [level]
    rw [groups_behind_tree] at roomBehind
    exact (nests_within_append.mp roomBehind).1
  obtain ⟨stop, facesStop, keptSecond, parsedSecond⟩ :=
    body_is_read secondRead (by decide) facesBetween roomSecond secondValue
  obtain ⟨after, closed, facesAfter, groups⟩ := facesStop.expect .unclosedParenthesis
  refine ⟨after, facesAfter, ?_, ?_⟩
  · rw [groups, keptSecond, level]
    rfl
  · obtain ⟨_, notParen, notUnary⟩ := Operator.binary_function_begins_group function known
    have noParen : ¬cursor.lookahead.isAmong [.openParen] = true := by
      rw [faces.not_among (by simpa using notParen)]
      decide
    have noUnary : ¬cursor.lookahead.isAmong Operator.unaryFunctions = true := by
      rw [faces.not_among notUnary]
      decide
    show parse .group cursor = .done value after
    rw [parse_group, if_neg noParen, if_neg noUnary, if_pos (faces.among known), took]
    simp only [Outcome.andThen, opened, parsedFirst, Cursor.nextParameter, separated, parsedSecond,
      Cursor.closeGroup, closed, applied]
    rfl

theorem is_read (tree : Tree category) : tree.IsRead := by
  induction tree with
  | ofTerm term ih => exact of_term_is_read ih
  | sum left operator additive right left_ih right_ih => exact sum_is_read left_ih right_ih
  | ofUnary unary ih => exact of_unary_is_read ih
  | product left operator multiplicative right left_ih right_ih =>
      exact product_is_read left_ih right_ih
  | ofFactor factor ih => exact of_factor_is_read ih
  | signed sign additive factor ih => exact signed_is_read ih
  | number value => exact number_is_read value
  | ofGroup group ih => exact of_group_is_read ih
  | parenthesized inner ih => exact parenthesized_is_read ih
  | unaryCall function known argument ih => exact unary_call_is_read ih
  | binaryCall function known first second first_ih second_ih =>
      exact binary_call_is_read first_ih second_ih

end Tree

end Calculator
