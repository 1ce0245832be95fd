import Calculator.Proofs.SourceReading

/-!
# Evaluation as a fold over lexemes

The pushdown machine can be run on a source by itself. Each lexeme is scanned, then the token before it is
checked, and only then is the lexeme read: whether a group is too deep or a factorial has no value shows
one lexeme late. `evaluate_eq_conclude` says that this fold is the evaluator, with the same value or the
same fault on every expression. Neither cursor nor recursion is left in it, so what two expressions have
in common is a matter of their lexemes alone.
-/

set_option autoImplicit false

namespace Calculator

namespace Lexeme

def run (lexeme : Lexeme) : Run where
  kind := lexeme.kind
  text := lexeme.text.toList

theorem ofList_text_run (lexeme : Lexeme) : String.ofList lexeme.run.text = lexeme.text :=
  String.ofList_toList

theorem map_run_place (start : Nat) (all : List Run) : (place start all).map run = all := by
  induction all generalizing start with
  | nil => rfl
  | cons first rest ih => simp [place, run, ih]

theorem place_append (start : Nat) (front behind : List Run) :
    ∃ stop, place start (front ++ behind) = place start front ++ place stop behind := by
  induction front generalizing start with
  | nil => exact ⟨start, rfl⟩
  | cons first rest ih =>
      obtain ⟨stop, placed⟩ := ih (start + (String.ofList first.text).utf8ByteSize)
      exact ⟨stop, congrArg (List.cons _) placed⟩

theorem map_run_of_source (source : String) : (ofSource source).map run = runs source.toList :=
  map_run_place 0 (runs source.toList)

end Lexeme

namespace Token

def ofRun? (run : Lexeme.Run) : Option Token :=
  ofLexeme? { kind := run.kind, text := String.ofList run.text, start := 0 }

theorem of_run (lexeme : Lexeme) : ofRun? lexeme.run = ofLexeme? lexeme := by
  simp [ofRun?, ofLexeme?, Lexeme.run]

theorem map_of_run (lexemes : List Lexeme) :
    (lexemes.map Lexeme.run).map ofRun? = lexemes.map ofLexeme? := by
  simp [of_run]

end Token

def groupsBehind (openGroups : Nat) (tokens : List Token) : Nat :=
  tokens.foldl (fun count token => token.groupsAfter count) openGroups

theorem groups_behind_cons (openGroups : Nat) (token : Token) (rest : List Token) :
    groupsBehind openGroups (token :: rest) = groupsBehind (token.groupsAfter openGroups) rest :=
  rfl

theorem groups_behind_append (openGroups : Nat) (front behind : List Token) :
    groupsBehind openGroups (front ++ behind) =
      groupsBehind (groupsBehind openGroups front) behind :=
  List.foldl_append

theorem groups_behind_le {openGroups limit : Nat} {tokens : List Token} (before : openGroups ≤ limit)
    (shallow : ∀ count ∈ groupCounts openGroups tokens, count ≤ limit) :
    groupsBehind openGroups tokens ≤ limit := by
  induction tokens generalizing openGroups with
  | nil => exact before
  | cons token rest ih =>
      rw [group_counts_cons] at shallow
      apply ih (shallow _ List.mem_cons_self)
      intro count member
      exact shallow count (List.mem_cons_of_mem _ member)

instance Tree.decidableDefined {category : Category} (tree : Tree category) :
    Decidable tree.Defined :=
  match evaluated : tree.value with
  | .ok value => isTrue ⟨value, evaluated⟩
  | .error _ => isFalse fun defined => by
      obtain ⟨value, valued⟩ := defined
      rw [evaluated] at valued
      cases valued

instance Context.decidableDefined : {category : Category} → (context : Context category) →
    Decidable context.Defined
  | _, start => isTrue trivial
  | _, parenthesized outer => outer.decidableDefined
  | _, unaryArgument _ _ outer => outer.decidableDefined
  | _, firstArgument _ _ outer => outer.decidableDefined
  | _, secondArgument _ _ first outer =>
      @instDecidableAnd _ _ outer.decidableDefined first.decidableDefined
  | _, firstTerm outer => outer.decidableDefined
  | _, addend left _ _ outer => @instDecidableAnd _ _ outer.decidableDefined left.decidableDefined
  | _, firstOperand outer => outer.decidableDefined
  | _, multiplier left _ _ outer =>
      @instDecidableAnd _ _ outer.decidableDefined left.decidableDefined
  | _, unsigned outer => outer.decidableDefined
  | _, signed _ _ outer => outer.decidableDefined
  | _, grouped outer => outer.decidableDefined

namespace Reading

instance decidableDefined (state : Reading) : Decidable state.Defined :=
  match state with
  | operand context => context.decidableDefined
  | afterSign _ _ context => context.decidableDefined
  | unaryName _ _ context => context.decidableDefined
  | binaryName _ _ context => context.decidableDefined
  | ended context term => @instDecidableAnd _ _ context.decidableDefined term.decidableDefined

def whole? : Reading → Option (Tree .expression)
  | ended (.firstTerm .start) term => some (.ofTerm term)
  | ended (.addend left operator additive .start) right => some (.sum left operator additive right)
  | _ => none

theorem whole_settle (tree : Tree .expression) : (Context.start.settle tree).whole? = some tree := by
  cases tree <;> rfl

theorem whole_eq_none {state : Reading} (incomplete : ¬state.Complete) : state.whole? = none := by
  unfold whole?
  split
  · next term => exact absurd ⟨.ofTerm term, rfl⟩ incomplete
  · next left operator additive right =>
      exact absurd ⟨.sum left operator additive right, rfl⟩ incomplete
  · rfl

end Reading

/-- Where the machine stands between two lexemes: what it has read, and the groups that are open. -/
structure Standing where
  reading : Reading
  openGroups : Nat

namespace Standing

def start : Standing where
  reading := .start
  openGroups := 0

def check (standing : Standing) : Except Fault Unit :=
  if nestingLimit < standing.openGroups then .error (.nestingTooDeep nestingLimit)
  else if standing.reading.Defined then .ok ()
  else .error .integerExpected

/-- Scans one lexeme, checks the token before it, and reads it. -/
def take (standing : Standing) (run : Lexeme.Run) : Except Fault Standing :=
  match Token.ofRun? run with
  | none => .error (.unknownOperator (String.ofList run.text))
  | some token => do
      standing.check
      match standing.reading.step token with
      | none => .error (standing.reading.refusal (String.ofList run.text))
      | some next =>
          .ok { reading := next, openGroups := token.groupsAfter standing.openGroups }

def takeAll (standing : Standing) (runs : List Lexeme.Run) : Except Fault Standing :=
  runs.foldlM take standing

def finish (standing : Standing) : Except Fault Binary64 := do
  standing.check
  match standing.reading.whole? with
  | none => .error (standing.reading.refusal "")
  | some tree => tree.value

def conclude (standing : Standing) (runs : List Lexeme.Run) : Except Fault Binary64 := do
  (← standing.takeAll runs).finish

variable {standing next : Standing} {run : Lexeme.Run} {token : Token} {fault : Fault}
  {runs behind : List Lexeme.Run}

theorem take_all_cons (standing : Standing) (run : Lexeme.Run) (runs : List Lexeme.Run) :
    standing.takeAll (run :: runs) = standing.take run >>= fun next => next.takeAll runs :=
  List.foldlM_cons

theorem take_all_append (standing : Standing) (front behind : List Lexeme.Run) :
    standing.takeAll (front ++ behind) = standing.takeAll front >>= fun next => next.takeAll behind :=
  List.foldlM_append

theorem conclude_append (standing : Standing) (front behind : List Lexeme.Run) :
    standing.conclude (front ++ behind) =
      standing.takeAll front >>= fun next => next.conclude behind := by
  rw [conclude, take_all_append]
  cases standing.takeAll front <;> rfl

theorem conclude_cons (standing : Standing) (run : Lexeme.Run) (runs : List Lexeme.Run) :
    standing.conclude (run :: runs) = standing.take run >>= fun next => next.conclude runs := by
  rw [conclude, take_all_cons]
  cases standing.take run <;> rfl

theorem take_all_of_taken (taken : standing.take run = .ok next) (runs : List Lexeme.Run) :
    standing.takeAll (run :: runs) = next.takeAll runs := by
  rw [take_all_cons, taken]
  rfl

theorem take_all_of_failed (failed : standing.take run = .error fault) (runs : List Lexeme.Run) :
    standing.takeAll (run :: runs) = .error fault := by
  rw [take_all_cons, failed]
  rfl

theorem conclude_of_taken (taken : standing.take run = .ok next) (runs : List Lexeme.Run) :
    standing.conclude (run :: runs) = next.conclude runs := by
  rw [conclude_cons, taken]
  rfl

theorem conclude_of_failed (failed : standing.takeAll runs = .error fault)
    (behind : List Lexeme.Run) : standing.conclude (runs ++ behind) = .error fault := by
  rw [conclude_append, failed]
  rfl

theorem conclude_of_all_taken (taken : standing.takeAll runs = .ok next)
    (behind : List Lexeme.Run) : standing.conclude (runs ++ behind) = next.conclude behind := by
  rw [conclude_append, taken]
  rfl

theorem check_of_sound (shallow : standing.openGroups ≤ nestingLimit)
    (defined : standing.reading.Defined) : standing.check = .ok () := by
  rw [check, if_neg (Nat.not_lt.mpr shallow), if_pos defined]

theorem check_of_deep (deep : nestingLimit < standing.openGroups) :
    standing.check = .error (.nestingTooDeep nestingLimit) :=
  if_pos deep

theorem check_of_undefined (shallow : standing.openGroups ≤ nestingLimit)
    (undefined : ¬standing.reading.Defined) : standing.check = .error .integerExpected := by
  rw [check, if_neg (Nat.not_lt.mpr shallow), if_neg undefined]

theorem take_of_unknown (unknown : Token.ofRun? run = none) :
    standing.take run = .error (.unknownOperator (String.ofList run.text)) := by
  simp only [take, unknown]

theorem take_of_failed_check (known : Token.ofRun? run = some token)
    (failed : standing.check = .error fault) : standing.take run = .error fault := by
  simp only [take, known, failed]
  rfl

theorem take_of_blocked (known : Token.ofRun? run = some token) (sound : standing.check = .ok ())
    (blocked : standing.reading.step token = none) :
    standing.take run = .error (standing.reading.refusal (String.ofList run.text)) := by
  simp only [take, known, sound, blocked]
  rfl

theorem take_of_step {state : Reading} (known : Token.ofRun? run = some token)
    (sound : standing.check = .ok ()) (stepped : standing.reading.step token = some state) :
    standing.take run =
      .ok { reading := state, openGroups := token.groupsAfter standing.openGroups } := by
  simp only [take, known, sound, stepped]
  rfl

theorem finish_of_failed_check (failed : standing.check = .error fault) :
    standing.finish = .error fault := by
  rw [finish, failed]
  rfl

theorem finish_of_complete {tree : Tree .expression}
    (complete : standing.reading = Context.start.settle tree) (sound : standing.check = .ok ()) :
    standing.finish = tree.value := by
  rw [finish, sound, complete, Reading.whole_settle]
  rfl

theorem finish_of_incomplete (incomplete : ¬standing.reading.Complete)
    (sound : standing.check = .ok ()) :
    standing.finish = .error (standing.reading.refusal "") := by
  rw [finish, sound, Reading.whole_eq_none incomplete]
  rfl

/-- A check that fails is reported unless the next lexeme has no token, which is seen first. -/
theorem conclude_of_failed_check (failed : standing.check = .error fault)
    (scanned : ∀ run ∈ runs.head?, Token.ofRun? run ≠ none) :
    standing.conclude runs = .error fault := by
  cases runs with
  | nil => exact finish_of_failed_check failed
  | cons run rest =>
      obtain ⟨token, known⟩ := Option.ne_none_iff_exists'.mp (scanned run rfl)
      rw [conclude_cons, take_of_failed_check known failed]
      rfl

/-- Tokens that the machine reads are taken one by one, unless a group among them is too deep: that is
found at the token behind it, and the last token has none. -/
theorem take_all_read {reading last : Reading} {openGroups : Nat} {tokens : List Token}
    (accepted : runs.map Token.ofRun? = tokens.map some) (reads : reading.read tokens = some last)
    (defined : last.Defined) :
    takeAll { reading, openGroups } runs =
        .ok { reading := last, openGroups := groupsBehind openGroups tokens } ∨
      takeAll { reading, openGroups } runs = .error (.nestingTooDeep nestingLimit) ∧
        ∃ count ∈ openGroups :: groupCounts openGroups tokens, nestingLimit < count := by
  induction tokens generalizing runs reading openGroups with
  | nil =>
      rw [List.map_eq_nil_iff.mp accepted]
      cases reads
      exact Or.inl rfl
  | cons token rest ih =>
      obtain ⟨between, stepped, more⟩ := Option.bind_eq_some_iff.mp reads
      cases runs with
      | nil => cases accepted
      | cons run runs =>
          injection accepted with known acceptedRest
          by_cases deep : nestingLimit < openGroups
          · right
            have failed := @take_of_failed_check { reading, openGroups } _ _ _ known (check_of_deep deep)
            exact ⟨take_all_of_failed failed runs, openGroups, List.mem_cons_self, deep⟩
          · have sound := @check_of_sound { reading, openGroups } (Nat.not_lt.mp deep)
              (Reading.defined_of_read reads defined)
            rw [take_all_of_taken (take_of_step known sound stepped), group_counts_cons]
            rcases ih acceptedRest more with taken | ⟨failed, count, member, tooDeep⟩
            · exact Or.inl taken
            · exact Or.inr ⟨failed, count, List.mem_cons_of_mem _ member, tooDeep⟩

theorem take_all_of_shallow {reading last : Reading} {openGroups : Nat} {tokens : List Token}
    (accepted : runs.map Token.ofRun? = tokens.map some) (reads : reading.read tokens = some last)
    (defined : last.Defined) (before : openGroups ≤ nestingLimit)
    (shallow : ∀ count ∈ groupCounts openGroups tokens, count ≤ nestingLimit) :
    takeAll { reading, openGroups } runs =
      .ok { reading := last, openGroups := groupsBehind openGroups tokens } := by
  rcases take_all_read accepted reads defined with taken | ⟨_, count, member, deep⟩
  · exact taken
  · rcases List.mem_cons.mp member with rfl | later
    · exact absurd before (Nat.not_le.mpr deep)
    · exact absurd (shallow count later) (Nat.not_le.mpr deep)

end Standing

namespace Cursor

variable {cursor stopped : Cursor} {fault : Fault}

theorem pending_of_advance_failed (stuck : cursor.advance = .failed fault stopped) :
    ∃ lexeme, cursor.pending = lexeme :: stopped.pending := by
  unfold advance at stuck
  split at stuck
  · cases stuck
  · next lexeme pending more =>
      split at stuck
      · cases stuck
        exact ⟨lexeme, more⟩
      · cases stuck

theorem pending_of_take_failed (waiting : cursor.lookahead ≠ .finish)
    (stuck : cursor.take = .failed fault stopped) :
    ∃ lexeme, cursor.pending = lexeme :: stopped.pending := by
  rw [take_eq_advance waiting] at stuck
  obtain ⟨lexeme, gone⟩ := pending_of_advance_failed (Outcome.map_failed stuck)
  exact ⟨lexeme, gone⟩

end Cursor

/-- A fault shows within the lexemes that have been scanned, or only when the end has been seen. -/
inductive Shown (standing : Standing) (ahead : List Lexeme) (fault : Fault) (stopped : Cursor) :
    Prop where
  | within (scanned : List Lexeme) (split : ahead = scanned ++ stopped.pending)
      (failed : standing.takeAll (scanned.map Lexeme.run) = .error fault)
  | atEnd (finished : stopped.lookahead = .finish) (beyond : fault.isLexical = false)
      (failed : standing.conclude (ahead.map Lexeme.run) = .error fault)

namespace Shown

variable {standing next : Standing} {behind ahead : List Lexeme} {fault : Fault} {stopped : Cursor}

theorem conclude (shown : Shown standing ahead fault stopped) :
    standing.conclude (ahead.map Lexeme.run) = .error fault := by
  cases shown with
  | within scanned split failed =>
      rw [split, List.map_append]
      exact Standing.conclude_of_failed failed _
  | atEnd finished beyond failed => exact failed

theorem after (taken : standing.takeAll (behind.map Lexeme.run) = .ok next)
    (shown : Shown next ahead fault stopped) : Shown standing (behind ++ ahead) fault stopped := by
  cases shown with
  | within scanned split failed =>
      refine .within (behind ++ scanned) (by rw [split, List.append_assoc]) ?_
      rw [List.map_append, Standing.take_all_append, taken]
      exact failed
  | atEnd finished beyond failed =>
      refine .atEnd finished beyond ?_
      rw [List.map_append, Standing.conclude_append, taken]
      exact failed

end Shown

theorem Reading.refusal_not_lexical (state : Reading) (text : String) :
    (state.refusal text).isLexical = false := by
  have syntactic := state.refusal_is_syntactic text
  cases fault : state.refusal text with
  | unknownOperator written =>
      rw [fault] at syntactic
      cases syntactic
  | _ => rfl

namespace Reached

variable {source : String} {tokens : List Token} {state next : Reading} {place stopped : Cursor}
  {ahead : List Lexeme} {fault : Fault}

theorem open_groups_le (reached : Reached source tokens state place ahead) :
    place.openGroups ≤ nestingLimit := by
  rw [reached.groups]
  exact groups_behind_le (Nat.zero_le _) (deepest_le_iff.mp reached.shallow)

theorem sound (reached : Reached source tokens state place ahead) :
    Standing.check { reading := state, openGroups := place.openGroups } = .ok () :=
  Standing.check_of_sound reached.open_groups_le reached.defined

theorem take_all (reached : Reached source tokens state place ahead) :
    ∃ behind, Lexeme.ofSource source = behind ++ ahead ∧
      Standing.start.takeAll (behind.map Lexeme.run) =
        .ok { reading := state, openGroups := place.openGroups } := by
  obtain ⟨behind, split, accepted⟩ := reached.split
  refine ⟨behind, split, ?_⟩
  rw [← Token.map_of_run] at accepted
  rw [reached.groups]
  exact Standing.take_all_of_shallow accepted reached.read reached.defined (Nat.zero_le _)
    (deepest_le_iff.mp reached.shallow)

/-- What a check finds behind the look-ahead shows at the next lexeme, or at the end if there is none. -/
theorem shown_of_check (reached : Reached source tokens state place ahead)
    (read : state.step place.lookahead = some next)
    (took : place.take = .done place.lookahead stopped) (beyond : fault.isLexical = false)
    (failed : Standing.check { reading := next, openGroups := stopped.openGroups } = .error fault) :
    Shown { reading := state, openGroups := place.openGroups } ahead fault stopped := by
  obtain ⟨lexeme, rest, rfl, known, _, shows, groups⟩ := Cursor.take_done reached.shows took
  rw [← Token.of_run] at known
  have taken := Standing.take_of_step known reached.sound read
  rw [← groups] at taken
  cases rest with
  | nil =>
      refine .atEnd shows.1 beyond ?_
      rw [List.map_singleton, Standing.conclude_of_taken taken]
      exact Standing.finish_of_failed_check failed
  | cons scanned pending =>
      obtain ⟨accepted, _, rfl⟩ := shows
      rw [← Token.of_run] at accepted
      refine .within [lexeme, scanned] rfl ?_
      rw [List.map_cons, Standing.take_all_of_taken taken]
      exact Standing.take_all_of_failed (Standing.take_of_failed_check accepted failed) []

theorem shown (reached : Reached source tokens state place ahead)
    (halts : Halts state place fault stopped) :
    Shown { reading := state, openGroups := place.openGroups } ahead fault stopped := by
  cases halts with
  | refused blocked unfinished same =>
      have samePending : stopped.pending = place.pending := by rw [← same]
      have sameAhead : stopped.lookahead = place.lookahead := by rw [← same]
      cases ahead with
      | nil =>
          obtain ⟨finished, written, _⟩ := reached.shows
          refine .atEnd (sameAhead.trans finished) (state.refusal_not_lexical place.text) ?_
          rw [written]
          exact Standing.finish_of_incomplete (unfinished finished) reached.sound
      | cons lexeme pending =>
          obtain ⟨known, written, rest⟩ := reached.shows
          rw [← Token.of_run] at known
          refine .within [lexeme] (by rw [samePending, rest]; rfl) ?_
          have refused := Standing.take_of_blocked known reached.sound blocked
          rw [Lexeme.ofList_text_run, ← written] at refused
          exact Standing.take_all_of_failed refused []
  | unknown read stuck =>
      have waiting := Reading.waiting_of_step read
      obtain ⟨lexeme, bad, rest, rfl, known, unknown, rfl⟩ :=
        Cursor.take_failed reached.shows waiting stuck
      obtain ⟨gone, pending⟩ := Cursor.pending_of_take_failed waiting stuck
      have shows : place.pending = bad :: rest := reached.shows.2.2
      rw [shows] at pending
      injection pending with _ left
      rw [← Token.of_run] at known unknown
      refine .within [lexeme, bad] (by rw [left]; rfl) ?_
      have taken := Standing.take_of_step known reached.sound read
      rw [List.map_cons, Standing.take_all_of_taken taken, ← bad.ofList_text_run]
      exact Standing.take_all_of_failed (Standing.take_of_unknown unknown) []
  | tooDeep read took opened deep =>
      exact reached.shown_of_check read took rfl (Standing.check_of_deep deep)
  | undefined read took undefined =>
      have closed := Reading.close_paren_of_undefined read reached.defined undefined
      obtain ⟨_, _, _, _, _, _, groups⟩ := Cursor.take_done reached.shows took
      have shallow : stopped.openGroups ≤ nestingLimit := by
        rw [groups, closed]
        exact Nat.le_trans (Nat.sub_le _ _) reached.open_groups_le
      exact reached.shown_of_check read took rfl (Standing.check_of_undefined shallow undefined)

end Reached

theorem pending_of_unopened {source : String} {bad : Lexeme} {rest : List Lexeme} {fault : Fault}
    {stopped : Cursor} (split : Lexeme.ofSource source = bad :: rest)
    (unknown : Token.ofLexeme? bad = none) (failed : readSource source = .failed fault stopped) :
    stopped.pending = rest := by
  simp only [readSource, Cursor.openSource, Cursor.advance, Cursor.ofSource, split, unknown] at failed
  cases failed
  rfl

/-- Wherever the evaluation stops, the fold finds the same fault. -/
theorem read_source_shown {source : String} {fault : Fault} {stopped : Cursor}
    (failed : readSource source = .failed fault stopped) :
    Shown .start (Lexeme.ofSource source) fault stopped := by
  rcases read_source_failed failed with
    ⟨bad, rest, split, unknown, rfl⟩ | ⟨tokens, state, place, ahead, reached, halts⟩
  · have left := pending_of_unopened split unknown failed
    rw [← Token.of_run] at unknown
    refine .within [bad] (by rw [split, left]; rfl) ?_
    rw [← bad.ofList_text_run]
    exact Standing.take_all_of_failed (Standing.take_of_unknown unknown) []
  · obtain ⟨behind, split, taken⟩ := reached.take_all
    rw [split]
    exact (reached.shown halts).after taken

theorem Standing.conclude_tree {runs : List Lexeme.Run} {tree : Tree .expression} {value : Binary64}
    (accepted : runs.map Token.ofRun? = tree.tokens.map some)
    (shallow : deepest tree.tokens ≤ nestingLimit) (valued : tree.value = .ok value) :
    Standing.start.conclude runs = .ok value := by
  have reads := Context.start.read_tree tree
  have defined := (Context.start.settle_defined tree).mpr ⟨trivial, value, valued⟩
  have counts := deepest_le_iff.mp shallow
  have taken := take_all_of_shallow accepted reads defined (Nat.zero_le _) counts
  have sound := @check_of_sound { reading := Context.start.settle tree, openGroups := _ }
    (groups_behind_le (Nat.zero_le _) counts) defined
  have finished := finish_of_complete rfl sound
  rw [← List.append_nil runs, conclude_append, start, Reading.start, taken, ← valued, ← finished]
  rfl

/-- The fold is the evaluator. -/
theorem evaluate_eq_conclude (expression : String) :
    evaluate expression =
      Standing.start.conclude (Lexeme.runs (Text.stripWhitespace expression).toList) := by
  rw [← Lexeme.map_run_of_source]
  cases outcome : evaluate expression with
  | error fault =>
      obtain ⟨stopped, failed⟩ := evaluate_error_iff_failed.mp outcome
      exact (read_source_shown failed).conclude.symm
  | ok value =>
      obtain ⟨stop, finished⟩ := evaluate_ok_iff_done.mp outcome
      obtain ⟨tree, accepted, shallow, valued⟩ := read_source_done finished
      rw [← Token.map_of_run] at accepted
      exact (Standing.conclude_tree accepted shallow valued).symm

end Calculator
