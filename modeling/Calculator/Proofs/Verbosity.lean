import Calculator.Proofs.Unforgeable

/-!
# Verbosity

Flags that ask for more output change nothing but the level of the log. A command line with more of them is
read as the same request, its run takes the same course, and the lines that it adds to standard error are
events of levels that were hidden before. A line tells by its beginning whether it is an event and of which
level.
-/

set_option autoImplicit false

namespace Calculator

def verboseFlags (argument : String) : Nat :=
  if argument = "--verbose" then 1
  else
    match argument.toList with
    | '-' :: 'v' :: letters => if letters.all (· = 'v') then letters.length + 1 else 0
    | _ => 0

/-- Behind two dashes an argument asks for nothing. -/
def flagCount : List String → Nat
  | [] => 0
  | argument :: rest => if argument = "--" then 0 else verboseFlags argument + flagCount rest

def withoutFlags : List String → List String
  | [] => []
  | argument :: rest =>
      if argument = "--" then argument :: rest
      else if verboseFlags argument = 0 then argument :: withoutFlags rest
      else withoutFlags rest

/-- Flags in front of a command line add to its count. -/
theorem flags_in_front (count : Nat) (arguments : List String) :
    withoutFlags (List.replicate count "-v" ++ arguments) = withoutFlags arguments ∧
      flagCount (List.replicate count "-v" ++ arguments) = count + flagCount arguments := by
  have flag : verboseFlags "-v" = 1 := by decide
  induction count with
  | zero => exact ⟨rfl, (Nat.zero_add _).symm⟩
  | succ count ih =>
      rw [List.replicate_succ, List.cons_append, withoutFlags, flagCount, flag, ih.1, ih.2]
      refine ⟨by simp, ?_⟩
      rw [if_neg (by decide)]
      omega

/-! ## Reading the flags -/

def Options.quiet (options : Options) : Options :=
  { options with verbosity := 0 }

def Request.quiet : Request → Request
  | run options => run options.quiet
  | request => request

namespace Options

variable {options other next last : Options} {argument : String} {arguments : List String}

theorem more_verbose_quiet (options : Options) : options.moreVerbose.quiet = options.quiet := rfl

theorem read_short_quiet (options : Options) (letters : List Char) :
    (options.quiet.readShort letters).map quiet = (options.readShort letters).map quiet := by
  induction letters generalizing options with
  | nil => rfl
  | cons letter rest ih =>
      by_cases verbose : letter = 'v'
      · rw [verbose, readShort, readShort, ← ih, ← ih options.moreVerbose, more_verbose_quiet,
          more_verbose_quiet]
        rfl
      · unfold readShort
        split <;> simp_all [Except.map]

theorem with_expression_quiet (options : Options) (argument : String) :
    (options.quiet.withExpression argument).map quiet = (options.withExpression argument).map quiet := by
  have same : options.quiet.expression = options.expression := rfl
  unfold withExpression
  rw [same]
  split <;> rfl

theorem read_long_quiet (options : Options) (name : String) :
    (options.quiet.readLong name).map quiet = (options.readLong name).map quiet := by
  have same : options.quiet.helpBanner = options.helpBanner := rfl
  unfold readLong withoutBanner
  rw [same]
  split
  · rfl
  split
  · rfl
  split
  · rfl
  split
  · split <;> rfl
  · rfl

theorem read_argument_quiet (options : Options) (argument : String) :
    (options.quiet.readArgument argument).map quiet = (options.readArgument argument).map quiet := by
  unfold readArgument
  split
  · exact read_long_quiet options _
  · exact read_short_quiet options _
  · exact with_expression_quiet options _

theorem read_argument_alike (alike : options.quiet = other.quiet) (argument : String) :
    (options.readArgument argument).map quiet = (other.readArgument argument).map quiet := by
  rw [← read_argument_quiet options, alike, read_argument_quiet]

theorem read_short_flags (options : Options) {letters : List Char}
    (verbose : letters.all (· = 'v') = true) :
    ∃ next, options.readShort letters = .ok next ∧ next.quiet = options.quiet := by
  induction letters generalizing options with
  | nil => exact ⟨options, rfl, rfl⟩
  | cons letter rest ih =>
      rw [List.all_cons, Bool.and_eq_true, decide_eq_true_eq] at verbose
      obtain ⟨rfl, more⟩ := verbose
      exact ih options.moreVerbose more

theorem verbose_flags_cases (asks : verboseFlags argument ≠ 0) :
    argument = "--verbose" ∨
      ∃ letters, argument.toList = '-' :: 'v' :: letters ∧ letters.all (· = 'v') = true := by
  unfold verboseFlags at asks
  split at asks
  · next named => exact .inl named
  · split at asks
    · next letters shape =>
        split at asks
        · next verbose => exact .inr ⟨letters, shape, verbose⟩
        · exact absurd rfl asks
    · exact absurd rfl asks

theorem read_argument_flags (options : Options) (asks : verboseFlags argument ≠ 0) :
    ∃ next, options.readArgument argument = .ok next ∧ next.quiet = options.quiet := by
  rcases verbose_flags_cases asks with rfl | ⟨letters, shape, verbose⟩
  · exact ⟨options.moreVerbose, rfl, rfl⟩
  · have read : options.readArgument argument = options.readShort ('v' :: letters) := by
      unfold readArgument
      rw [shape]
      rfl
    rw [read]
    exact read_short_flags options (by simpa using verbose)

theorem go_on_quiet {first second : Except Request Options} {goOn goOnToo : Options → Request}
    (alike : first.map quiet = second.map quiet)
    (onward : ∀ options other : Options, options.quiet = other.quiet →
      (goOn options).quiet = (goOnToo other).quiet) :
    (match first with
      | .ok options => goOn options
      | .error request => request).quiet =
      (match second with
        | .ok options => goOnToo options
        | .error request => request).quiet := by
  cases first with
  | ok options =>
      cases second with
      | ok other => exact onward options other (Except.ok.inj alike)
      | error request => cases alike
  | error request =>
      cases second with
      | ok other => cases alike
      | error other => rw [Except.error.inj alike]

theorem with_expression_alike (alike : options.quiet = other.quiet) (argument : String) :
    (options.withExpression argument).map quiet = (other.withExpression argument).map quiet := by
  rw [← with_expression_quiet options, alike, with_expression_quiet]

theorem read_expressions_alike (alike : options.quiet = other.quiet) (arguments : List String) :
    (options.readExpressions arguments).quiet = (other.readExpressions arguments).quiet := by
  induction arguments generalizing options other with
  | nil => exact congrArg Request.run alike
  | cons argument rest ih =>
      rw [readExpressions, readExpressions]
      exact go_on_quiet (with_expression_alike alike argument) fun _ _ alikeNext => ih alikeNext

/-- Without the flags the same request is read, but for its verbosity. -/
theorem read_without_flags (alike : options.quiet = other.quiet) (arguments : List String) :
    (options.read arguments).quiet = (other.read (withoutFlags arguments)).quiet := by
  induction arguments generalizing options other with
  | nil => exact congrArg Request.run alike
  | cons argument rest ih =>
      rw [withoutFlags, Options.read]
      by_cases dashes : argument = "--"
      · rw [if_pos dashes, if_pos dashes, Options.read, if_pos dashes]
        exact read_expressions_alike alike rest
      rw [if_neg dashes, if_neg dashes]
      by_cases silent : verboseFlags argument = 0
      · rw [if_pos silent, Options.read, if_neg dashes]
        exact go_on_quiet (read_argument_alike alike argument) fun _ _ alikeNext => ih alikeNext
      · obtain ⟨next, read, same⟩ := read_argument_flags options silent
        rw [if_neg silent, read]
        exact ih (same.trans alike)

/-! ## Counting the flags -/

theorem more_verbose_verbosity (options : Options) :
    options.moreVerbose.verbosity = min (options.verbosity + 1) verbosityLimit := rfl

theorem read_short_verbosity {letters : List Char} (bounded : options.verbosity ≤ verbosityLimit)
    (read : options.readShort letters = .ok next) :
    letters.all (· = 'v') = true ∧
      next.verbosity = min (options.verbosity + letters.length) verbosityLimit := by
  induction letters generalizing options with
  | nil =>
      cases read
      exact ⟨rfl, (Nat.min_eq_left bounded).symm⟩
  | cons letter rest ih =>
      have verbose : letter = 'v' := by
        unfold readShort at read
        split at read <;> simp_all
      rw [verbose, readShort] at read
      obtain ⟨more, counted⟩ := ih (Nat.min_le_right _ _) read
      refine ⟨by simp [verbose, more], ?_⟩
      rw [counted, more_verbose_verbosity, List.length_cons]
      omega

theorem with_expression_verbosity (read : options.withExpression argument = .ok next) :
    next.verbosity = options.verbosity := by
  unfold withExpression at read
  split at read
  · cases read
    rfl
  · cases read

theorem read_long_verbosity {name : String} (bounded : options.verbosity ≤ verbosityLimit)
    (read : options.readLong name = .ok next) :
    next.verbosity = min (options.verbosity + if name = "verbose" then 1 else 0) verbosityLimit := by
  unfold readLong withoutBanner at read
  split at read
  · cases read
  split at read
  · cases read
  split at read
  · next verbose =>
      cases read
      rw [if_pos verbose, more_verbose_verbosity]
  next other =>
    have kept : next.verbosity = options.verbosity := by
      split at read
      · split at read
        · cases read
          rfl
        · cases read
      · cases read
    rw [if_neg other, kept, Nat.add_zero, Nat.min_eq_left bounded]

theorem verbose_flags_of_long {name : List Char} (shape : argument.toList = '-' :: '-' :: name) :
    verboseFlags argument = if String.ofList name = "verbose" then 1 else 0 := by
  have dashes : "--verbose".toList = '-' :: '-' :: "verbose".toList := by decide
  have same : argument = "--verbose" ↔ String.ofList name = "verbose" := by
    rw [← String.toList_inj, ← String.toList_inj, shape, dashes, String.toList_ofList]
    simp
  unfold verboseFlags
  simp [same, shape]

theorem verbose_flags_of_short {letters : List Char} (shape : argument.toList = '-' :: letters)
    (some : letters ≠ []) (verbose : letters.all (· = 'v') = true) :
    verboseFlags argument = letters.length := by
  have dashes : "--verbose".toList = '-' :: '-' :: "verbose".toList := by decide
  cases letters with
  | nil => exact absurd rfl some
  | cons letter rest =>
      rw [List.all_cons, Bool.and_eq_true, decide_eq_true_eq] at verbose
      obtain ⟨rfl, more⟩ := verbose
      have short : argument ≠ "--verbose" := by
        rw [ne_eq, ← String.toList_inj, shape, dashes]
        simp
      unfold verboseFlags
      simp [short, shape, more]

theorem read_argument_verbosity (bounded : options.verbosity ≤ verbosityLimit)
    (read : options.readArgument argument = .ok next) :
    next.verbosity = min (options.verbosity + verboseFlags argument) verbosityLimit := by
  unfold readArgument at read
  split at read
  · next name shape =>
      rw [verbose_flags_of_long shape]
      exact read_long_verbosity bounded read
  · next first rest long shape =>
      obtain ⟨verbose, counted⟩ := read_short_verbosity bounded read
      rw [verbose_flags_of_short shape (by simp) verbose]
      exact counted
  · next long short =>
      have silent : verboseFlags argument = 0 := by
        apply Decidable.byContradiction
        intro asks
        rcases verbose_flags_cases asks with rfl | ⟨letters, shape, _⟩
        · exact long "verbose".toList (by decide)
        · exact short 'v' letters shape
      rw [silent, with_expression_verbosity read, Nat.add_zero, Nat.min_eq_left bounded]

theorem read_expressions_verbosity (read : options.readExpressions arguments = .run last) :
    last.verbosity = options.verbosity := by
  induction arguments generalizing options with
  | nil =>
      cases read
      rfl
  | cons argument rest ih =>
      rw [readExpressions] at read
      split at read
      · next next taken =>
          rw [ih read, with_expression_verbosity taken]
      · next refused =>
          rw [read] at refused
          cases with_expression_refused refused

theorem read_verbosity (bounded : options.verbosity ≤ verbosityLimit)
    (read : options.read arguments = .run last) :
    last.verbosity = min (options.verbosity + flagCount arguments) verbosityLimit := by
  induction arguments generalizing options with
  | nil =>
      cases read
      exact (Nat.min_eq_left bounded).symm
  | cons argument rest ih =>
      rw [flagCount]
      rw [Options.read] at read
      split at read
      · next dashes =>
          rw [if_pos dashes, read_expressions_verbosity read, Nat.add_zero, Nat.min_eq_left bounded]
      · next others =>
          rw [if_neg others]
          split at read
          · next next taken =>
              have counted := read_argument_verbosity bounded taken
              have boundedNext : next.verbosity ≤ verbosityLimit := by
                rw [counted]
                exact Nat.min_le_right _ _
              rw [ih boundedNext read, counted]
              omega
          · next refused =>
              rw [read] at refused
              exact absurd refused read_argument_refused

end Options

/-! ## Levels -/

namespace Level

theorem rank_of_verbosity (count : Nat) : (ofVerbosity count).rank = min count 3 := by
  match count with
  | 0 => rfl
  | 1 => rfl
  | 2 => rfl
  | count + 3 => exact (Nat.min_eq_right (Nat.le_add_left 3 count)).symm

theorem rank_injective {first second : Level} (same : first.rank = second.rank) : first = second := by
  cases first <;> cases second <;> cases same <;> rfl

theorem of_verbosity_limited (count : Nat) :
    ofVerbosity (min count Options.verbosityLimit) = ofVerbosity count := by
  apply rank_injective
  rw [rank_of_verbosity, rank_of_verbosity, Options.verbosityLimit]
  omega

end Level

theorem level_of_arguments {arguments : List String} {options : Options}
    (accepted : Request.ofArguments arguments = .run options) :
    Run.levelOf (.ofArguments arguments) = .ofVerbosity (flagCount arguments) := by
  have counted := Options.read_verbosity (Nat.zero_le _) accepted
  have none : Options.initial.verbosity = 0 := rfl
  rw [accepted, Run.levelOf, counted, none, Nat.zero_add, Level.of_verbosity_limited]

/-! ## Lines of the log -/

def Level.all : List Level :=
  [warn, info, debug, trace]

/-- A line of the log begins with the name of its level. -/
def logLevel? (line : String) : Option Level :=
  Level.all.find? fun level => (level.label ++ " ").toList.isPrefixOf line.toList

/-- What is no line of the log is shown at every level. -/
def shownAt (level : Level) (line : String) : Bool :=
  match logLevel? line with
  | some found => found.rank ≤ level.rank
  | none => true

theorem log_level_of_line_with (event : Event) (message : String) :
    logLevel? (event.lineWith message) = some event.level := by
  unfold logLevel? Event.lineWith
  simp only [String.toList_append, List.append_assoc]
  cases event.level <;> rfl

theorem log_level_of_first {line : String} {first : Char} {rest : List Char}
    (shape : line.toList = first :: rest) (other : first ∉ ['W', 'I', 'D', 'T']) :
    logLevel? line = none := by
  unfold logLevel?
  rw [shape, List.find?_eq_none]
  simp only [List.mem_cons, List.not_mem_nil, or_false, not_or] at other
  intro level _
  cases level <;> simp [Level.label, List.isPrefixOf, other, Ne.symm]

theorem Fault.message_first (fault : Fault) : ∃ rest, fault.message.toList = 'S' :: rest := by
  unfold message
  cases fault
  any_goals simp only [String.toList_append]
  all_goals exact ⟨_, rfl⟩

def Output.level? : Output → Option Level
  | logged event => some event.level
  | _ => none

theorem log_level_of_written {output : Output} {level : Level} {line : String} (written : Written output)
    (shown : output.stderr? level = some line) : logLevel? line = output.level? := by
  cases written with
  | help => cases shown
  | result value => cases shown
  | answer expression => cases shown
  | fault failed =>
      cases shown
      obtain ⟨rest, shape⟩ := Fault.message_first _
      exact log_level_of_first shape (by decide)
  | unread fault =>
      cases shown
      have first : ∃ rest, ("Failed to read input: " ++ fault.message).toList = 'F' :: rest := by
        rw [String.toList_append]
        exact ⟨_, rfl⟩
      obtain ⟨rest, shape⟩ := first
      exact log_level_of_first shape (by decide)
  | event reported =>
      rw [Output.stderr?] at shown
      split at shown
      · cases shown
        exact log_level_of_line_with _ _
      · cases shown

/-- What is shown at a level is what the level lets through of what is shown at a higher one. -/
theorem stderr_of_higher {output : Output} {low high : Level} (ordered : low.rank ≤ high.rank)
    (written : Written output) :
    output.stderr? low = (output.stderr? high).filter (shownAt low) := by
  cases output with
  | answer line => rfl
  | complaint line =>
      have unlabelled : logLevel? line = none :=
        @log_level_of_written _ low line written rfl
      simp [Output.stderr?, shownAt, Option.filter, unlabelled]
  | logged event =>
      have labelled := log_level_of_line_with event (Text.sanitized event.message)
      simp only [Output.stderr?]
      by_cases hidden : high.rank < event.level.rank
      · rw [if_neg (by omega), if_neg (by omega)]
        rfl
      · rw [if_pos (by omega : event.level.rank ≤ high.rank)]
        simp [shownAt, labelled, Option.filter]

theorem stderr_lines_of_higher {outputs : List Output} {low high : Level} (ordered : low.rank ≤ high.rank)
    (written : ∀ output ∈ outputs, Written output) :
    outputs.filterMap (Output.stderr? low) =
      (outputs.filterMap (Output.stderr? high)).filter (shownAt low) := by
  induction outputs with
  | nil => rfl
  | cons output rest ih =>
      rw [List.forall_mem_cons] at written
      rw [List.filterMap_cons, List.filterMap_cons, ih written.2, stderr_of_higher ordered written.1]
      cases output.stderr? high with
      | none => rfl
      | some line =>
          cases shown : shownAt low line <;> simp [Option.filter, shown]

theorem logged_hidden {level : Level} (low : level.rank ≤ 1) (event : Event) :
    (Output.logged event).stderr? level = none := by
  have deep : 2 ≤ event.level.rank := by
    unfold Event.level
    split <;> decide
  rw [Output.stderr?, if_neg (by omega)]

/-! ## Runs at two verbosities -/

section

variable {first second : List String} {options : Options}

theorem requests_alike (same : withoutFlags first = withoutFlags second) :
    (Request.ofArguments first).quiet = (Request.ofArguments second).quiet := by
  rw [Request.ofArguments, Request.ofArguments, Options.read_without_flags rfl first,
    Options.read_without_flags rfl second, same]

theorem accepted_alike (same : withoutFlags first = withoutFlags second)
    (accepted : Request.ofArguments first = .run options) :
    ∃ other, Request.ofArguments second = .run other := by
  have alike := requests_alike same
  rw [accepted] at alike
  cases asked : Request.ofArguments second with
  | run other => exact ⟨other, rfl⟩
  | _ =>
      rw [asked] at alike
      cases alike

namespace Run

/-- The verbosity of a request has no part in its run. -/
theorem of_request_quiet (request : Request) (input : List UInt8) :
    ofRequest request.quiet input = ofRequest request input := by
  cases request <;> rfl

theorem of_arguments_alike (same : withoutFlags first = withoutFlags second) (input : List UInt8) :
    ofRequest (.ofArguments first) input = ofRequest (.ofArguments second) input := by
  rw [← of_request_quiet (.ofArguments first), requests_alike same, of_request_quiet]

def stderrOf (arguments : List String) (input : List UInt8) : String :=
  (ofRequest (.ofArguments arguments) input).stderr (levelOf (.ofArguments arguments))

theorem written_of_accepted (accepted : Request.ofArguments first = .run options) (input : List UInt8) :
    ∀ output ∈ (ofRequest (.ofArguments first) input).outputs, Written output := by
  intro output member
  rw [accepted] at member
  exact written_of_options member

theorem lines_of_stderr (accepted : Request.ofArguments first = .run options) (input : List UInt8) :
    Text.lines (stderrOf first input) =
      (ofRequest (.ofArguments first) input).outputs.filterMap
        (Output.stderr? (.ofVerbosity (flagCount first))) ++ [""] := by
  rw [stderrOf, level_of_arguments accepted]
  apply lines_of_lines_text
  intro line member
  obtain ⟨output, produced, shown⟩ := List.mem_filterMap.mp member
  exact Text.newline_not_mem (stderr_one_line (written_of_accepted accepted input output produced) shown)

theorem no_log_behind_last : logLevel? "" = none := by
  decide

theorem stderr_filtered (accepted : Request.ofArguments first = .run options)
    (same : withoutFlags first = withoutFlags second) (fewer : flagCount first ≤ flagCount second)
    (input : List UInt8) :
    Text.lines (stderrOf first input) =
      (Text.lines (stderrOf second input)).filter (shownAt (.ofVerbosity (flagCount first))) := by
  obtain ⟨other, acceptedToo⟩ := accepted_alike same accepted
  have ordered : (Level.ofVerbosity (flagCount first)).rank ≤
      (Level.ofVerbosity (flagCount second)).rank := by
    rw [Level.rank_of_verbosity, Level.rank_of_verbosity]
    omega
  have bottom : shownAt (.ofVerbosity (flagCount first)) "" = true := by
    rw [shownAt, no_log_behind_last]
  rw [lines_of_stderr accepted, lines_of_stderr acceptedToo, of_arguments_alike same,
    stderr_lines_of_higher ordered (written_of_accepted acceptedToo input), List.filter_append,
    List.filter_cons_of_pos bottom, List.filter_nil]

theorem no_log_of_few (accepted : Request.ofArguments first = .run options) (few : flagCount first ≤ 1)
    (input : List UInt8) : ∀ line ∈ Text.lines (stderrOf first input), logLevel? line = none := by
  have low : (Level.ofVerbosity (flagCount first)).rank ≤ 1 := by
    rw [Level.rank_of_verbosity]
    omega
  intro line member
  rw [lines_of_stderr accepted, List.mem_append] at member
  rcases member with shown | last
  · obtain ⟨output, produced, shown⟩ := List.mem_filterMap.mp shown
    rw [log_level_of_written (written_of_accepted accepted input output produced) shown]
    cases output with
    | answer text => rfl
    | complaint text => rfl
    | logged event =>
        rw [logged_hidden low] at shown
        cases shown
  · rw [List.mem_singleton.mp last]
    exact no_log_behind_last

theorem stderr_of_many (accepted : Request.ofArguments first = .run options)
    (same : withoutFlags first = withoutFlags second) (many : 3 ≤ flagCount first)
    (more : 3 ≤ flagCount second) (input : List UInt8) : stderrOf first input = stderrOf second input := by
  obtain ⟨other, acceptedToo⟩ := accepted_alike same accepted
  have level : Level.ofVerbosity (flagCount first) = .ofVerbosity (flagCount second) := by
    apply Level.rank_injective
    rw [Level.rank_of_verbosity, Level.rank_of_verbosity]
    omega
  rw [stderrOf, stderrOf, of_arguments_alike same, level_of_arguments accepted,
    level_of_arguments acceptedToo, level]

end Run

end

/-- Two accepted command lines that differ in their flags for more output lead to the same run: they end
with the same status and write the same to standard output. With fewer flags, standard error has the lines
of the log left out whose level is not reached, and all others in their order. A line is of the log exactly
if it is an event. At most one flag shows no event, and three or more show the same. -/
theorem verbosity_filters_log_alone {first second : List String} {options : Options}
    (accepted : Request.ofArguments first = .run options)
    (same : withoutFlags first = withoutFlags second) (fewer : flagCount first ≤ flagCount second) :
    (∃ other, Request.ofArguments second = .run other) ∧
    ∀ input : List UInt8,
      (Run.ofRequest (.ofArguments first) input).status =
          (Run.ofRequest (.ofArguments second) input).status ∧
        (Run.ofRequest (.ofArguments first) input).stdout =
          (Run.ofRequest (.ofArguments second) input).stdout ∧
        Text.lines (Run.stderrOf first input) =
          (Text.lines (Run.stderrOf second input)).filter
            (shownAt (.ofVerbosity (flagCount first))) ∧
        (∀ output ∈ (Run.ofRequest (.ofArguments second) input).outputs, ∀ level line,
          output.stderr? level = some line → logLevel? line = output.level?) ∧
        (flagCount first ≤ 1 →
          ∀ line ∈ Text.lines (Run.stderrOf first input), logLevel? line = none) ∧
        (3 ≤ flagCount first → Run.stderrOf first input = Run.stderrOf second input) := by
  obtain ⟨other, acceptedToo⟩ := accepted_alike same accepted
  refine ⟨⟨other, acceptedToo⟩, ?_⟩
  intro input
  have run := Run.of_arguments_alike same input
  refine ⟨by rw [run], by rw [run], Run.stderr_filtered accepted same fewer input, ?_, ?_, ?_⟩
  · intro output member level line shown
    exact log_level_of_written (Run.written_of_accepted acceptedToo input output member) shown
  · intro few
    exact Run.no_log_of_few accepted few input
  · intro many
    exact Run.stderr_of_many accepted same many (Nat.le_trans many fewer) input

/-- One flag before a broken expression against three behind it, and three flags against three hundred. -/
theorem one_flag_hides_events :
    Run.stderrOf ["-v", "1+"] [] = "Syntax error: number expected.\n" ∧
      Text.lines (Run.stderrOf ["-v", "1+"] []) =
        (Text.lines (Run.stderrOf ["1+", "-vv", "--verbose"] [])).filter
          (shownAt (.ofVerbosity (flagCount ["-v", "1+"]))) ∧
      Run.stderrOf ["1+", "-vv", "--verbose"] [] =
        Run.stderrOf (List.replicate 300 "-v" ++ ["1+"]) [] := by
  have accepted : Request.ofArguments ["-v", "1+"] =
      .run { verbosity := 1, helpBanner := true, expression := some "1+" } := by
    decide +kernel
  have acceptedToo : Request.ofArguments ["1+", "-vv", "--verbose"] =
      .run { verbosity := 3, helpBanner := true, expression := some "1+" } := by
    decide +kernel
  have same : withoutFlags ["-v", "1+"] = withoutFlags ["1+", "-vv", "--verbose"] := by decide +kernel
  have three : flagCount ["1+", "-vv", "--verbose"] = 3 := by decide +kernel
  obtain ⟨rest, count⟩ := flags_in_front 300 ["1+"]
  obtain ⟨_, few⟩ := verbosity_filters_log_alone accepted same (by decide +kernel)
  have sameToo : withoutFlags ["1+", "-vv", "--verbose"] =
      withoutFlags (List.replicate 300 "-v" ++ ["1+"]) := by
    rw [rest]
    decide +kernel
  obtain ⟨_, many⟩ := verbosity_filters_log_alone acceptedToo sameToo (by rw [three, count]; omega)
  obtain ⟨_, _, filtered, _⟩ := few []
  obtain ⟨_, _, _, _, _, saturated⟩ := many []
  exact ⟨by decide +kernel, filtered, saturated (Nat.le_of_eq three.symm)⟩

end Calculator
