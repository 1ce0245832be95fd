import Calculator.Run
import Calculator.Proofs.InputText

/-!
# The prompt answers line by line

What the prompt prints for a line depends on that line alone. So a run prints the responses of the lines
before the first that quits, one behind another, and the lines of one input behind those of another print
what they print by themselves. A line that is not text ends the run, and what was printed stays.
-/

set_option autoImplicit false

namespace Calculator

namespace Options

variable {options next last : Options} {argument : String} {arguments : List String}

theorem more_verbose_banner (options : Options) :
    options.moreVerbose.helpBanner = options.helpBanner := rfl

theorem read_short_banner {letters : List Char} (read : options.readShort letters = .ok next) :
    next.helpBanner = options.helpBanner := by
  fun_induction readShort options letters with
  | case1 options =>
      cases read
      rfl
  | case2 options rest ih => exact ih read
  | case3 options rest => cases read
  | case4 options rest => cases read
  | case5 options letters => cases read

theorem with_expression_banner (read : options.withExpression argument = .ok next) :
    next.helpBanner = options.helpBanner ∧ next.expression ≠ none := by
  unfold withExpression at read
  split at read
  · cases read
    exact ⟨rfl, nofun⟩
  · cases read

theorem read_long_banner {name : String} (read : options.readLong name = .ok next) :
    next.helpBanner = (options.helpBanner && name != "no-help-banner") := by
  unfold readLong at read
  split at read
  · cases read
  split at read
  · cases read
  split at read
  · next verbose =>
      cases read
      rw [verbose, more_verbose_banner]
      simp
  split at read
  · next banner =>
      unfold withoutBanner at read
      split at read
      · cases read
        simp [banner]
      · cases read
  · cases read

theorem read_argument_banner (read : options.readArgument argument = .ok next) :
    next.helpBanner = (options.helpBanner && argument != "--no-help-banner") := by
  have kept : argument ≠ "--no-help-banner" → next.helpBanner = options.helpBanner →
      next.helpBanner = (options.helpBanner && argument != "--no-help-banner") := by
    intro other same
    rw [same, bne_iff_ne.mpr other, Bool.and_true]
  have dashes : "--no-help-banner".toList = '-' :: '-' :: "no-help-banner".toList := by decide
  unfold readArgument at read
  split at read
  · next name shape =>
      have same : (argument != "--no-help-banner") = (String.ofList name != "no-help-banner") := by
        rw [Bool.eq_iff_iff, bne_iff_ne, bne_iff_ne]
        apply not_congr
        rw [← String.toList_inj, ← String.toList_inj, shape, dashes, String.toList_ofList]
        simp
      rw [same]
      exact read_long_banner read
  · next first rest others shape =>
      apply kept _ (read_short_banner read)
      intro named
      rw [named, dashes] at shape
      injection shape with _ shape
      injection shape with second _
      exact others second.symm
  · next others shape =>
      apply kept _ (with_expression_banner read).1
      intro named
      exact others _ (by rw [named, dashes])

theorem with_expression_refused {request : Request}
    (refused : options.withExpression argument = .error request) : request = .usageFault := by
  unfold withExpression at refused
  split at refused
  · cases refused
  · cases refused
    rfl

theorem read_short_refused {letters : List Char} :
    options.readShort letters ≠ .error (.run last) := by
  fun_induction readShort options letters with
  | case1 options => exact nofun
  | case2 options rest ih => exact ih
  | case3 options rest => exact nofun
  | case4 options rest => exact nofun
  | case5 options letters => exact nofun

theorem read_argument_refused : options.readArgument argument ≠ .error (.run last) := by
  intro refused
  unfold readArgument at refused
  split at refused
  · unfold readLong withoutBanner at refused
    split at refused
    · cases refused
    split at refused
    · cases refused
    split at refused
    · cases refused
    split at refused
    · split at refused <;> cases refused
    · cases refused
  · exact read_short_refused refused
  · cases with_expression_refused refused

/-- What stands behind two dashes is an expression. -/
theorem read_expressions_prompt (read : options.readExpressions arguments = .run last)
    (prompt : last.expression = none) : arguments = [] ∧ last = options := by
  induction arguments generalizing options with
  | nil =>
      cases read
      exact ⟨rfl, rfl⟩
  | cons argument rest ih =>
      rw [readExpressions] at read
      split at read
      · next next taken =>
          obtain ⟨_, rfl⟩ := ih read
          exact absurd prompt (with_expression_banner taken).2
      · next refused =>
          rw [read] at refused
          cases with_expression_refused refused

theorem read_banner (read : options.read arguments = .run last) (prompt : last.expression = none) :
    last.helpBanner = (options.helpBanner && !arguments.contains "--no-help-banner") := by
  induction arguments generalizing options with
  | nil =>
      cases read
      simp
  | cons argument rest ih =>
      rw [Options.read] at read
      split at read
      · next dashes =>
          obtain ⟨rfl, rfl⟩ := read_expressions_prompt read prompt
          rw [dashes]
          simp
      · split at read
        · next next taken =>
            have named : (argument != "--no-help-banner") = !("--no-help-banner" == argument) := by
              rw [bne, BEq.comm]
            rw [ih read, read_argument_banner taken, List.contains_cons, Bool.not_or, named,
              Bool.and_assoc]
        · next refused =>
            rw [read] at refused
            exact absurd refused read_argument_refused

end Options

namespace Run

def response (line : String) : String :=
  match Command.ofLine line with
  | .empty => ""
  | .quit => ""
  | .help => Command.helpText ++ "\n"
  | .evaluate expression =>
      match evaluate expression with
      | .ok value => "== " ++ value.resultText ++ "\n"
      | .error fault => "!! " ++ fault.message ++ "\n"

def responses (lines : List String) : String :=
  String.join (lines.map response)

def Quits (line : String) : Prop :=
  Command.ofLine line = .quit

instance : DecidablePred Quits :=
  fun line => inferInstanceAs (Decidable (Command.ofLine line = .quit))

def beforeQuit (lines : List String) : List String :=
  lines.takeWhile fun line => ¬Quits line

theorem stdout_preceded_by (run : Run) (outputs : List Output) :
    (run.precededBy outputs).stdout = linesText (outputs.filterMap Output.stdout?) ++ run.stdout := by
  rw [stdout, precededBy, List.filterMap_append, linesText, List.map_append, String.join_append]
  rfl

theorem status_preceded_by (run : Run) (outputs : List Output) :
    (run.precededBy outputs).status = run.status := rfl

theorem lines_text_singleton (line : String) : linesText [line] = line ++ "\n" := by
  rw [linesText, List.map_singleton, String.join_cons, String.join_nil, String.append_empty]

theorem answers_of_logged (events : List Event) :
    (events.map Output.logged).filterMap Output.stdout? = [] := by
  rw [List.filterMap_map, List.filterMap_eq_nil_iff]
  exact fun _ _ => rfl

theorem answer_line_text (result : Except Fault Binary64) :
    answerLine result ++ "\n" =
      match result with
      | .ok value => "== " ++ value.resultText ++ "\n"
      | .error fault => "!! " ++ fault.message ++ "\n" := by
  cases result <;> rfl

/-- Of what is written for a line, the response is what goes to standard output. -/
theorem respond_stdout (line : String) :
    linesText ((respond (Command.ofLine line)).filterMap Output.stdout?) = response line := by
  unfold response
  cases Command.ofLine line with
  | empty => rfl
  | quit => rfl
  | help => exact lines_text_singleton _
  | evaluate expression =>
      simp only [respond, evaluate]
      generalize Evaluation.ofExpression expression = evaluation
      have answers : [Output.answer (answerLine evaluation.result)].filterMap Output.stdout? =
          [answerLine evaluation.result] := rfl
      simp only [List.filterMap_append, answers_of_logged, List.nil_append, answers,
        lines_text_singleton, answer_line_text]

theorem reply_of_text {line : String} (plain : Text.backspace ∉ line.toList) (terminated : Bool) :
    reply (InputLine.ofText line terminated) =
      if Quits line then .stop { outputs := [], status := 0 }
      else .goOn (respond (Command.ofLine line)) := by
  obtain ⟨typed, read, stripped⟩ := InputLine.text_of_text plain terminated
  have same : Command.ofLine typed = Command.ofLine line := by
    rw [Command.ofLine, Command.ofLine, stripped]
  rw [reply, read]
  simp only [same]
  by_cases quits : Quits line
  · rw [if_pos quits, show Command.ofLine line = .quit from quits]
  · rw [if_neg quits]
    split
    · next quit => exact absurd quit quits
    · rfl

theorem of_lines_of_text {line : String} (plain : Text.backspace ∉ line.toList) (terminated : Bool)
    (lines : List InputLine) :
    ofLines (InputLine.ofText line terminated :: lines) =
      if Quits line then { outputs := [], status := 0 }
      else (ofLines lines).precededBy (respond (Command.ofLine line)) := by
  rw [ofLines, reply_of_text plain terminated]
  by_cases quits : Quits line
  · rw [if_pos quits, if_pos quits]
  · rw [if_neg quits, if_neg quits]

theorem responses_cons (line : String) (lines : List String) :
    responses (line :: lines) = response line ++ responses lines :=
  String.join_cons

theorem responses_of_quitting {line : String} {lines : List String} (quits : Quits line) :
    responses (beforeQuit (line :: lines)) = "" := by
  rw [beforeQuit, List.takeWhile_cons_of_neg (by simpa using quits)]
  rfl

theorem responses_of_staying {line : String} {lines : List String} (stays : ¬Quits line) :
    responses (beforeQuit (line :: lines)) = response line ++ responses (beforeQuit lines) := by
  rw [beforeQuit, List.takeWhile_cons_of_pos (by simpa using stays)]
  exact responses_cons _ _

theorem of_lines_nil :
    (ofLines []).stdout = responses (beforeQuit []) ∧ (ofLines []).status = 0 := by
  have printed : (ofLines []).stdout = "" := rfl
  have none : responses (beforeQuit []) = "" := rfl
  rw [printed, none]
  exact ⟨rfl, rfl⟩

theorem of_lines_of_plain (text : String) (plain : Text.backspace ∉ text.toList) :
    (ofLines (InputLine.split (Text.bytes text))).stdout = responses (beforeQuit (Text.lines text)) ∧
      (ofLines (InputLine.split (Text.bytes text))).status = 0 := by
  induction text using Text.induction_on_lines with
  | last line within =>
      rw [Text.lines_of_last within]
      rcases InputLine.split_bytes_of_last within with ⟨rfl, nothing⟩ | single
      · rw [nothing]
        have silent : response "" = "" := rfl
        have stays : ¬Quits "" := by decide
        rw [responses_of_staying stays, silent, String.empty_append]
        exact of_lines_nil
      · rw [single, of_lines_of_text plain]
        by_cases quits : Quits line
        · rw [if_pos quits, responses_of_quitting quits]
          exact ⟨rfl, rfl⟩
        · rw [if_neg quits, responses_of_staying quits, stdout_preceded_by, respond_stdout,
            of_lines_nil.1, status_preceded_by]
          exact ⟨rfl, rfl⟩
  | more line rest within ih =>
      obtain ⟨plainLine, plainRest⟩ := Text.absent_around_newline plain
      rw [Text.lines_of_more within, Text.bytes_append, InputLine.split_bytes_of_line within,
        of_lines_of_text plainLine]
      by_cases quits : Quits line
      · rw [if_pos quits, responses_of_quitting quits]
        exact ⟨rfl, rfl⟩
      · obtain ⟨printed, ended⟩ := ih plainRest
        rw [if_neg quits, responses_of_staying quits, stdout_preceded_by, respond_stdout, printed,
          status_preceded_by]
        exact ⟨rfl, ended⟩

theorem before_quit_of_staying {lines : List String} (stay : ∀ line ∈ lines, ¬Quits line) :
    beforeQuit lines = lines := by
  have whole : (lines ++ []).takeWhile (fun line => ¬Quits line) = lines ++ [] :=
    List.takeWhile_append_of_pos fun line member => decide_eq_true (stay line member)
  rwa [List.append_nil] at whole

/-- Whole lines of text that do not quit print their responses, and the rest of the input what it prints by
itself. -/
theorem of_lines_behind (front : String) (plain : Text.backspace ∉ front.toList)
    (complete : ∀ last ∈ front.toList.getLast?, last = '\n')
    (stay : ∀ line ∈ Text.lines front, ¬Quits line) (input : List UInt8) :
    (ofLines (InputLine.split (Text.bytes front ++ input))).stdout =
        responses (Text.lines front) ++ (ofLines (InputLine.split input)).stdout ∧
      (ofLines (InputLine.split (Text.bytes front ++ input))).status =
        (ofLines (InputLine.split input)).status := by
  induction front using Text.induction_on_lines with
  | last line within =>
      have nothing : line = "" := by
        cases last : line.toList.getLast? with
        | none => exact String.toList_eq_nil_iff.mp (List.getLast?_eq_none_iff.mp last)
        | some character =>
            have named := complete character (by rw [last]; rfl)
            rw [named] at last
            exact absurd (List.mem_of_getLast? last) within
      have silent : responses [""] = "" := by
        have empty : response "" = "" := rfl
        rw [responses, List.map_singleton, empty]
        rfl
      rw [Text.lines_of_last within, nothing, silent, String.empty_append]
      exact ⟨rfl, rfl⟩
  | more line rest within ih =>
      obtain ⟨plainLine, plainRest⟩ := Text.absent_around_newline plain
      rw [Text.lines_of_more within] at stay ⊢
      have completeRest : ∀ last ∈ rest.toList.getLast?, last = '\n' := by
        intro last member
        apply complete
        rw [String.toList_append, List.getLast?_append, Option.mem_def.mp member]
        rfl
      obtain ⟨printed, ended⟩ := ih plainRest completeRest fun other member =>
        stay other (List.mem_cons_of_mem _ member)
      rw [Text.bytes_append, List.append_assoc, InputLine.split_bytes_of_line within,
        of_lines_of_text plainLine, if_neg (stay line List.mem_cons_self), stdout_preceded_by,
        status_preceded_by, respond_stdout, printed, ended, responses_cons, String.append_assoc]
      exact ⟨rfl, rfl⟩

/-- A line that is not text ends the run. -/
theorem of_lines_of_bytes {bad behind : List UInt8} (within : InputLine.newline ∉ bad)
    (unread : String.fromUTF8? (ByteArray.mk bad.toArray) = none)
    (ends : behind = [] ∨ ∃ more, behind = InputLine.newline :: more) :
    (ofLines (InputLine.split (bad ++ behind))).stdout = "" ∧
      (ofLines (InputLine.split (bad ++ behind))).status = 1 := by
  have whole : bad ≠ [] := by
    rintro rfl
    cases unread.symm.trans (Text.from_utf8_bytes "")
  have split : ∃ terminated lines, InputLine.split (bad ++ behind) =
      { bytes := bad, terminated } :: lines := by
    rcases ends with rfl | ⟨more, rfl⟩
    · rw [List.append_nil, InputLine.split_of_last within whole]
      exact ⟨false, [], rfl⟩
    · exact ⟨true, _, InputLine.split_of_line within⟩
  obtain ⟨terminated, lines, split⟩ := split
  have refused : reply { bytes := bad, terminated } = .stop (ofInputFault .notText) := by
    rw [reply, InputLine.text_of_bytes unread]
  rw [split, ofLines, refused]
  exact ⟨rfl, rfl⟩

end Run

def bannerText (arguments : List String) : String :=
  if "--no-help-banner" ∈ arguments then "" else Command.helpText ++ "\n"

section

variable {arguments : List String} {options : Options}

theorem greeting_stdout (asked : Request.ofArguments arguments = .run options)
    (prompt : options.expression = none) :
    Run.linesText ((Run.greeting options).filterMap Output.stdout?) = bannerText arguments := by
  have shown := Options.read_banner asked prompt
  unfold bannerText Run.greeting
  by_cases hidden : "--no-help-banner" ∈ arguments
  · rw [List.contains_eq_mem, decide_eq_true hidden] at shown
    rw [if_pos hidden, if_neg (by simp [shown])]
    rfl
  · rw [List.contains_eq_mem, decide_eq_false hidden] at shown
    rw [if_neg hidden, if_pos (by rw [shown]; rfl)]
    exact Run.lines_text_singleton _

theorem prompt_run (asked : Request.ofArguments arguments = .run options)
    (prompt : options.expression = none) (input : List UInt8) :
    (Run.ofRequest (.ofArguments arguments) input).stdout =
        bannerText arguments ++ (Run.ofLines (InputLine.split input)).stdout ∧
      (Run.ofRequest (.ofArguments arguments) input).status =
        (Run.ofLines (InputLine.split input)).status := by
  rw [asked, Run.ofRequest, Run.ofOptions, prompt]
  simp only [Run.stdout_preceded_by, Run.status_preceded_by, greeting_stdout asked prompt]
  exact ⟨trivial, trivial⟩

end

/-- Whatever the options, the prompt prints the banner and the responses of the lines before the first that
quits. Input behind whole lines prints what it prints by itself, and a line that is not text ends the run
behind what was printed. -/
theorem prompt_answers_line_by_line {arguments : List String} {options : Options}
    (asked : Request.ofArguments arguments = .run options) (prompt : options.expression = none) :
    (∀ text : String, Text.backspace ∉ text.toList →
      (Run.ofRequest (.ofArguments arguments) (Text.bytes text)).stdout =
          bannerText arguments ++ Run.responses (Run.beforeQuit (Text.lines text)) ∧
        (Run.ofRequest (.ofArguments arguments) (Text.bytes text)).status = 0) ∧
    (∀ front : String, Text.backspace ∉ front.toList → front.toList.getLast? = some '\n' →
      (∀ line ∈ Text.lines front, ¬Run.Quits line) → "--no-help-banner" ∈ arguments →
        ∀ input : List UInt8,
          (Run.ofRequest (.ofArguments arguments) (Text.bytes front ++ input)).stdout =
            (Run.ofRequest (.ofArguments arguments) (Text.bytes front)).stdout ++
              (Run.ofRequest (.ofArguments arguments) input).stdout) ∧
    ∀ front : String, Text.backspace ∉ front.toList →
      (∀ last ∈ front.toList.getLast?, last = '\n') → (∀ line ∈ Text.lines front, ¬Run.Quits line) →
        ∀ bad behind : List UInt8, InputLine.newline ∉ bad →
          String.fromUTF8? (ByteArray.mk bad.toArray) = none →
            (behind = [] ∨ ∃ more, behind = InputLine.newline :: more) →
              (Run.ofRequest (.ofArguments arguments) (Text.bytes front ++ (bad ++ behind))).stdout =
                  bannerText arguments ++ Run.responses (Text.lines front) ∧
                (Run.ofRequest (.ofArguments arguments) (Text.bytes front ++ (bad ++ behind))).status =
                  1 := by
  have run := prompt_run asked prompt
  refine ⟨?_, ?_, ?_⟩
  · intro text plain
    obtain ⟨printed, ended⟩ := Run.of_lines_of_plain text plain
    rw [(run _).1, (run _).2, printed, ended]
    exact ⟨rfl, rfl⟩
  · intro front plain last stay hidden input
    have complete : ∀ character ∈ front.toList.getLast?, character = '\n' := by
      intro character member
      rw [last] at member
      exact (Option.some.inj member).symm
    have silent : bannerText arguments = "" := if_pos hidden
    rw [(run _).1, (run _).1, (run _).1, silent, String.empty_append, String.empty_append,
      String.empty_append, (Run.of_lines_behind front plain complete stay input).1,
      (Run.of_lines_of_plain front plain).1, Run.before_quit_of_staying stay]
  · intro front plain complete stay bad behind within unread ends
    obtain ⟨printed, ended⟩ := Run.of_lines_behind front plain complete stay (bad ++ behind)
    obtain ⟨nothing, broken⟩ := Run.of_lines_of_bytes within unread ends
    rw [(run _).1, (run _).2, printed, ended, nothing, broken, String.append_empty]
    exact ⟨rfl, rfl⟩

/-- A failing line, a blank one and a value, and then a line that quits or one that is not text. -/
theorem failing_line_answered_and_passed :
    (Run.ofRequest (.ofArguments ["--no-help-banner"])
        (Text.bytes "1+\n \n2*3\nquit\n4")).stdout = "!! Syntax error: number expected.\n== 6\n" ∧
      (Run.ofRequest (.ofArguments ["--no-help-banner"]) (Text.bytes "2*3\n" ++ [52])).stdout =
        (Run.ofRequest (.ofArguments ["--no-help-banner"]) (Text.bytes "2*3\n")).stdout ++
          (Run.ofRequest (.ofArguments ["--no-help-banner"]) [52]).stdout ∧
      (Run.ofRequest (.ofArguments ["--no-help-banner"])
        (Text.bytes "2*3\n" ++ ([255] ++ [10, 52]))).status = 1 := by
  have asked : Request.ofArguments ["--no-help-banner"] =
      .run { verbosity := 0, helpBanner := false, expression := none } := by
    decide +kernel
  obtain ⟨answers, behind, refused⟩ := prompt_answers_line_by_line asked rfl
  have plain : Text.backspace ∉ "2*3\n".toList := by decide
  have stay : ∀ line ∈ Text.lines "2*3\n", ¬Run.Quits line := by decide +kernel
  have ends : "2*3\n".toList.getLast? = some '\n' := by decide
  have complete : ∀ last ∈ "2*3\n".toList.getLast?, last = '\n' := by
    intro last member
    rw [ends] at member
    exact (Option.some.inj member).symm
  have unread : String.fromUTF8? (ByteArray.mk [255].toArray) = none := by decide +kernel
  refine ⟨?_, behind _ plain ends stay (by decide) [52], ?_⟩
  · have printed : bannerText ["--no-help-banner"] ++
        Run.responses (Run.beforeQuit (Text.lines "1+\n \n2*3\nquit\n4")) =
          "!! Syntax error: number expected.\n== 6\n" := by
      decide +kernel
    rw [(answers _ (by decide)).1, printed]
  · exact (refused _ plain complete stay [255] [10, 52] (by decide) unread (Or.inr ⟨[52], rfl⟩)).2

end Calculator
