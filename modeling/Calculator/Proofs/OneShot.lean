import Calculator.Proofs.Verbosity

/-!
# One expression, two ways

An expression can be given on the command line or typed at the prompt. The command line evaluates it as it
is, the prompt strips and lowers it first, and either evaluation strips it again. An expression that
lowering leaves alone and that is no command gets the same result both ways.
-/

set_option autoImplicit false

namespace Calculator

/-- A text that the prompt takes for an expression and evaluates as it is typed. -/
structure IsExpressionLine (text : String) : Prop where
  oneLine : '\n' ∉ text.toList
  noBackspace : Text.backspace ∉ text.toList
  lowered : Text.lowercase (Text.stripWhitespace text) = Text.stripWhitespace text
  visible : Text.stripWhitespace text ≠ ""
  notHelp : Text.stripWhitespace text ≠ "help"
  notQuit : Text.stripWhitespace text ≠ "quit"

namespace IsExpressionLine

variable {text : String} (line : IsExpressionLine text)

include line

theorem command : Command.ofLine text = .evaluate (Text.stripWhitespace text) := by
  unfold Command.ofLine
  simp only [line.lowered, line.visible, line.notHelp, line.notQuit, if_false]

theorem stays : ¬Run.Quits text := by
  rw [Run.Quits, line.command]
  exact nofun

theorem response_eq : Run.response text = Run.answerLine (evaluate text) ++ "\n" := by
  have same : evaluate (Text.stripWhitespace text) = evaluate text := by
    rw [evaluate, evaluate, Evaluation.ofExpression, Evaluation.ofExpression, Text.strip_whitespace_idem]
  rw [Run.response, line.command, Run.answer_line_text, ← same]

/-- A final line end makes no line of its own that would be answered. -/
theorem responses_eq {ending : String} (ends : ending = "" ∨ ending = "\n") :
    Run.responses (Run.beforeQuit (Text.lines (text ++ ending))) = Run.response text := by
  have nothing : Run.responses (Run.beforeQuit []) = "" := rfl
  rcases ends with rfl | rfl
  · rw [String.append_empty, Text.lines_of_last line.oneLine, Run.responses_of_staying line.stays, nothing,
      String.append_empty]
  · have empty : '\n' ∉ "".toList := by decide
    have silent : Run.response "" = "" := rfl
    have stays : ¬Run.Quits "" := by decide
    have split : text ++ "\n" = text ++ "\n" ++ "" := String.append_empty.symm
    rw [split, Text.lines_of_more line.oneLine, Text.lines_of_last empty,
      Run.responses_of_staying line.stays, Run.responses_of_staying stays, silent, nothing]
    simp

theorem prompt_answer {ending : String} (ends : ending = "" ∨ ending = "\n") :
    (Run.ofRequest (.ofArguments ["--no-help-banner"]) (Text.bytes (text ++ ending))).stdout =
        Run.answerLine (evaluate text) ++ "\n" ∧
      (Run.ofRequest (.ofArguments ["--no-help-banner"]) (Text.bytes (text ++ ending))).status = 0 := by
  have asked : Request.ofArguments ["--no-help-banner"] =
      .run { verbosity := 0, helpBanner := false, expression := none } := by
    decide +kernel
  have silent : bannerText ["--no-help-banner"] = "" := by decide
  have plain : Text.backspace ∉ (text ++ ending).toList := by
    rw [String.toList_append, List.mem_append, not_or]
    refine ⟨line.noBackspace, ?_⟩
    rcases ends with rfl | rfl <;> decide
  obtain ⟨printed, ended⟩ := prompt_run asked rfl (Text.bytes (text ++ ending))
  obtain ⟨answered, stopped⟩ := Run.of_lines_of_plain (text ++ ending) plain
  rw [printed, ended, answered, stopped, silent, String.empty_append, line.responses_eq ends,
    line.response_eq]
  exact ⟨rfl, rfl⟩

end IsExpressionLine

namespace Run

theorem stderr_of_logged {level : Level} (low : level.rank ≤ 1) (events : List Event) :
    (events.map Output.logged).filterMap (Output.stderr? level) = [] := by
  rw [List.filterMap_map, List.filterMap_eq_nil_iff]
  exact fun event _ => logged_hidden low event

theorem one_shot_request (expression : String) :
    Request.ofArguments ["--", expression] =
      .run { verbosity := 0, helpBanner := true, expression := some expression } := by
  simp [Request.ofArguments, Options.read, Options.readExpressions, Options.withExpression,
    Options.initial]

theorem one_shot_of_ok {expression : String} {value : Binary64}
    (evaluated : evaluate expression = .ok value) :
    (ofExpression expression).status = 0 ∧ (ofExpression expression).stdout = value.resultText ++ "\n" := by
  rw [of_expression_of_ok evaluated, stdout, List.filterMap_append, answers_of_logged]
  exact ⟨rfl, lines_text_singleton _⟩

theorem one_shot_of_error {expression : String} {fault : Fault} {level : Level} (low : level.rank ≤ 1)
    (failed : evaluate expression = .error fault) :
    (ofExpression expression).status = 1 ∧ (ofExpression expression).stdout = "" ∧
      (ofExpression expression).stderr level = fault.message ++ "\n" := by
  rw [of_expression_of_error failed, stdout, stderr, List.filterMap_append, List.filterMap_append,
    answers_of_logged, stderr_of_logged low]
  exact ⟨rfl, rfl, lines_text_singleton _⟩

/-- The first character tells whether an answer is a result. -/
theorem good_ne_bad (first second : String) : "== " ++ first ≠ "!! " ++ second := by
  intro same
  have characters := congrArg String.toList same
  rw [String.toList_append, String.toList_append] at characters
  injection characters with mark
  cases mark

variable {result : Except Fault Binary64} {text : String}

theorem answer_line_ok_iff :
    answerLine result ++ "\n" = "== " ++ text ++ "\n" ↔
      ∃ value, result = .ok value ∧ value.resultText = text := by
  cases result with
  | ok value => simp [answerLine]
  | error fault => simp [answerLine, (good_ne_bad _ _).symm]

theorem answer_line_error_iff :
    answerLine result ++ "\n" = "!! " ++ text ++ "\n" ↔
      ∃ fault, result = .error fault ∧ fault.message = text := by
  cases result with
  | ok value => simp [answerLine, good_ne_bad]
  | error fault => simp [answerLine]

theorem one_shot_ok_iff {expression : String} :
    (ofExpression expression).status = 0 ∧ (ofExpression expression).stdout = text ++ "\n" ↔
      ∃ value, evaluate expression = .ok value ∧ value.resultText = text := by
  cases result : evaluate expression with
  | ok value =>
      obtain ⟨ended, printed⟩ := one_shot_of_ok result
      simp [ended, printed]
  | error fault =>
      have low : Level.warn.rank ≤ 1 := Nat.zero_le 1
      obtain ⟨ended, _⟩ := one_shot_of_error low result
      simp [ended]

theorem one_shot_error_iff {expression : String} {level : Level} (low : level.rank ≤ 1) :
    (ofExpression expression).status = 1 ∧ (ofExpression expression).stdout = "" ∧
        (ofExpression expression).stderr level = text ++ "\n" ↔
      ∃ fault, evaluate expression = .error fault ∧ fault.message = text := by
  cases result : evaluate expression with
  | ok value =>
      obtain ⟨ended, _⟩ := one_shot_of_ok result
      simp [ended]
  | error fault =>
      obtain ⟨ended, silent, told⟩ := one_shot_of_error low result
      simp [ended, silent, told]

end Run

/-- On the command line an expression prints a result exactly if the prompt does, and it fails with a
message exactly if the prompt prints that message as a fault. One of the two is the case, and the prompt
goes on in either. -/
theorem one_shot_agrees_with_prompt {text : String} (line : IsExpressionLine text) {ending : String}
    (ends : ending = "" ∨ ending = "\n") (unread : List UInt8) :
    (∀ result,
      (Run.ofRequest (.ofArguments ["--", text]) unread).status = 0 ∧
          (Run.ofRequest (.ofArguments ["--", text]) unread).stdout = result ++ "\n" ↔
        (Run.ofRequest (.ofArguments ["--no-help-banner"]) (Text.bytes (text ++ ending))).stdout =
          "== " ++ result ++ "\n") ∧
    (∀ message,
      (Run.ofRequest (.ofArguments ["--", text]) unread).status = 1 ∧
          (Run.ofRequest (.ofArguments ["--", text]) unread).stdout = "" ∧
            Run.stderrOf ["--", text] unread = message ++ "\n" ↔
        (Run.ofRequest (.ofArguments ["--no-help-banner"]) (Text.bytes (text ++ ending))).stdout =
          "!! " ++ message ++ "\n") ∧
    ((∃ result,
      (Run.ofRequest (.ofArguments ["--no-help-banner"]) (Text.bytes (text ++ ending))).stdout =
        "== " ++ result ++ "\n") ↔
      ¬∃ message,
        (Run.ofRequest (.ofArguments ["--no-help-banner"]) (Text.bytes (text ++ ending))).stdout =
          "!! " ++ message ++ "\n") ∧
    (Run.ofRequest (.ofArguments ["--no-help-banner"]) (Text.bytes (text ++ ending))).status = 0 := by
  obtain ⟨answered, ended⟩ := line.prompt_answer ends
  have once : Run.ofRequest (.ofArguments ["--", text]) unread = Run.ofExpression text := by
    rw [Run.one_shot_request]
    rfl
  have shown : Run.stderrOf ["--", text] unread = (Run.ofExpression text).stderr .warn := by
    rw [Run.stderrOf, once, Run.one_shot_request]
    rfl
  have low : Level.warn.rank ≤ 1 := Nat.zero_le 1
  rw [answered, once, shown]
  refine ⟨?_, ?_, ?_, ended⟩
  · intro result
    rw [Run.one_shot_ok_iff, Run.answer_line_ok_iff]
  · intro message
    rw [Run.one_shot_error_iff low, Run.answer_line_error_iff]
  · simp only [Run.answer_line_ok_iff, Run.answer_line_error_iff]
    cases evaluate text <;> simp

/-- A sum that lacks an operand, with a blank in it, and a quotient, with and without a line end. -/
theorem failing_sum_given_and_typed :
    (IsExpressionLine "1 +" ∧
      (Run.ofRequest (.ofArguments ["--", "1 +"]) []).status = 1 ∧
        (Run.ofRequest (.ofArguments ["--", "1 +"]) []).stdout = "" ∧
          Run.stderrOf ["--", "1 +"] [] = "Syntax error: number expected.\n") ∧
    IsExpressionLine "5/2" ∧
      (Run.ofRequest (.ofArguments ["--", "5/2"]) []).status = 0 ∧
        (Run.ofRequest (.ofArguments ["--", "5/2"]) []).stdout = "2.5\n" := by
  have sum : IsExpressionLine "1 +" := by
    constructor <;> decide +kernel
  have quotient : IsExpressionLine "5/2" := by
    constructor <;> decide +kernel
  obtain ⟨_, fails, _, _⟩ := one_shot_agrees_with_prompt sum (Or.inl rfl) []
  obtain ⟨succeeds, _, _, _⟩ := one_shot_agrees_with_prompt quotient (Or.inr rfl) []
  have fault : (Run.ofRequest (.ofArguments ["--no-help-banner"]) (Text.bytes ("1 +" ++ ""))).stdout =
      "!! " ++ "Syntax error: number expected." ++ "\n" := by
    decide +kernel
  have answer : (Run.ofRequest (.ofArguments ["--no-help-banner"]) (Text.bytes ("5/2" ++ "\n"))).stdout =
      "== " ++ "2.5" ++ "\n" := by
    decide +kernel
  exact ⟨⟨sum, (fails _).mpr fault⟩, quotient, (succeeds _).mpr answer⟩

end Calculator
