import Calculator.Proofs.EventLog
import Calculator.Proofs.LineBreaks
import Calculator.Proofs.Outputs

/-!
# Nothing forged

A source is stripped before it is read, so what a fault quotes from it holds no white space and ends no
line. Therefore whatever is typed, each answer and each event stays on a line of its own.
-/

set_option autoImplicit false

namespace Calculator

open Text (Unbroken OneLine)

namespace Binary64

theorem with_sign_one_line (negative : Bool) {text : List Char} (unbroken : Unbroken text) :
    OneLine (withSign negative text) := by
  have minus : Text.isLineBreak '-' = false := by decide
  rw [withSign, Text.one_line_of_list]
  cases negative with
  | false => exact unbroken
  | true => exact Text.unbroken_cons.mpr ⟨minus, unbroken⟩

theorem text_with_one_line {finiteText : Nat → List Char} (finite : ∀ units, Unbroken (finiteText units))
    (value : Binary64) : OneLine (textWith finiteText value) := by
  cases value with
  | nan => exact (by decide : OneLine "NaN")
  | infinity negative => exact with_sign_one_line negative (by decide)
  | finite negative magnitude => exact with_sign_one_line negative (finite magnitude.units)

end Binary64

theorem Numeral.unbroken {text : List Char} {value : Binary64} (numeral : Numeral text value) :
    Unbroken text := by
  intro character member
  exact Text.not_line_break_of_not_blank
    (Text.not_blank_of_numeral_character (numeral.gathers character member))

namespace Decimal

theorem decimal_digits_unbroken (number : Nat) : Unbroken (Nat.toDigits 10 number) :=
  Text.digits_unbroken (by decide) (by decide) number

theorem signed_digits_unbroken (number : Int) : Unbroken (signedDigits number) := by
  have minus : Text.isLineBreak '-' = false := by decide
  unfold signedDigits
  split <;> simp [minus, decimal_digits_unbroken]

theorem scaled_unbroken (decimal : Decimal) : Unbroken decimal.scaled := by
  have point : Text.isLineBreak '.' = false := by decide
  have power : Text.isLineBreak 'e' = false := by decide
  have digits : Unbroken decimal.digitText := decimal_digits_unbroken decimal.digits
  unfold scaled
  split
  · next several =>
      rw [several] at digits
      simp_all [signed_digits_unbroken]
  · simp [digits, power, signed_digits_unbroken]

end Decimal

namespace Binary64

theorem logged_digits_unbroken (decimal : Decimal) : Unbroken (loggedDigits decimal) := by
  have positional := (Numeral.positional decimal).unbroken
  have whole : Unbroken ['.', '0'] := by decide
  unfold loggedDigits
  split
  · split
    · exact Text.unbroken_append.mpr ⟨positional, whole⟩
    · exact positional
  · exact decimal.scaled_unbroken

theorem logged_text_one_line (value : Binary64) : OneLine value.loggedText :=
  text_with_one_line (fun _ => logged_digits_unbroken _) value

theorem plain_text_one_line (value : Binary64) : OneLine value.plainText :=
  text_with_one_line (fun _ => (Numeral.positional _).unbroken) value

theorem result_text_one_line (value : Binary64) : OneLine value.resultText := by
  unfold resultText
  split
  · exact text_with_one_line (fun _ => Decimal.decimal_digits_unbroken _) value
  · exact plain_text_one_line value

end Binary64

def Fault.quotation? : Fault → Option String
  | .unknownOperator text => some text
  | .unexpectedToken text => some text
  | _ => none

theorem Fault.quote_one_line {text : String} (oneLine : OneLine text) : OneLine (quote text) := by
  have mark : OneLine "\"" := by decide
  unfold quote
  simp only [Text.one_line_append, mark, oneLine, true_and]

theorem Fault.message_one_line {fault : Fault} (quoted : ∀ text ∈ fault.quotation?, OneLine text) :
    OneLine fault.message := by
  have stop : OneLine "." := by decide
  unfold message
  cases fault with
  | unknownOperator text =>
      have wording : OneLine "Semantic error: unknown operator " := by decide +kernel
      simp only [Text.one_line_append, wording, quote_one_line (quoted text rfl), stop, true_and]
  | unexpectedToken text =>
      have wording : OneLine "Syntax error: unexpected token " := by decide +kernel
      simp only [Text.one_line_append, wording, quote_one_line (quoted text rfl), stop, true_and]
  | nestingTooDeep limit =>
      have wording : OneLine "Syntax error: parentheses nested too deeply (limit " := by decide +kernel
      have closing : OneLine ")." := by decide
      simp only [Text.one_line_append, wording, Text.repr_one_line, closing, true_and]
  | _ => decide +kernel

namespace Lexeme

theorem run_nonempty {text : List Char} : ∀ run ∈ runs text, run.text ≠ [] := by
  induction text with
  | nil => exact nofun
  | cons character rest ih =>
      rw [runs_cons]
      cases behind : runs rest with
      | nil => simp [extend]
      | cons first others =>
          rw [behind] at ih
          rw [extend]
          split <;> simp_all

variable {source : String} {lexeme : Lexeme}

theorem run_of_source (member : lexeme ∈ ofSource source) : lexeme.run ∈ runs source.toList := by
  rw [← map_run_of_source]
  exact List.mem_map_of_mem member

theorem text_ne_empty (member : lexeme ∈ ofSource source) : lexeme.text ≠ "" := by
  intro empty
  have nonempty := run_nonempty lexeme.run (run_of_source member)
  simp [run, empty] at nonempty

theorem character_of_source (member : lexeme ∈ ofSource source) :
    ∀ character ∈ lexeme.text.toList, character ∈ source.toList := by
  intro character inText
  rw [← flatten_runs source.toList, List.mem_flatten]
  exact ⟨lexeme.run.text, List.mem_map_of_mem (run_of_source member), inText⟩

end Lexeme

/-! ## Faults and events of an evaluation -/

section

variable {expression text : String} {fault : Fault} {event : Event}

theorem quotation_of_evaluate (failed : evaluate expression = .error fault)
    (quoted : text ∈ fault.quotation?) :
    ∃ lexeme ∈ Lexeme.ofSource (Text.stripWhitespace expression), lexeme.text = text := by
  obtain ⟨scanned, ahead, reports, account⟩ := read_source_accounted (Text.stripWhitespace expression)
  have reaches := account.reaches
  rw [← evaluate_eq, failed] at reaches
  rw [account.split]
  cases fault with
  | unknownOperator named =>
      obtain ⟨bad, rest, rfl, same, _⟩ := reaches
      cases quoted
      exact ⟨bad, by simp, same⟩
  | unexpectedToken named =>
      obtain ⟨before, last, _, rfl, same, _⟩ := reaches
      cases quoted
      exact ⟨last, by simp, same⟩
  | _ => cases quoted

theorem quotation_visible (failed : evaluate expression = .error fault)
    (quoted : text ∈ fault.quotation?) :
    text ≠ "" ∧ ∀ character ∈ text.toList, Text.isWhitespace character = false := by
  obtain ⟨lexeme, member, rfl⟩ := quotation_of_evaluate failed quoted
  refine ⟨Lexeme.text_ne_empty member, ?_⟩
  intro character inText
  exact Text.no_blank_of_stripped expression character (Lexeme.character_of_source member character inText)

theorem fault_one_line (failed : evaluate expression = .error fault) : OneLine fault.message := by
  apply Fault.message_one_line
  intro text quoted
  exact Text.one_line_of_no_blank (quotation_visible failed quoted).2

namespace Event

theorem token_text_one_line (token : Token) : OneLine (tokenText token) := by
  have closing : OneLine ")" := by decide
  unfold tokenText
  cases token with
  | number value =>
      have opening : OneLine "Number(" := by decide
      simp only [Text.one_line_append, opening, Binary64.logged_text_one_line, closing, true_and]
  | symbol operator =>
      have opening : OneLine "Operator(" := by decide
      have name : OneLine operator.name := by cases operator <;> decide
      simp only [Text.one_line_append, opening, name, closing, true_and]
  | finish => decide

theorem message_one_line (told : ∀ source fault, event = failed source fault → OneLine fault.message) :
    OneLine event.message := by
  unfold message
  cases event with
  | evaluating source =>
      have wording : OneLine "evaluating " := by decide
      simp only [Text.one_line_append, wording, Text.quoted_one_line, true_and]
  | scanned token start stop =>
      have wording : OneLine "token " := by decide
      have place : OneLine " at " := by decide
      have dots : OneLine ".." := by decide
      simp only [Text.one_line_append, wording, token_text_one_line, place, Text.repr_one_line, dots,
        true_and]
  | trailingInput text =>
      have wording : OneLine "trailing input starting at " := by decide +kernel
      simp only [Text.one_line_append, wording, Text.quoted_one_line, true_and]
  | evaluated source value =>
      have wording : OneLine " evaluated to " := by decide
      simp only [Text.one_line_append, wording, Text.quoted_one_line, Binary64.plain_text_one_line,
        true_and]
  | failed source fault =>
      have wording : OneLine " failed: " := by decide
      simp only [Text.one_line_append, wording, Text.quoted_one_line, told source fault rfl, true_and]

theorem line_with_one_line {message : String} (oneLine : OneLine message) :
    OneLine (event.lineWith message) := by
  have blank : OneLine " " := by decide
  have colon : OneLine ": " := by decide
  have label : OneLine event.level.label := by cases event.level <;> decide
  have target : OneLine event.target := by
    unfold target
    split <;> decide +kernel
  unfold lineWith
  simp only [Text.one_line_append, label, blank, target, colon, oneLine, true_and]

end Event

/-- Only the last event can tell of a fault, and it tells of the result. -/
theorem fault_of_failed_event {source : String}
    (reported : .failed source fault ∈ (Evaluation.ofExpression expression).events) :
    evaluate expression = .error fault := by
  obtain ⟨scanned, _, reports, account, events⟩ := events_of_evaluation expression
  have noReport : .failed source fault ∉ reports := by
    intro member
    have listed : some (.failed source fault) ∈ scanned.map Lexeme.report? := by
      rw [account.known]
      exact List.mem_map_of_mem member
    obtain ⟨lexeme, _, report⟩ := List.mem_map.mp listed
    simp [Lexeme.report?] at report
  have noLeftOver : .failed source fault ∉ Event.leftOver (evaluate expression) := by
    unfold Event.leftOver
    split <;> simp
  have last : .failed source fault =
      Evaluation.lastEvent (Text.stripWhitespace expression) (evaluate expression) := by
    simpa [events, noReport, noLeftOver] using reported
  cases result : evaluate expression with
  | ok value =>
      rw [result] at last
      cases last
  | error _ =>
      rw [result] at last
      cases last
      rfl

theorem event_one_line (reported : event ∈ (Evaluation.ofExpression expression).events) :
    OneLine event.message := by
  apply Event.message_one_line
  rintro source fault rfl
  exact fault_one_line (fault_of_failed_event reported)

theorem answer_line_one_line (expression : String) :
    OneLine (Run.answerLine (evaluate expression)) := by
  have good : OneLine "== " := by decide
  have bad : OneLine "!! " := by decide
  unfold Run.answerLine
  cases result : evaluate expression with
  | ok value => simp only [Text.one_line_append, good, Binary64.result_text_one_line, true_and]
  | error fault => simp only [Text.one_line_append, bad, fault_one_line result, true_and]

end

/-! ## Lines of a run -/

namespace Run

/-- An expression at the prompt prints one line before the rest of the input is answered. -/
theorem of_lines_of_expression {line : InputLine} {typed expression : String}
    (read : line.text = .ok typed) (asked : Command.ofLine typed = .evaluate expression)
    (lines : List InputLine) :
    (ofLines (line :: lines)).stdout =
      answerLine (evaluate expression) ++ "\n" ++ (ofLines lines).stdout := by
  have replied : reply line = .goOn (respond (.evaluate expression)) := by
    simp only [reply, read, asked]
  have answers : (respond (.evaluate expression)).filterMap Output.stdout? =
      [answerLine (evaluate expression)] := by
    rw [respond, List.filterMap_append, answers_of_logged]
    rfl
  rw [ofLines, replied]
  simp only [stdout_preceded_by, answers, lines_text_singleton]

theorem stderr_one_line {output : Output} {level : Level} {line : String} (written : Written output)
    (shown : output.stderr? level = some line) : OneLine line := by
  have wording : OneLine "Failed to read input: " := by decide +kernel
  cases written with
  | help => cases shown
  | result value => cases shown
  | answer expression => cases shown
  | fault failed =>
      cases shown
      exact fault_one_line failed
  | unread fault =>
      cases shown
      rw [Text.one_line_append]
      refine ⟨wording, ?_⟩
      cases fault <;> decide +kernel
  | event reported =>
      rw [Output.stderr?] at shown
      split at shown
      · cases shown
        exact Event.line_with_one_line (Text.sanitized_one_line (event_one_line reported))
      · cases shown

theorem stderr_lines_one_line (options : Options) (input : List UInt8) (level : Level) :
    ∀ line ∈ (ofOptions options input).outputs.filterMap (Output.stderr? level), OneLine line := by
  intro line member
  obtain ⟨output, written, shown⟩ := List.mem_filterMap.mp member
  exact stderr_one_line (written_of_options written) shown

end Run

/-- What a fault quotes is visible and not empty, and no fault, event or result holds a line break. So an
expression at the prompt is answered with one line, and standard error has one line for each fault and each
event that is shown. -/
theorem nothing_forged_from_input :
    (∀ expression fault, evaluate expression = .error fault →
      OneLine fault.message ∧ ∀ text ∈ fault.quotation?,
        text ≠ "" ∧ ∀ character ∈ text.toList, Text.isWhitespace character = false) ∧
    (∀ expression, ∀ event ∈ (Evaluation.ofExpression expression).events, OneLine event.line) ∧
    (∀ value : Binary64, OneLine value.resultText) ∧
    (∀ (line : InputLine) (typed expression : String) (lines : List InputLine),
      line.text = .ok typed → Command.ofLine typed = .evaluate expression →
        OneLine (Run.answerLine (evaluate expression)) ∧
          (Run.ofLines (line :: lines)).stdout =
            Run.answerLine (evaluate expression) ++ "\n" ++ (Run.ofLines lines).stdout) ∧
    ∀ (options : Options) (input : List UInt8) (level : Level),
      (∀ line ∈ (Run.ofOptions options input).outputs.filterMap (Output.stderr? level), OneLine line) ∧
        Text.lines ((Run.ofOptions options input).stderr level) =
          (Run.ofOptions options input).outputs.filterMap (Output.stderr? level) ++ [""] := by
  refine ⟨?_, ?_, Binary64.result_text_one_line, ?_, ?_⟩
  · intro expression fault failed
    exact ⟨fault_one_line failed, fun text quoted => quotation_visible failed quoted⟩
  · intro expression event reported
    exact Event.line_with_one_line (event_one_line reported)
  · intro line typed expression lines read asked
    exact ⟨answer_line_one_line expression, Run.of_lines_of_expression read asked lines⟩
  · intro options input level
    have oneLine := Run.stderr_lines_one_line options input level
    refine ⟨oneLine, Run.lines_of_lines_text ?_⟩
    intro line member
    exact Text.newline_not_mem (oneLine line member)

/-- A line that holds a separator of lines and the start of an answer. -/
theorem forged_answer_stays_quoted :
    OneLine (Fault.unknownOperator "==x").message ∧
      (Run.ofLines [InputLine.ofText "8\u2028==x" true]).stdout =
        "!! Semantic error: unknown operator \"==x\".\n" := by
  obtain ⟨faults, _, _, answers, _⟩ := nothing_forged_from_input
  have failed : evaluate "8==x" = .error (.unknownOperator "==x") := by with_unfolding_all rfl
  have read : (InputLine.ofText "8\u2028==x" true).text = .ok "8\u2028==x" :=
    InputLine.text_of_plain (by decide) (by decide)
  have asked : Command.ofLine "8\u2028==x" = .evaluate "8==x" := by decide +kernel
  refine ⟨(faults "8==x" _ failed).1, ?_⟩
  rw [(answers _ _ _ [] read asked).2, failed]
  decide +kernel

end Calculator
