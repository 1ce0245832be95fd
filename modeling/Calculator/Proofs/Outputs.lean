import Calculator.Proofs.Prompt

/-!
# What a run writes

A run on an accepted command line writes the help text, answers, faults of what it evaluates and of what it
cannot read, and the events of its evaluations; nothing else reaches either stream. `Written` lists them,
and `written_of_options` says that the list is complete, whatever the options and the input.
-/

set_option autoImplicit false

namespace Calculator

/-- What a run on an accepted command line may write. -/
inductive Written : Output → Prop where
  | help : Written (.answer Command.helpText)
  | result (value : Binary64) : Written (.answer value.resultText)
  | answer (expression : String) : Written (.answer (Run.answerLine (evaluate expression)))
  | fault {expression : String} {fault : Fault} (failed : evaluate expression = .error fault) :
      Written (.complaint fault.message)
  | unread (fault : InputFault) : Written (.complaint ("Failed to read input: " ++ fault.message))
  | event {expression : String} {event : Event}
      (reported : event ∈ (Evaluation.ofExpression expression).events) : Written (.logged event)

namespace Run

variable {output : Output}

theorem written_of_events {expression : String}
    (member : output ∈ (Evaluation.ofExpression expression).events.map Output.logged) :
    Written output := by
  obtain ⟨event, reported, rfl⟩ := List.mem_map.mp member
  exact .event reported

theorem of_expression_of_ok {expression : String} {value : Binary64}
    (evaluated : evaluate expression = .ok value) :
    ofExpression expression =
      { outputs := (Evaluation.ofExpression expression).events.map Output.logged ++
          [.answer value.resultText], status := 0 } := by
  rw [evaluate] at evaluated
  simp only [ofExpression, evaluated]

theorem of_expression_of_error {expression : String} {fault : Fault}
    (failed : evaluate expression = .error fault) :
    ofExpression expression =
      { outputs := (Evaluation.ofExpression expression).events.map Output.logged ++
          [.complaint fault.message], status := 1 } := by
  rw [evaluate] at failed
  simp only [ofExpression, failed]

theorem written_of_expression {expression : String} (member : output ∈ (ofExpression expression).outputs) :
    Written output := by
  cases result : evaluate expression with
  | ok value =>
      simp only [of_expression_of_ok result, List.mem_append, List.mem_singleton] at member
      rcases member with logged | rfl
      · exact written_of_events logged
      · exact .result value
  | error fault =>
      simp only [of_expression_of_error result, List.mem_append, List.mem_singleton] at member
      rcases member with logged | rfl
      · exact written_of_events logged
      · exact .fault result

theorem written_of_command {command : Command} (member : output ∈ respond command) : Written output := by
  cases command with
  | empty => cases member
  | quit => cases member
  | help =>
      rw [List.mem_singleton.mp member]
      exact .help
  | evaluate expression =>
      simp only [respond, List.mem_append, List.mem_singleton] at member
      rcases member with logged | rfl
      · exact written_of_events logged
      · exact .answer expression

theorem written_of_input_fault {fault : InputFault} (member : output ∈ (ofInputFault fault).outputs) :
    Written output := by
  rw [List.mem_singleton.mp member]
  exact .unread fault

def Reply.outputs : Reply → List Output
  | goOn outputs => outputs
  | stop run => run.outputs

theorem written_of_reply {line : InputLine} (member : output ∈ (reply line).outputs) :
    Written output := by
  unfold reply at member
  split at member
  · exact written_of_input_fault member
  · split at member
    · exact absurd member List.not_mem_nil
    · rw [Reply.outputs] at member
      exact written_of_command member

theorem written_of_lines {lines : List InputLine} (member : output ∈ (ofLines lines).outputs) :
    Written output := by
  induction lines with
  | nil => cases member
  | cons line lines ih =>
      have written := @written_of_reply output line
      rw [ofLines] at member
      cases replied : reply line with
      | goOn outputs =>
          rw [replied] at written member
          rcases List.mem_append.mp member with here | later
          · exact written here
          · exact ih later
      | stop run =>
          rw [replied] at written member
          exact written member

theorem written_of_options {options : Options} {input : List UInt8}
    (member : output ∈ (ofOptions options input).outputs) : Written output := by
  unfold ofOptions at member
  cases asked : options.expression with
  | some expression =>
      rw [asked] at member
      exact written_of_expression member
  | none =>
      rw [asked] at member
      rcases List.mem_append.mp member with banner | answered
      · unfold greeting at banner
        split at banner
        · rw [List.mem_singleton.mp banner]
          exact .help
        · cases banner
      · exact written_of_lines answered

theorem lines_text_cons (line : String) (lines : List String) :
    linesText (line :: lines) = line ++ "\n" ++ linesText lines :=
  String.join_cons

theorem lines_of_lines_text {lines : List String} (within : ∀ line ∈ lines, '\n' ∉ line.toList) :
    Text.lines (linesText lines) = lines ++ [""] := by
  induction lines with
  | nil => rfl
  | cons line lines ih =>
      rw [List.forall_mem_cons] at within
      rw [lines_text_cons, Text.lines_of_more within.1, ih within.2, List.cons_append]

end Run

end Calculator
