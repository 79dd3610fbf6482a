import FractionCalculator.Proofs.Dialogue.Agreement
import FractionCalculator.Proofs.Session.Records

/-!
# Dialogues in two parts

An input can be cut after any line feed. If no line before the cut ends the
dialogue, the dialogue is that over the first part, without its last prompt and
the note that its input has ended, and after it the dialogue over the second part
in the session that the first has left. If some line before the cut ends the
dialogue, what comes after the cut makes no difference. Prompts are the only
places of the output with a greater-than sign, and there is one more of them than
there are executed lines.
-/

namespace FractionCalculator

/-! ## Inputs in two parts -/

namespace Input

theorem cut_snd_eq_nil {before : Bytes} (ended : before = [] ∨ before.getLast? = some 0x0a) :
    (cut before).2 = [] := by
  rcases ended with rfl | last
  · rfl
  · have noFeed := (isLine_and_not_mem_of_cut before).2
    by_contra nonempty
    rw [← cut_flatten before, List.getLast?_append_of_ne_nil _ nonempty] at last
    exact noFeed (List.mem_of_getLast? last)

/-- The lines before a cut after a line feed, and those after it. -/
theorem lines_append {before : Bytes} (ended : before = [] ∨ before.getLast? = some 0x0a)
    (after : Bytes) (fails : Bool) :
    lines ⟨before ++ after, fails⟩ = lines ⟨before, false⟩ ++ lines ⟨after, fails⟩ := by
  have complete := cut_snd_eq_nil ended
  simp only [lines, cut_append complete after, complete, or_true, if_true]
  split
  · rfl
  · rw [List.append_assoc]

end Input

namespace Dialogue

theorem quits_append (earlier later : List Bytes) :
    quits (earlier ++ later) = (quits earlier || quits later) :=
  List.any_append

/-- Later lines are executed unless an earlier one ends the dialogue. -/
theorem executedLines_append (earlier later : List Bytes) :
    executedLines (earlier ++ later) =
      if quits earlier then executedLines earlier
      else executedLines earlier ++ executedLines later := by
  induction earlier with
  | nil => rfl
  | cons bytes rest inductionHypothesis =>
      rw [List.cons_append, executedLines_cons, executedLines_cons, quits_cons,
        inductionHypothesis]
      by_cases quit : isQuit (lineOfBytes bytes) = true
      · simp [quit]
      · by_cases later : quits rest = true <;> simp [quit, later]

/-! ## Outputs in two parts -/

theorem responses_append (session : Session) (earlier later : List Text) :
    responses session (earlier ++ later) =
      responses session earlier ++ responses (session.afterLines earlier) later := by
  rw [responses, Session.executions_append, List.map_append, responses, responses]

theorem conversation_cons (response : Bytes) (later : List Bytes) :
    conversation (response :: later) = Utf8.encode prompt ++ response ++ conversation later := by
  simp [conversation, parts]

theorem conversation_append (earlier later : List Bytes) :
    conversation (earlier ++ later) =
      (earlier.map (Utf8.encode prompt ++ ·)).flatten ++ conversation later := by
  induction earlier with
  | nil => rfl
  | cons response rest inductionHypothesis =>
      rw [List.cons_append, conversation_cons, inductionHypothesis, List.map_cons,
        List.flatten_cons, List.append_assoc _ _ (conversation later)]

theorem conversation_eq (responses : List Bytes) :
    conversation responses =
      (responses.map (Utf8.encode prompt ++ ·)).flatten ++ Utf8.encode prompt := by
  have whole := conversation_append responses []
  rwa [List.append_nil] at whole

/-! ## Counting prompts -/

/-- The number of places in a text at which a prompt stands. -/
def prompts : Text → Nat
  | [] => 0
  | char :: rest => (if prompt.isPrefixOf (char :: rest) then 1 else 0) + prompts rest

theorem prompts_append_of_notMem {before : Text} (noSign : '>' ∉ before) (after : Text) :
    prompts (before ++ after) = prompts after := by
  induction before with
  | nil => rfl
  | cons char rest inductionHypothesis =>
      rw [List.mem_cons, not_or] at noSign
      have other : ('>' == char) = false := by simp [noSign.1]
      simp [prompts, prompt, List.isPrefixOf, other, inductionHypothesis noSign.2]

theorem prompts_prompt_append (after : Text) : prompts (prompt ++ after) = prompts after + 1 := by
  simp [prompts, prompt, List.isPrefixOf, Nat.add_comm]

/-- No answer has a greater-than sign. -/
theorem sign_notMem_answer (line : Text) (result : Except Fault Answer) :
    '>' ∉ answer line result := by
  rcases result with fault | ⟨value | register⟩
  · by_cases storeLine : Instruction.storeMark <+: line
    · rw [answer_error_of_store storeLine]
      decide
    · rw [answer_error_of_not_store storeLine, Fault.summary]
      split <;> decide
  · rw [answer_value, List.mem_append, not_or]
    exact ⟨value.notMem_toText rfl (by decide) (by decide), by decide⟩
  · rw [answer_stored]
    decide

/-- An output with answers between its prompts has one prompt more than answers. -/
theorem prompts_flatten (answers : List Text) (noSign : ∀ text ∈ answers, '>' ∉ text) :
    prompts (prompt ++ (answers.map (· ++ prompt)).flatten) = answers.length + 1 := by
  induction answers with
  | nil => rfl
  | cons text rest inductionHypothesis =>
      rw [List.forall_mem_cons] at noSign
      rw [prompts_prompt_append, List.map_cons, List.flatten_cons, List.append_assoc,
        prompts_append_of_notMem noSign.1, inductionHypothesis noSign.2, List.length_cons]

/-- A dialogue prompts before each line that it executes, and once more. -/
theorem exists_output_eq_and_prompts_eq (session : Session) (input : Input) :
    ∃ text, (run .unlimited session input).output = Utf8.encode text ∧
      prompts text = (executedLines input.lines).length + 1 := by
  let answers := (session.executions (executedLines input.lines)).map fun done =>
    answer done.line done.report.result
  have noSign : ∀ text ∈ answers, '>' ∉ text := by
    intro text member
    obtain ⟨done, -, rfl⟩ := List.mem_map.mp member
    exact sign_notMem_answer done.line done.report.result
  refine ⟨prompt ++ (answers.map (· ++ prompt)).flatten, ?_, ?_⟩
  · rw [List.map_map]
    exact output_run_unlimited session input
  · rw [prompts_flatten answers noSign, List.length_map, Session.length_executions]

/-! ## Dialogues in two parts -/

section

variable {before : Bytes} (ended : before = [] ∨ before.getLast? = some 0x0a)
include ended

/-- A line that ends the dialogue keeps it from reading on. -/
theorem run_append_of_quits (quit : quits (Input.lines ⟨before, false⟩) = true)
    (session : Session) (after : Bytes) (fails : Bool) :
    run .unlimited session ⟨before ++ after, fails⟩ =
      run .unlimited session ⟨before, false⟩ := by
  rw [run_unlimited_eq, run_unlimited_eq]
  simp [Input.lines_append ended, executedLines_append, quits_append, quit, properEnding, closing]

/-- Otherwise it goes on where the first part has left it. -/
theorem run_append_of_not_quits (goesOn : quits (Input.lines ⟨before, false⟩) = false)
    (session : Session) (after : Bytes) (fails : Bool) :
    let lines := executedLines (Input.lines ⟨before, false⟩)
    let printed := ((responses session lines).map (Utf8.encode prompt ++ ·)).flatten
    let rest := run .unlimited (session.afterLines lines) ⟨after, fails⟩
    run .unlimited session ⟨before, false⟩ =
        ⟨printed ++ Utf8.encode prompt, .finished, session.afterLines lines,
          session.logOfLines lines ++ [.endOfInput]⟩ ∧
      run .unlimited session ⟨before ++ after, fails⟩ =
        ⟨printed ++ rest.output, rest.ending, rest.session,
          session.logOfLines lines ++ rest.log⟩ := by
  intro lines printed rest
  constructor
  · simp [run_unlimited_eq, conversation_eq, goesOn, properEnding, closing, printed, lines]
  · simp [run_unlimited_eq, Input.lines_append ended, executedLines_append, quits_append, goesOn,
      properEnding, closing, responses_append, conversation_append, Session.afterLines_append,
      Session.logOfLines_append, printed, rest, lines]

end

theorem quits_eq_true_iff (pieces : List Bytes) :
    quits pieces = true ↔ ∃ piece ∈ pieces, isQuit (lineOfBytes piece) = true :=
  List.any_eq_true

/-- An input may be cut after a line feed. If no line before the cut ends the
dialogue, all but the last prompt and the note on the end of the input is what the
first part gives, and what comes then is a dialogue over the second part in the
session left. Otherwise the second part is not read. In all, the prompts are one
more than the lines that were executed. -/
theorem run_append_and_prompts (session : Session) :
    (∀ (before after : Bytes) (fails : Bool), before = [] ∨ before.getLast? = some 0x0a →
      let pieces := Input.lines ⟨before, false⟩
      let first := run .unlimited session ⟨before, false⟩
      let whole := run .unlimited session ⟨before ++ after, fails⟩
      Input.IsCut ⟨before, false⟩ pieces ∧
        ((∀ piece ∈ pieces, ¬ isQuit (lineOfBytes piece) = true) →
          let rest := run .unlimited first.session ⟨after, fails⟩
          ∃ printed noted, first.output = printed ++ Utf8.encode prompt ∧
            first.log = noted ++ [.endOfInput] ∧ .endOfInput ∉ noted ∧
            whole = ⟨printed ++ rest.output, rest.ending, rest.session, noted ++ rest.log⟩) ∧
        ((∃ piece ∈ pieces, isQuit (lineOfBytes piece) = true) →
          whole = first ∧ .endOfInput ∉ whole.log)) ∧
    ∀ input, let lines := executedLines input.lines
      let dialogue := run .unlimited session input
      dialogue.session = session.afterLines lines ∧
        dialogue.log = session.logOfLines lines ++ closing input.fails input.lines ∧
        ∃ text, dialogue.output = Utf8.encode text ∧ prompts text = lines.length + 1 := by
  constructor
  · intro before after fails ended pieces first whole
    refine ⟨Input.isCut_lines _, ?_, ?_⟩
    · intro noQuit rest
      have goesOn : quits pieces = false := by
        rw [Bool.eq_false_iff, Ne, quits_eq_true_iff]
        rintro ⟨piece, member, quit⟩
        exact noQuit piece member quit
      obtain ⟨first_eq, whole_eq⟩ := run_append_of_not_quits ended goesOn session after fails
      have left : first.session = session.afterLines (executedLines pieces) :=
        congrArg Transcript.session first_eq
      rw [← left] at whole_eq
      exact ⟨_, _, congrArg Transcript.output first_eq, congrArg Transcript.log first_eq,
        Session.endOfInput_notMem_logOfLines session _, whole_eq⟩
    · intro quit
      have ends := (quits_eq_true_iff pieces).mpr quit
      have same : whole = first := run_append_of_quits ended ends session after fails
      refine ⟨same, ?_⟩
      have closed : closing false pieces = [] := by simp [closing, ends]
      have logged : first.log = session.logOfLines (executedLines pieces) ++ closing false pieces :=
        congrArg Transcript.log (run_unlimited_eq session ⟨before, false⟩)
      rw [same, logged, closed, List.append_nil]
      exact Session.endOfInput_notMem_logOfLines session _
  · intro input lines dialogue
    have dialogue_eq : dialogue = _ := run_unlimited_eq session input
    exact ⟨congrArg Transcript.session dialogue_eq, congrArg Transcript.log dialogue_eq,
      exists_output_eq_and_prompts_eq session input⟩

/-- Two lines, one of which encodes no text, and two more, the second of which ends
the dialogue; what comes after them is not even missed when it cannot be read. -/
theorem run_append_and_prompts_halves :
    let before := Utf8.encode "1/2\n".toList ++ [0xff, 0x0a]
    let after := Utf8.encode "STORE a\n Quit\n".toList
    let first := run .unlimited .fresh ⟨before, false⟩
    let rest := run .unlimited first.session ⟨after, false⟩
    let whole := run .unlimited .fresh ⟨before ++ after, false⟩
    before.getLast? = some 0x0a ∧
      (∀ piece ∈ Input.lines ⟨before, false⟩, ¬ isQuit (lineOfBytes piece) = true) ∧
      (∃ printed, first.output = printed ++ Utf8.encode prompt ∧
        whole.output = printed ++ rest.output) ∧
      (before ++ after).getLast? = some 0x0a ∧
      (∃ piece ∈ Input.lines ⟨before ++ after, false⟩, isQuit (lineOfBytes piece) = true) ∧
      run .unlimited .fresh ⟨before ++ after ++ Utf8.encode "b\n".toList, true⟩ = whole ∧
      ∃ text, whole.output = Utf8.encode text ∧ prompts text = 4 := by
  intro before after first rest whole
  have ended : before.getLast? = some 0x0a := by decide
  have goesOn : ∀ piece ∈ Input.lines ⟨before, false⟩, ¬ isQuit (lineOfBytes piece) = true := by
    decide
  have allEnded : (before ++ after).getLast? = some 0x0a := by decide
  have quit : ∃ piece ∈ Input.lines ⟨before ++ after, false⟩,
      isQuit (lineOfBytes piece) = true := by
    decide
  obtain ⟨framing, counting⟩ := run_append_and_prompts .fresh
  obtain ⟨-, continued, -⟩ := framing before after false (.inr ended)
  obtain ⟨-, -, stopped⟩ :=
    framing (before ++ after) (Utf8.encode "b\n".toList) true (.inr allEnded)
  obtain ⟨printed, noted, output, -, -, whole_eq⟩ := continued goesOn
  exact ⟨ended, goesOn, ⟨printed, output, congrArg Transcript.output whole_eq⟩, allEnded, quit,
    (stopped quit).1, (counting ⟨before ++ after, false⟩).2.2⟩

end Dialogue

end FractionCalculator
