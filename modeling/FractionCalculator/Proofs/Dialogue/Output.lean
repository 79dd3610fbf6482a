import FractionCalculator.Proofs.Dialogue.Lines
import FractionCalculator.Proofs.Transcript.Serving

/-!
# What a dialogue writes

A dialogue writes a prompt and then serves its lines, each with its answer and
the next prompt. So it is the loop of a listing with other texts, over the lines
before the first that ends it. When the output or the input fails, nothing but
the tail is lost: the output holds the first bytes of the conversation, and the
session has executed the lines before whose answer everything fits, the line
whose answer is cut included.
-/

namespace FractionCalculator.Dialogue

/-- The lines that a dialogue executes, of all that can be read: those before the
first that ends it. -/
def executedLines (pieces : List Bytes) : List Text :=
  (pieces.map lineOfBytes).takeWhile fun line => !isQuit line

/-- Some line ends the dialogue. -/
def quits (pieces : List Bytes) : Bool :=
  pieces.any fun bytes => isQuit (lineOfBytes bytes)

/-- The answer to an executed line and the prompt after it. -/
def present (execution : Execution) : Text :=
  answer execution.line execution.report.result ++ prompt

/-- How a dialogue ends if everything can be written. -/
def properEnding (fails : Bool) (pieces : List Bytes) : Ending :=
  if fails ∧ ¬ quits pieces then .readFailed else .finished

/-- The records after those of the last line. -/
def closing (fails : Bool) (pieces : List Bytes) : List Record :=
  if fails ∨ quits pieces then [] else [.endOfInput]

/-- The complete responses to the lines that are executed. -/
def responses (session : Session) (lines : List Text) : List Bytes :=
  (session.executions lines).map fun execution =>
    Utf8.encode (answer execution.line execution.report.result)

/-- Responses as they are written: the first prompt, and each response with the
prompt after it. -/
def parts (responses : List Bytes) : List Bytes :=
  Utf8.encode prompt :: responses.map fun response => response ++ Utf8.encode prompt

/-- All that is written for some responses. -/
def conversation (responses : List Bytes) : Bytes :=
  (parts responses).flatten

/-! ## A dialogue serves lines -/

section

variable {session : Session} {bytes : Bytes}

theorem respond?_of_isQuit (quit : isQuit (lineOfBytes bytes) = true) :
    respond? session bytes = none := by
  simp only [respond?, quit, if_true]

theorem respond?_of_not_isQuit (goesOn : ¬ isQuit (lineOfBytes bytes) = true) :
    respond? session bytes =
      some (answer (lineOfBytes bytes) (session.execute (lineOfBytes bytes)).result,
        session.execute (lineOfBytes bytes)) := by
  simp only [respond?, goesOn, if_false, Bool.false_eq_true]

end

theorem executedLines_cons (bytes : Bytes) (rest : List Bytes) :
    executedLines (bytes :: rest) =
      if isQuit (lineOfBytes bytes) then [] else lineOfBytes bytes :: executedLines rest := by
  by_cases quit : isQuit (lineOfBytes bytes) = true <;> simp [executedLines, quit]

theorem quits_cons (bytes : Bytes) (rest : List Bytes) :
    quits (bytes :: rest) = (isQuit (lineOfBytes bytes) || quits rest) :=
  rfl

/-- A dialogue over given lines serves those before the one that ends it. The
prompt after an answer is written in the session that the answer leaves, so it
may be taken as part of the answer. -/
theorem converse_eq_write_serve (fails : Bool) (room : Room) (session : Session)
    (pieces : List Bytes) :
    converse fails room session pieces =
      .write room session prompt fun left =>
        .serve present (properEnding fails pieces) (closing fails pieces) left session
          (executedLines pieces) := by
  induction pieces generalizing room session with
  | nil => cases fails <;> rfl
  | cons bytes rest inductionHypothesis =>
      rw [converse]
      congr 1
      funext left
      by_cases quit : isQuit (lineOfBytes bytes) = true
      · have nothing : executedLines (bytes :: rest) = [] := by
          rw [executedLines_cons, if_pos quit]
        have ended : quits (bytes :: rest) = true := by rw [quits_cons, quit, Bool.true_or]
        rw [respond?_of_isQuit quit, nothing]
        simp [Transcript.serve, Transcript.stop, properEnding, closing, ended]
      · have first : executedLines (bytes :: rest) = lineOfBytes bytes :: executedLines rest := by
          rw [executedLines_cons, if_neg quit]
        have later : quits (bytes :: rest) = quits rest := by simp [quits_cons, quit]
        rw [respond?_of_not_isQuit quit, first]
        simp only [inductionHypothesis, Transcript.write_write, Transcript.serve, present,
          properEnding, closing, later]

theorem prompt_cons_texts (session : Session) (lines : List Text) :
    Utf8.encode prompt :: Transcript.texts present session lines =
      parts (responses session lines) := by
  simp [parts, responses, Transcript.texts, present, Utf8.encode_append, Function.comp_def]

/-- The transcript of a dialogue, whatever the room. -/
theorem run_eq (room : Room) (session : Session) (input : Input) :
    run room session input =
      let lines := executedLines input.lines
      let whole := conversation (responses session lines)
      let executed := lines.take (room.begun (parts (responses session lines)) - 1)
      ⟨room.accept whole, room.ending whole (properEnding input.fails input.lines),
        session.afterLines executed,
        session.logOfLines executed ++
          if room.fits whole then closing input.fails input.lines else []⟩ := by
  rw [run, converse_eq_write_serve, Transcript.write_serve_eq, prompt_cons_texts]
  rfl

/-! ## Responses that fit -/

@[simp]
theorem length_responses (session : Session) (lines : List Text) :
    (responses session lines).length = lines.length := by
  rw [responses, List.length_map, Session.length_executions]

@[simp]
theorem length_parts (responses : List Bytes) :
    (parts responses).length = responses.length + 1 := by
  rw [parts, List.length_cons, List.length_map]

theorem conversation_take (responses : List Bytes) (position : Nat) :
    conversation (responses.take position) = ((parts responses).take (position + 1)).flatten := by
  rw [conversation, parts, parts, List.take_succ_cons, List.map_take]

/-- With room for everything no line is left out. -/
theorem run_unlimited_eq (session : Session) (input : Input) :
    run .unlimited session input =
      let lines := executedLines input.lines
      ⟨conversation (responses session lines), properEnding input.fails input.lines,
        session.afterLines lines,
        session.logOfLines lines ++ closing input.fails input.lines⟩ := by
  rw [run_eq]
  simp [Room.accept, Room.ending]

/-- A dialogue that finishes is one with room for everything. -/
theorem run_eq_of_finished {room : Room} {session : Session} {input : Input}
    (finished : (run room session input).ending = .finished) :
    run room session input = run .unlimited session input := by
  have noFailure : (run room session input).ending ≠ .writeFailed := by simp [finished]
  rw [run_eq] at noFailure
  have whole := Room.fits_of_ending_ne noFailure
  have begun := Room.begun_of_fits whole
  rw [length_parts, length_responses] at begun
  rw [run_eq, run_unlimited_eq]
  simp [Room.ending, whole, Room.accept_of_fits, begun]

theorem properEnding_ne_writeFailed (fails : Bool) (pieces : List Bytes) :
    properEnding fails pieces ≠ .writeFailed := by
  rw [properEnding]
  split <;> decide

theorem properEnding_eq_readFailed_iff (fails : Bool) (pieces : List Bytes) :
    properEnding fails pieces = .readFailed ↔ fails = true ∧ ¬ quits pieces = true := by
  rw [properEnding]
  split <;> simp_all

theorem properEnding_eq_finished_iff (fails : Bool) (pieces : List Bytes) :
    properEnding fails pieces = .finished ↔ ¬ (fails = true ∧ ¬ quits pieces = true) := by
  rw [properEnding]
  split <;> simp_all

/-- A dialogue that ends in order notes the end of its input unless a line ends it. -/
theorem closing_of_finished {fails : Bool} {pieces : List Bytes}
    (finished : properEnding fails pieces = .finished) :
    closing fails pieces = if quits pieces then [] else [.endOfInput] := by
  rw [properEnding_eq_finished_iff] at finished
  by_cases quit : quits pieces = true
  · simp [closing, quit]
  · have ended : ¬ fails = true := fun failed => finished ⟨failed, quit⟩
    simp [closing, quit, ended]

/-! ## Failing outputs and inputs -/

/-- An output with a limit takes the first bytes of the conversation that an
unlimited one would hold. The dialogue ends with the failed write exactly when
that is not all of it, and otherwise with the failed read if the input fails
before a line ends the dialogue. Just those lines are executed before whose
answer everything fits. -/
theorem conversation_and_executed_lines (session : Session) (input : Input) (limit : Nat) :
    let lines := executedLines input.lines
    let answers := responses session lines
    let cut := run (.bytes limit) session input
    let readFails := input.fails = true ∧ ¬ quits input.lines = true
    input.IsCut input.lines ∧
      (run .unlimited session input).output = conversation answers ∧
      cut.output = (conversation answers).take limit ∧
      (cut.ending = .writeFailed ↔ limit < (conversation answers).length) ∧
      (cut.ending = .readFailed ↔ (conversation answers).length ≤ limit ∧ readFails) ∧
      (cut.ending = .finished ↔ (conversation answers).length ≤ limit ∧ ¬ readFails) ∧
      ∃ count ≤ lines.length,
        (∀ position < lines.length,
          (position < count ↔ (conversation (answers.take position)).length ≤ limit)) ∧
        cut.session = session.afterLines (lines.take count) ∧
        cut.log = session.logOfLines (lines.take count) ++
          if (conversation answers).length ≤ limit then closing input.fails input.lines
          else [] := by
  intro lines answers cut readFails
  have cut_eq := run_eq (.bytes limit) session input
  have ending := congrArg Transcript.ending cut_eq
  refine ⟨input.isCut_lines, congrArg Transcript.output (run_unlimited_eq session input),
    congrArg Transcript.output cut_eq, ?_, ?_, ?_, (Room.bytes limit).begun (parts answers) - 1,
    ?_, ?_, congrArg Transcript.session cut_eq, ?_⟩
  · rw [ending]
    exact Room.ending_bytes_eq_writeFailed_iff limit _ (properEnding_ne_writeFailed _ _)
  · rw [ending, Room.ending_bytes_eq_iff limit _ _ (by decide), properEnding_eq_readFailed_iff]
  · rw [ending, Room.ending_bytes_eq_iff limit _ _ (by decide), properEnding_eq_finished_iff]
  · have begun := (Room.bytes limit).begun_le (parts answers)
    rw [length_parts, length_responses] at begun
    omega
  · intro position inside
    have insideParts : position + 1 < (parts answers).length := by
      rw [length_parts, length_responses]
      omega
    have begun := (Room.bytes limit).lt_begun_iff insideParts
    rw [Room.fits_bytes, decide_eq_true_iff, ← conversation_take] at begun
    rw [← begun]
    omega
  · simpa using congrArg Transcript.log cut_eq

/-- The room ends inside the answer to the second line, which is executed all the
same; the third line is lost with the input. -/
theorem conversation_and_executed_lines_division :
    let input : Input := ⟨Utf8.encode "1 / 2\nSTORE A\n3".toList, true⟩
    let lines := ["1 / 2".toList, "STORE A".toList]
    let cut := run (.bytes 12) .fresh input
    0 < lines.length ∧ 1 < lines.length ∧
      cut.output = Utf8.encode "> 1/2\n> *** ".toList ∧
      cut.ending = .writeFailed ∧
      cut.session = Session.fresh.afterLines lines := by
  intro input lines cut
  have read : executedLines input.lines = lines := rfl
  have first : 0 < lines.length := by decide
  have second : 1 < lines.length := by decide
  obtain ⟨-, -, output, failed, -, -, count, bound, executed, session, -⟩ :=
    conversation_and_executed_lines .fresh input 12
  rw [read] at output failed bound executed session
  have secondExecuted : 1 < count := (executed 1 second).mpr (by decide)
  have both : count = 2 := Nat.le_antisymm bound secondExecuted
  rw [both] at session
  exact ⟨first, second, output.trans (by decide), failed.mpr (by decide), session⟩

end FractionCalculator.Dialogue
