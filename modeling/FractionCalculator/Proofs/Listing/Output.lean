import FractionCalculator.Proofs.Transcript.Serving
import FractionCalculator.Transcript

/-!
# What a listing writes

A listing serves its lines with their entries. The output is therefore the
entries of all lines as far as they fit, and a line is executed exactly when the
entries before its own fit: the line whose entry is cut is the last one. Without
a limit every line is executed, and a listing in two parts, the second from the
session that the first has left, writes the same as one listing.
-/

namespace FractionCalculator.Listing

/-- The entry of an executed line. -/
def present (execution : Execution) : Text :=
  entry execution.line execution.report.result

/-- A listing serves its lines with their entries. -/
theorem run_eq_serve (room : Room) (session : Session) (lines : List Text) :
    run room session lines = .serve present .finished [] room session lines := by
  induction lines generalizing room session with
  | nil => rfl
  | cons line rest inductionHypothesis =>
      simp only [run, Transcript.serve, inductionHypothesis]
      rfl

theorem run_unlimited_eq (session : Session) (lines : List Text) :
    run .unlimited session lines =
      ⟨(Transcript.texts present session lines).flatten, .finished, session.afterLines lines,
        session.logOfLines lines⟩ := by
  rw [run_eq_serve, Transcript.serve_eq]
  simp [Room.accept, Room.ending]

theorem run_eq_of_finished {room : Room} {session : Session} {lines : List Text}
    (finished : (run room session lines).ending = .finished) :
    run room session lines = run .unlimited session lines := by
  have noFailure : (run room session lines).ending ≠ .writeFailed := by simp [finished]
  rw [run_eq_serve] at noFailure
  rw [run_eq_serve, run_eq_serve, Transcript.serve_eq_unlimited _ _ _ noFailure]

/-- An output with a limit takes the first bytes of all records, and the listing
ends with a failed write exactly when they are more than that. Just those lines
are executed before whose record everything fits. Without a limit every line is
executed, and the output for more lines follows in the session that is left. -/
theorem output_and_executed_lines (session : Session) (lines : List Text) (limit : Nat) :
    let records := (session.executions lines).map fun execution =>
      Utf8.encode <|
        match execution.report.result with
        | .ok (.value value) => execution.line ++ " -> ".toList ++ value.toText ++ ['\n']
        | .ok (.stored _) => execution.line ++ " -> STORED\n".toList
        | .error fault => execution.line ++ ": FAILED [".toList ++ fault.summary ++ "]\n".toList
    let cut := run (.bytes limit) session lines
    let whole := run .unlimited session lines
    (cut.output = records.flatten.take limit ∧
      (cut.ending = .writeFailed ↔ limit < records.flatten.length) ∧
      (cut.ending = .finished ↔ records.flatten.length ≤ limit) ∧
      ∃ count ≤ lines.length,
        (∀ position < lines.length,
          (position < count ↔ (records.take position).flatten.length ≤ limit)) ∧
        cut.session = session.afterLines (lines.take count) ∧
        cut.log = session.logOfLines (lines.take count)) ∧
    whole = ⟨records.flatten, .finished, session.afterLines lines, session.logOfLines lines⟩ ∧
    ∀ more, (run .unlimited session (lines ++ more)).output =
      whole.output ++ (run .unlimited whole.session more).output := by
  intro records cut whole
  have records_eq : records = Transcript.texts present session lines := rfl
  have length_records : records.length = lines.length := by
    rw [records_eq, Transcript.length_texts]
  have cut_eq := Transcript.serve_eq present .finished [] (.bytes limit) session lines
  rw [← run_eq_serve, ← records_eq] at cut_eq
  have whole_eq := run_unlimited_eq session lines
  refine ⟨⟨?_, ?_, ?_, (Room.bytes limit).begun records, ?_, ?_, ?_, ?_⟩, whole_eq, ?_⟩
  · exact congrArg Transcript.output cut_eq
  · rw [congrArg Transcript.ending cut_eq]
    exact Room.ending_bytes_eq_writeFailed_iff limit _ (by decide)
  · rw [congrArg Transcript.ending cut_eq, Room.ending_bytes_eq_iff limit _ _ (by decide)]
    exact and_iff_left rfl
  · rw [← length_records]
    exact Room.begun_le _ _
  · intro position inside
    rw [← length_records] at inside
    rw [Room.lt_begun_iff _ inside, Room.fits_bytes, decide_eq_true_iff]
  · exact congrArg Transcript.session cut_eq
  · simpa using congrArg Transcript.log cut_eq
  · intro more
    simp only [whole, run_unlimited_eq, Transcript.texts_append, List.flatten_append]

/-- The room ends inside the two bytes of the second line: that line is executed,
though only half of its first character is written, and the third line is not. -/
theorem output_and_executed_lines_half_character :
    let lines := ["1/2".toList, "é".toList, "STORE a".toList]
    let cut := run (.bytes 12) .fresh lines
    1 < lines.length ∧ 2 < lines.length ∧
      cut.output = Utf8.encode "1/2 -> 1/2\n".toList ++ [0xc3] ∧
      cut.ending = .writeFailed ∧
      cut.session = Session.fresh.afterLines (lines.take 2) := by
  intro lines cut
  have second : 1 < lines.length := by decide
  have third : 2 < lines.length := by decide
  obtain ⟨⟨output, failed, -, count, -, executed, session, -⟩, -⟩ :=
    output_and_executed_lines .fresh lines 12
  have secondExecuted : 1 < count := (executed 1 second).mpr (by decide)
  have thirdLeft : ¬ 2 < count := mt (executed 2 third).mp (by decide)
  have both : count = 2 := by omega
  rw [both] at session
  exact ⟨second, third, output.trans (by decide), failed.mpr (by decide), session⟩

end FractionCalculator.Listing
