import FractionCalculator.Proofs.Dialogue.Output
import FractionCalculator.Proofs.Fraction.RoundTrip
import FractionCalculator.Proofs.Listing.Output
import FractionCalculator.Proofs.Session.Storing

/-!
# Dialogues and listings agree

A dialogue over some bytes and a listing of the lines that it executes leave the
same session, because both execute the same lines. They say the same about each
line in different words, and from the one text the other can be told: only the
answer to a failed store line hides the fault, which is then never a division by
zero.
-/

namespace FractionCalculator

/-! ## Texts that cannot be confused -/

/-- The written form of a fraction has no characters but digits, a minus sign and
a slash. -/
theorem Fraction.notMem_toText (value : Fraction) {char : Char} (other : char.isDigit = false)
    (noMinus : char ≠ '-') (noSlash : char ≠ '/') : char ∉ value.toText := by
  rw [← text_literal]
  exact value.literal.notMem_text other noMinus noSlash

/-- So a line that begins with another character writes none. -/
theorem Fraction.toText_append_ne_cons (value : Fraction) {char : Char}
    (other : char.isDigit = false) (noMinus : char ≠ '-') (noSlash : char ≠ '/')
    (noFeed : char ≠ '\n') (rest : Text) : value.toText ++ ['\n'] ≠ char :: rest := by
  intro same
  have member : char ∈ value.toText ++ ['\n'] := by
    rw [same]
    exact List.mem_cons_self
  rw [List.mem_append, List.mem_singleton] at member
  exact member.elim (value.notMem_toText other noMinus noSlash) noFeed

theorem Fraction.toText_append_ne_star (value : Fraction) (rest : Text) :
    value.toText ++ ['\n'] ≠ '*' :: rest :=
  value.toText_append_ne_cons rfl (by decide) (by decide) (by decide) rest

namespace Session

variable {session : Session} {line : Text} {fault : Fault}

/-- Storing never fails as a division by zero. -/
theorem isInvalid_of_store_eq_error (failed : (session.store line).result = .error fault) :
    fault.isInvalid = true := by
  rcases session.store_eq_error_cases failed with rfl | ⟨name, rfl⟩
  · rfl
  · rfl

theorem summary_of_execute_eq_error (storeLine : Instruction.storeMark <+: line)
    (failed : (session.execute line).result = .error fault) :
    fault.summary = "Invalid expression".toList := by
  have instruction := (Instruction.ofLine_eq_store_iff line).mpr storeLine
  rw [result_execute, perform, instruction] at failed
  cases stored : (session.store line).result with
  | ok register =>
      simp only [Report.map, stored] at failed
      contradiction
  | error actual =>
      simp only [Report.map, stored] at failed
      cases failed
      rw [Fault.summary, if_pos (isInvalid_of_store_eq_error stored)]

end Session

/-- The summary can be read off the entry of a failed line. -/
theorem Listing.entry_error_eq_iff (line : Text) (fault : Fault) (summary : Text) :
    entry line (.error fault) = line ++ ": FAILED [".toList ++ summary ++ "]\n".toList ↔
      fault.summary = summary := by
  rw [entry, List.append_cancel_right_eq, List.append_cancel_left_eq]

namespace Dialogue

/-- The entry that a listing writes for a line and the answer that a dialogue
gives to it say the same. -/
structure Matches (line entry answer : Text) : Prop where
  /-- The entry is that of a value, of a store or of a failure. -/
  form : (∃ value : Fraction, entry = line ++ " -> ".toList ++ value.toText ++ ['\n']) ∨
    entry = line ++ " -> STORED\n".toList ∨
    ∃ summary, entry = line ++ ": FAILED [".toList ++ summary ++ "]\n".toList
  /-- The answer is a single line. -/
  single : ∃ text, '\n' ∉ text ∧ answer = text ++ ['\n']
  /-- A value is written alike. -/
  value (value : Fraction) :
    entry = line ++ " -> ".toList ++ value.toText ++ ['\n'] ↔ answer = value.toText ++ ['\n']
  /-- So is a store. -/
  stored : entry = line ++ " -> STORED\n".toList ↔ answer = "STORED\n".toList
  /-- The summary of a failed expression is the same. -/
  failed (expression : ¬ Instruction.storeMark <+: line) (summary : Text) :
    entry = line ++ ": FAILED [".toList ++ summary ++ "]\n".toList ↔
      answer = "*** ERROR [".toList ++ summary ++ "] ***\n".toList
  /-- A failed store has always the same summary. -/
  failedStore (storeLine : Instruction.storeMark <+: line) (summary : Text) :
    entry = line ++ ": FAILED [".toList ++ summary ++ "]\n".toList ↔
      answer = "*** ERROR [STORE command received invalid register] ***\n".toList ∧
        summary = "Invalid expression".toList

section

variable {line : Text} {fault : Fault}

theorem answer_value (value : Fraction) :
    answer line (.ok (.value value)) = value.toText ++ ['\n'] :=
  rfl

theorem answer_stored (register : Register) :
    answer line (.ok (.stored register)) = "STORED\n".toList :=
  rfl

theorem answer_error_of_store (storeLine : Instruction.storeMark <+: line) :
    answer line (.error fault) =
      "*** ERROR [STORE command received invalid register] ***\n".toList := by
  have instruction := (Instruction.ofLine_eq_store_iff line).mpr storeLine
  unfold answer
  simp only [instruction]

theorem answer_error_of_not_store (expression : ¬ Instruction.storeMark <+: line) :
    answer line (.error fault) = "*** ERROR [".toList ++ fault.summary ++ "] ***\n".toList := by
  have instruction : Instruction.ofLine line = .evaluate := by
    cases found : Instruction.ofLine line with
    | store => exact absurd ((Instruction.ofLine_eq_store_iff line).mp found) expression
    | evaluate => rfl
  unfold answer
  simp only [instruction]

/-- An answer of stars is not the answer of a value. -/
theorem answer_error_ne_value (value : Fraction) :
    answer line (.error fault) ≠ value.toText ++ ['\n'] := by
  by_cases storeLine : Instruction.storeMark <+: line
  · simp [answer_error_of_store storeLine, (value.toText_append_ne_star _).symm]
  · simp [answer_error_of_not_store storeLine, (value.toText_append_ne_star _).symm]

/-- Nor is it the answer of a store. -/
theorem answer_error_ne_stored : answer line (.error fault) ≠ "STORED\n".toList := by
  by_cases storeLine : Instruction.storeMark <+: line
  · simp [answer_error_of_store storeLine]
  · simp [answer_error_of_not_store storeLine]

end

variable (line : Text)

theorem matches_value (result : Fraction) :
    Matches line (Listing.entry line (.ok (.value result)))
      (answer line (.ok (.value result))) where
  form := .inl ⟨result, rfl⟩
  single := ⟨result.toText, result.notMem_toText rfl (by decide) (by decide), rfl⟩
  value other := by simp [Listing.entry, answer_value]
  stored := by simp [Listing.entry, answer_value]
  failed _ summary := by simp [Listing.entry, answer_value, result.toText_append_ne_star]
  failedStore _ summary := by simp [Listing.entry, answer_value, result.toText_append_ne_star]

theorem matches_stored (register : Register) :
    Matches line (Listing.entry line (.ok (.stored register)))
      (answer line (.ok (.stored register))) where
  form := .inr (.inl rfl)
  single := ⟨"STORED".toList, by simp, by simp [answer_stored]⟩
  value other := by simp [Listing.entry, answer_stored]
  stored := by simp [Listing.entry, answer_stored]
  failed _ summary := by simp [Listing.entry, answer_stored]
  failedStore _ summary := by simp [Listing.entry, answer_stored]

variable {line}

theorem matches_error_of_not_store (expression : ¬ Instruction.storeMark <+: line)
    (fault : Fault) :
    Matches line (Listing.entry line (.error fault)) (answer line (.error fault)) where
  form := .inr (.inr ⟨fault.summary, rfl⟩)
  single := by
    have noFeed : '\n' ∉ fault.summary := by
      rw [Fault.summary]
      split <;> decide
    rw [answer_error_of_not_store expression]
    exact ⟨"*** ERROR [".toList ++ fault.summary ++ "] ***".toList, by simp [noFeed], by simp⟩
  value other := by simp [Listing.entry, answer_error_ne_value]
  stored := by simp [Listing.entry, answer_error_of_not_store expression]
  failed _ summary := by
    rw [Listing.entry_error_eq_iff, answer_error_of_not_store expression,
      List.append_cancel_right_eq, List.append_cancel_left_eq]
  failedStore storeLine _ := absurd storeLine expression

theorem matches_error_of_store (storeLine : Instruction.storeMark <+: line) {fault : Fault}
    (invalid : fault.summary = "Invalid expression".toList) :
    Matches line (Listing.entry line (.error fault)) (answer line (.error fault)) where
  form := .inr (.inr ⟨fault.summary, rfl⟩)
  single := ⟨"*** ERROR [STORE command received invalid register] ***".toList, by simp,
    by simp [answer_error_of_store storeLine]⟩
  value other := by simp [Listing.entry, answer_error_ne_value]
  stored := by simp [Listing.entry, answer_error_of_store storeLine]
  failed expression _ := absurd storeLine expression
  failedStore _ summary := by
    rw [Listing.entry_error_eq_iff, answer_error_of_store storeLine, invalid, and_iff_right rfl]
    exact eq_comm

/-- Whatever comes of executing a line, its entry and its answer match. -/
theorem matches_execute (session : Session) (line : Text) :
    Matches line (Listing.entry line (session.execute line).result)
      (answer line (session.execute line).result) := by
  cases executed : (session.execute line).result with
  | ok reply =>
      cases reply with
      | value result => exact matches_value line result
      | stored register => exact matches_stored line register
  | error fault =>
      by_cases storeLine : Instruction.storeMark <+: line
      · exact matches_error_of_store storeLine
          (Session.summary_of_execute_eq_error storeLine executed)
      · exact matches_error_of_not_store storeLine fault

/-! ## Whole runs -/

theorem output_run_unlimited (session : Session) (input : Input) :
    (run .unlimited session input).output =
      Utf8.encode (prompt ++
        ((session.executions (executedLines input.lines)).map present).flatten) := by
  rw [run_unlimited_eq, Utf8.encode_append, Utf8.encode_flatten, List.map_map]
  exact congrArg List.flatten (prompt_cons_texts session (executedLines input.lines)).symm

/-- A dialogue over some bytes and a listing of the lines that it executes leave
the same session. Their outputs hold one text for each of these lines, the
dialogue's between its prompts, and the two texts for a line match. -/
theorem run_agrees_with_listing (session : Session) (bytes : Bytes) :
    let input : Input := ⟨bytes, false⟩
    let lines := executedLines input.lines
    let dialogue := run .unlimited session input
    let listing := Listing.run .unlimited session lines
    let executions := session.executions lines
    let entries := executions.map fun done => Listing.entry done.line done.report.result
    let answers := executions.map fun done => answer done.line done.report.result
    input.IsCut input.lines ∧
      dialogue.session = listing.session ∧
      dialogue.ending = .finished ∧ listing.ending = .finished ∧
      listing.output = Utf8.encode entries.flatten ∧ entries.length = lines.length ∧
      dialogue.output = Utf8.encode (prompt ++ (answers.map (· ++ prompt)).flatten) ∧
      answers.length = lines.length ∧
      ∀ (position : Nat) (line entry answer : Text), lines[position]? = some line →
        entries[position]? = some entry → answers[position]? = some answer →
          Matches line entry answer := by
  intro input lines dialogue listing executions entries answers
  have dialogue_eq : dialogue = _ := run_unlimited_eq session input
  have listing_eq : listing = _ := Listing.run_unlimited_eq session lines
  refine ⟨input.isCut_lines, ?_, ?_, ?_, ?_, ?_, ?_, ?_, ?_⟩
  · rw [dialogue_eq, listing_eq]
  · rw [dialogue_eq]
    rfl
  · rw [listing_eq]
  · rw [listing_eq, Utf8.encode_flatten, List.map_map]
    rfl
  · rw [List.length_map, Session.length_executions]
  · rw [List.map_map]
    exact output_run_unlimited session input
  · rw [List.length_map, Session.length_executions]
  · intro position line entry answer atLine atEntry atAnswer
    rw [List.getElem?_map, Session.getElem?_executions, atLine] at atEntry atAnswer
    cases atEntry
    cases atAnswer
    exact matches_execute _ line

/-- A division by zero and a failed store, each answered, before `quit` in small
letters; the byte in front of it encodes no text. -/
theorem run_agrees_with_listing_failures :
    let bytes := Utf8.encode "1 / 0\n STORE 1\r\n".toList ++ 0xff :: Utf8.encode "\nquit\n2".toList
    let lines := ["1 / 0".toList, "STORE 1".toList, [Char.ofNat 0xfffd]]
    let executions := Session.fresh.executions lines
    let entries := executions.map fun done => Listing.entry done.line done.report.result
    let answers := executions.map fun done => answer done.line done.report.result
    let entry := "STORE 1: FAILED [Invalid expression]\n".toList
    let response := "*** ERROR [STORE command received invalid register] ***\n".toList
    lines[1]? = some "STORE 1".toList ∧ entries[1]? = some entry ∧ answers[1]? = some response ∧
      (run .unlimited .fresh ⟨bytes, false⟩).session =
        (Listing.run .unlimited .fresh lines).session ∧
      Matches "STORE 1".toList entry response := by
  intro bytes lines executions entries answers entry response
  have read : executedLines (Input.lines ⟨bytes, false⟩) = lines := rfl
  have atLine : lines[1]? = some "STORE 1".toList := rfl
  have atEntry : entries[1]? = some entry := rfl
  have atAnswer : answers[1]? = some response := rfl
  obtain ⟨-, session, -, -, -, -, -, -, each⟩ := run_agrees_with_listing .fresh bytes
  rw [read] at session each
  exact ⟨atLine, atEntry, atAnswer, session, each 1 _ _ _ atLine atEntry atAnswer⟩

end Dialogue

end FractionCalculator
