import FractionCalculator.Proofs.Dialogue.Agreement
import FractionCalculator.Proofs.Session.Acceptance
import FractionCalculator.Proofs.Text.Blank

/-!
# Trimming keeps accepted lines

A listing takes lines as they are and a dialogue trims them. A line that is executed
without a fault has no blanks but spaces, and none at its beginning, so trimming
removes only spaces at its end, where they do not count. The trimmed line has the
same result and leaves the same session, and it does not end a dialogue. So lines
that all succeed in a listing succeed alike when they are typed into a dialogue.
-/

namespace FractionCalculator

/-! ## Blanks in lines -/

theorem Expression.InAlphabet.eq_space {char : Char} (inAlphabet : InAlphabet char)
    (blank : Text.isBlank char = true) : char = ' ' := by
  rcases inAlphabet with digit | lower | symbol
  · have bounds : 48 ≤ char.toNat ∧ char.toNat ≤ 57 := by
      simpa [Char.isDigit, UInt32.le_iff_toNat_le] using digit
    simp [Text.isBlank, Text.blankRanges] at blank
    omega
  · have range : (decide (char.val ≥ 'a'.val) && decide (char.val ≤ 'z'.val)) = true := lower
    have bounds : 97 ≤ char.toNat ∧ char.toNat ≤ 122 := by
      simpa [UInt32.le_iff_toNat_le] using range
    simp [Text.isBlank, Text.blankRanges] at blank
    omega
  · have symbols : char ∈ ['+', '-', '*', '/', ' '] := symbol
    simp only [List.mem_cons, List.not_mem_nil, or_false] at symbols
    rcases symbols with rfl | rfl | rfl | rfl | rfl <;> first | rfl | contradiction

theorem Operand.isBlank_of_mem_text {operand : Operand} {char : Char}
    (member : char ∈ operand.text) : Text.isBlank char = false := by
  rw [Bool.eq_false_iff]
  intro blank
  have space := (inAlphabet_of_mem_text member).eq_space blank
  exact operand.space_notMem_text (space ▸ member)

/-- An expression begins and ends in an operand. -/
theorem Expression.trim_text (expression : Expression) :
    Text.trim expression.text = expression.text := by
  refine Text.trim_eq_self ?_ ?_
  · intro char first
    rw [Option.mem_def, text, List.head?_append_of_ne_nil _ expression.first.text_ne_nil] at first
    exact Operand.isBlank_of_mem_text (List.mem_of_head? first)
  · intro char last
    obtain ⟨before, operand, written⟩ := expression.exists_text_eq_append
    rw [Option.mem_def, written, List.getLast?_append_of_ne_nil before operand.text_ne_nil] at last
    exact Operand.isBlank_of_mem_text (List.mem_of_getLast? last)

theorem Register.isBlank_letter (register : Register) : Text.isBlank register.letter = false := by
  rcases register with ⟨index⟩
  revert index
  decide

theorem Register.trim_storeMark_append (register : Register) :
    Text.trim (Instruction.storeMark ++ [register.letter]) =
      Instruction.storeMark ++ [register.letter] := by
  refine Text.trim_eq_self ?_ ?_
  · rintro char ⟨⟩
    decide
  · rintro char ⟨⟩
    exact register.isBlank_letter

theorem Text.trim_append_replicate (text : Text) (spaces : Nat) :
    trim (text ++ List.replicate spaces ' ') = trim text := by
  refine trim_append ?_ text
  intro char member
  rw [List.eq_of_mem_replicate member]
  decide

/-! ## Trimmed lines -/

namespace Session

variable {session : Session} {line : Text} {answer : Answer}

/-- A line that is executed without a fault has only spaces to be trimmed, at its end,
and without them it is executed alike. -/
theorem exists_trim_append_of_execute_eq_ok
    (executed : (session.execute line).result = .ok answer) :
    ∃ spaces, line = Text.trim line ++ List.replicate spaces ' ' ∧
      (session.execute (Text.trim line)).result = .ok answer ∧
      (session.execute (Text.trim line)).session = (session.execute line).session := by
  cases answer with
  | value value =>
      rw [result_execute_eq_value_iff] at executed
      obtain ⟨expression, spaces, rfl⟩ := exists_text_append_of_evaluate_eq_ok executed
      have whole := session.evaluate_text_append_eq expression spaces
      have trimmed := session.evaluate_text_append_eq expression 0
      rw [List.replicate_zero, List.append_nil] at trimmed
      have result : (session.evaluate expression.text).result = .ok value := by
        rw [← executed, whole, trimmed, result_conclude, result_conclude]
      rw [Text.trim_append_replicate, expression.trim_text, result_execute_eq_value_iff,
        session_execute_of_eq_ok executed, session_execute_of_eq_ok result]
      exact ⟨spaces, rfl, result, rfl⟩
  | stored register =>
      rw [result_execute_eq_stored_iff] at executed
      obtain ⟨spaces, rfl⟩ := executed
      have shape : Instruction.storeMark ++ register.letter :: List.replicate spaces ' ' =
          Instruction.storeMark ++ [register.letter] ++ List.replicate spaces ' ' := by
        simp
      have stores : Text.StoresIn (Instruction.storeMark ++ [register.letter]) register := ⟨0, rfl⟩
      rw [session_execute_of_storesIn session ⟨spaces, rfl⟩, shape, Text.trim_append_replicate,
        register.trim_storeMark_append, result_execute_eq_stored_iff,
        session_execute_of_storesIn session stores]
      exact ⟨spaces, rfl, stores, rfl⟩

end Session

/-! ## Typed lines -/

namespace Dialogue

theorem isQuit_eq_false_of_mem {line : Text} (char : Char) (member : char ∈ line)
    (other : char.toUpper ∉ "QUIT".toList) : isQuit line = false := by
  rw [Bool.eq_false_iff]
  intro quit
  have letters : line.map Char.toUpper = "QUIT".toList := beq_iff_eq.mp quit
  rw [← letters] at other
  exact other (List.mem_map_of_mem member)

theorem toUpper_notMem_of_isDigit {char : Char} (digit : char.isDigit = true) :
    char.toUpper ∉ "QUIT".toList := by
  have bounds : 48 ≤ char.toNat ∧ char.toNat ≤ 57 := by
    simpa [Char.isDigit, UInt32.le_iff_toNat_le] using digit
  have notLower : ¬ (char.val ≥ 'a'.val ∧ char.val ≤ 'z'.val) := by
    simp [UInt32.le_iff_toNat_le]
    omega
  have same : char.toUpper = char := dif_neg notLower
  rw [same]
  intro member
  have noDigits : ∀ letter ∈ "QUIT".toList, (!letter.isDigit) = true :=
    List.all_eq_true.mp (by decide)
  simpa [digit] using noDigits char member

/-- No expression does: it has a digit or a space, or else it is a single letter. -/
theorem isQuit_text_append (expression : Expression) (spaces : Nat) :
    isQuit (expression.text ++ List.replicate spaces ' ') = false := by
  rcases expression with ⟨first, pairs⟩
  cases first with
  | literal literal defined =>
      obtain ⟨before, digits, written, isDigits⟩ := literal.exists_text_eq_append
      rw [Decimal.isDigits_iff] at isDigits
      obtain ⟨nonempty, each⟩ := isDigits
      have last := List.getLast_mem nonempty
      refine isQuit_eq_false_of_mem (digits.getLast nonempty) ?_
        (toUpper_notMem_of_isDigit (each _ last))
      simp [Expression.text, Operand.text, written, last]
  | register register =>
      have space : Char.toUpper ' ' ∉ "QUIT".toList := by decide
      cases pairs with
      | cons pair pairs =>
          exact isQuit_eq_false_of_mem ' ' (by simp [Expression.text, Pair.text]) space
      | nil =>
          cases spaces with
          | succ spaces =>
              exact isQuit_eq_false_of_mem ' ' (by simp [List.replicate_succ]) space
          | zero => simp [isQuit, Expression.text, Operand.text]

/-- No line that is executed without a fault ends a dialogue. -/
theorem isQuit_of_execute_eq_ok {session : Session} {line : Text} {answer : Answer}
    (executed : (session.execute line).result = .ok answer) : isQuit line = false := by
  cases answer with
  | value value =>
      rw [Session.result_execute_eq_value_iff] at executed
      obtain ⟨expression, spaces, rfl⟩ := Session.exists_text_append_of_evaluate_eq_ok executed
      exact isQuit_text_append expression spaces
  | stored register =>
      rw [Session.result_execute_eq_stored_iff] at executed
      obtain ⟨spaces, rfl⟩ := executed
      exact isQuit_eq_false_of_mem ' ' (List.mem_append_left _ (by decide)) (by decide)

theorem lineOfBytes_encode_append {blanks : Text}
    (blank : ∀ char ∈ blanks, Text.isBlank char = true) (line : Text) :
    lineOfBytes (Utf8.encode (line ++ blanks)) = Text.trim line := by
  rw [lineOfBytes, Utf8.decodeLossy_encode, Text.trim_append blank]

theorem lines_encode_flatten {lines : List Text} (noFeed : ∀ line ∈ lines, '\n' ∉ line) :
    Input.lines ⟨Utf8.encode (lines.map (· ++ ['\n'])).flatten, false⟩ =
      lines.map fun line => Utf8.encode (line ++ ['\n']) := by
  have each : ∀ piece ∈ lines.map fun line => Utf8.encode (line ++ ['\n']),
      Input.IsLine piece := by
    intro piece member
    obtain ⟨line, inside, rfl⟩ := List.mem_map.mp member
    rw [Utf8.encode_append]
    exact Input.isLine_encode_append (noFeed line inside)
  have isCut := Input.IsCut.complete each
  rw [Input.isCut_iff] at isCut
  rw [isCut, Utf8.encode_flatten, List.map_map]
  rfl

/-- The answer to a line that was executed without a fault does not depend on its
text. -/
theorem answer_ok (line other : Text) (reply : Answer) :
    answer line (.ok reply) = answer other (.ok reply) := by
  cases reply <;> rfl

theorem respond?_of_execute_eq_ok {session : Session} {line : Text} {reply : Answer}
    (executed : (session.execute line).result = .ok reply) {blanks : Text}
    (blank : ∀ char ∈ blanks, Text.isBlank char = true) :
    respond? session (Utf8.encode (line ++ blanks)) =
      some (answer line (.ok reply), session.execute (Text.trim line)) := by
  obtain ⟨-, -, trimmed, -⟩ := Session.exists_trim_append_of_execute_eq_ok executed
  have goesOn := isQuit_of_execute_eq_ok trimmed
  rw [respond?_of_not_isQuit, lineOfBytes_encode_append blank, trimmed,
    answer_ok (Text.trim line) line]
  rw [lineOfBytes_encode_append blank, goesOn]
  exact Bool.false_ne_true

section

variable {session : Session} {lines : List Text}
  (accepted : ∀ done ∈ session.executions lines, ∃ answer, done.report.result = .ok answer)
include accepted

theorem exists_execute_eq_ok_of_mem :
    ∀ line ∈ lines, ∃ (before : Session) (answer : Answer),
      (before.execute line).result = .ok answer := by
  induction lines generalizing session with
  | nil => exact fun _ member => absurd member List.not_mem_nil
  | cons line rest inductionHypothesis =>
      rw [Session.executions_cons, List.forall_mem_cons] at accepted
      rw [List.forall_mem_cons]
      exact ⟨⟨session, accepted.1⟩, inductionHypothesis accepted.2⟩

/-- Lines that are executed without a fault leave the same session when they are
trimmed, and get the same answers. -/
theorem afterLines_and_present_map_trim :
    session.afterLines (lines.map Text.trim) = session.afterLines lines ∧
      (session.executions (lines.map Text.trim)).map present =
        (session.executions lines).map present := by
  induction lines generalizing session with
  | nil => exact ⟨rfl, rfl⟩
  | cons line rest inductionHypothesis =>
      rw [Session.executions_cons, List.forall_mem_cons] at accepted
      obtain ⟨⟨reply, (executed : (session.execute line).result = .ok reply)⟩, later⟩ := accepted
      obtain ⟨-, -, trimmed, left⟩ := Session.exists_trim_append_of_execute_eq_ok executed
      obtain ⟨same, alike⟩ := inductionHypothesis later
      have first : present ⟨Text.trim line, session.execute (Text.trim line)⟩ =
          present ⟨line, session.execute line⟩ := by
        simp only [present, trimmed, executed, answer_ok (Text.trim line) line]
      rw [List.map_cons, Session.afterLines_cons, Session.afterLines_cons, Session.executions_cons,
        Session.executions_cons, List.map_cons, List.map_cons, left, first, same, alike]
      exact ⟨rfl, rfl⟩

theorem executedLines_encode_flatten :
    executedLines (Input.lines ⟨Utf8.encode (lines.map (· ++ ['\n'])).flatten, false⟩) =
      lines.map Text.trim := by
  have each := exists_execute_eq_ok_of_mem accepted
  rw [lines_encode_flatten]
  · rw [executedLines, List.map_map]
    have typed : lineOfBytes ∘ (fun line => Utf8.encode (line ++ ['\n'])) = Text.trim :=
      funext (lineOfBytes_encode_append (List.forall_mem_singleton.mpr (by decide)))
    rw [typed, List.takeWhile_eq_self_iff]
    intro text member
    obtain ⟨line, inside, rfl⟩ := List.mem_map.mp member
    obtain ⟨before, reply, executed⟩ := each line inside
    obtain ⟨-, -, trimmed, -⟩ := Session.exists_trim_append_of_execute_eq_ok executed
    rw [isQuit_of_execute_eq_ok trimmed]
    rfl
  · intro line inside feed
    obtain ⟨before, reply, executed⟩ := each line inside
    rcases Session.mem_of_execute_eq_ok executed feed with inAlphabet | mark
    · exact absurd inAlphabet (by decide)
    · exact absurd mark (by decide)

end

/-- A line that is executed without a fault is executed with the same answer, leaving
the same session, when it is trimmed, and trimming takes only spaces at its end away.
A dialogue answers the line so, whatever blanks end it. So when a listing has a value or
a store for each of its lines, a dialogue over the same lines leaves the same session,
and it answers each line alike. -/
theorem trimming_keeps_accepted_lines (session : Session) :
    (∀ line reply, (session.execute line).result = .ok reply →
      let trimmed := session.execute (Text.trim line)
      trimmed.result = .ok reply ∧ trimmed.session = (session.execute line).session ∧
        (∃ spaces, line = Text.trim line ++ List.replicate spaces ' ') ∧
        ∀ blanks : Text, (∀ char ∈ blanks, Text.isBlank char = true) →
          respond? session (Utf8.encode (line ++ blanks)) =
            some (answer line (.ok reply), trimmed)) ∧
      ∀ lines,
        (∀ done ∈ session.executions lines, ∃ answer, done.report.result = .ok answer) →
        let executions := session.executions lines
        let bytes := Utf8.encode (lines.map (· ++ ['\n'])).flatten
        let listing := Listing.run .unlimited session lines
        let dialogue := run .unlimited session ⟨bytes, false⟩
        let entries := executions.map fun done => Listing.entry done.line done.report.result
        let answers := executions.map fun done => answer done.line done.report.result
        dialogue.session = listing.session ∧
          listing.output = Utf8.encode entries.flatten ∧
          dialogue.output = Utf8.encode (prompt ++ (answers.map (· ++ prompt)).flatten) := by
  constructor
  · intro line reply executed trimmed
    obtain ⟨spaces, written, result, left⟩ :=
      Session.exists_trim_append_of_execute_eq_ok executed
    exact ⟨result, left, ⟨spaces, written⟩,
      fun blanks blank => respond?_of_execute_eq_ok executed blank⟩
  · intro lines accepted executions bytes listing dialogue entries answers
    have typed : executedLines (Input.lines ⟨bytes, false⟩) = lines.map Text.trim :=
      executedLines_encode_flatten accepted
    obtain ⟨left, alike⟩ := afterLines_and_present_map_trim accepted
    have listing_eq : listing = _ := Listing.run_unlimited_eq session lines
    have dialogue_eq : dialogue = _ := run_unlimited_eq session ⟨bytes, false⟩
    refine ⟨?_, ?_, ?_⟩
    · rw [dialogue_eq, listing_eq, typed]
      exact left
    · rw [listing_eq, Utf8.encode_flatten, List.map_map]
      rfl
    · rw [List.map_map]
      have output : dialogue.output = _ := output_run_unlimited session ⟨bytes, false⟩
      rw [output, typed, alike]
      rfl

/-- A sum and a store with spaces after them, typed with two kinds of line endings; a
tab would not do. -/
theorem trimming_keeps_accepted_lines_spaces :
    let lines := ["1/2 + 1/3  ".toList, "STORE a ".toList, "a".toList]
    let bytes := Utf8.encode "1/2 + 1/3  \nSTORE a \na\n".toList
    let dialogue := run .unlimited .fresh ⟨bytes, false⟩
    (Session.fresh.execute "1/2 + 1/3  ".toList).result = .ok (.value ⟨5, 6⟩) ∧
      (Session.fresh.execute "1/2 + 1/3".toList).result = .ok (.value ⟨5, 6⟩) ∧
      (∀ char ∈ "\r\n".toList, Text.isBlank char = true) ∧
      respond? .fresh (Utf8.encode "1/2 + 1/3  \r\n".toList) =
        some ("5/6\n".toList, Session.fresh.execute "1/2 + 1/3".toList) ∧
      (∀ done ∈ Session.fresh.executions lines,
        ∃ answer, done.report.result = .ok answer) ∧
      dialogue.session = (Listing.run .unlimited .fresh lines).session ∧
      dialogue.output = Utf8.encode "> 5/6\n> STORED\n> 5/6\n> ".toList ∧
      ∃ fault, (Session.fresh.execute "1/2\t".toList).result = .error fault := by
  intro lines bytes dialogue
  have executed : (Session.fresh.execute "1/2 + 1/3  ".toList).result = .ok (.value ⟨5, 6⟩) := rfl
  have blank : ∀ char ∈ "\r\n".toList, Text.isBlank char = true :=
    List.all_eq_true.mp (by decide)
  have accepted : ∀ done ∈ Session.fresh.executions lines,
      ∃ answer, done.report.result = .ok answer := by
    simp only [lines, Session.executions_cons, Session.executions_nil, List.forall_mem_cons]
    exact ⟨⟨.value ⟨5, 6⟩, rfl⟩, ⟨.stored ⟨0⟩, rfl⟩, ⟨.value ⟨5, 6⟩, rfl⟩, by simp⟩
  obtain ⟨line, run⟩ := trimming_keeps_accepted_lines .fresh
  obtain ⟨trimmed, -, -, typed⟩ := line _ _ executed
  obtain ⟨session, -, output⟩ := run lines accepted
  exact ⟨executed, trimmed, blank, typed _ blank, accepted, session, output, _, rfl⟩

end Dialogue

end FractionCalculator
