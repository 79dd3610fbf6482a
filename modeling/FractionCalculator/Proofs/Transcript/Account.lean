import FractionCalculator.Proofs.Dialogue.Agreement
import FractionCalculator.Proofs.Session.Records
import FractionCalculator.Proofs.Session.Storing

/-!
# The log and the answers tell the same

A front end that finishes has written one text for each line that it executed,
and the log is made of one block of records for each of them. From the text of a
line its block can be told apart as that of a success or of a failure, and the
other way round. What is shown of a value, of a store and of a fault stands in
the last record of the block. The two front ends differ in their wording only,
and all that is asked of a wording is that it does not confuse answers.
-/

namespace FractionCalculator

/-- The words in which a front end answers a line. -/
abbrev Wording :=
  Text → Except Fault Answer → Text

theorem Instruction.name_ofLine (line : Text) :
    (ofLine line).name =
      if storeMark <+: line then "Store".toList else "Evaluate".toList := by
  by_cases storeLine : storeMark <+: line
  · rw [if_pos storeLine, (ofLine_eq_store_iff line).mpr storeLine]
    rfl
  · rw [if_neg storeLine, (ofLine_eq_evaluate_iff line).mpr storeLine]
    rfl

/-! ## Blocks of records -/

namespace Record

/-- A block of records ends at one level and has no record of another. -/
def EndsWithout (block : List Record) (last absent : Level) : Prop :=
  (∃ record ∈ block.getLast?, record.HasLevel last) ∧
    ∀ record ∈ block, ¬ record.HasLevel absent

section

variable {steps : List Step} {last : Record}

/-- Besides the last record a block holds steps only. -/
theorem eq_of_mem_of_hasLevel {record : Record} (member : record ∈ steps.map step ++ [last])
    {level : Level} (has : record.HasLevel level) (noTrace : level ≠ .trace) : record = last := by
  rw [List.mem_append, List.mem_singleton] at member
  rcases member with traced | rfl
  · obtain ⟨taken, -, rfl⟩ := List.mem_map.mp traced
    exact absurd ((hasLevel_iff _ level).mp has).symm noTrace
  · rfl

/-- So the level of the last record decides. -/
theorem endsWithout_iff {level absent : Level} (different : level ≠ absent)
    (noTrace : absent ≠ .trace) :
    EndsWithout (steps.map step ++ [last]) level absent ↔ last.level = level := by
  rw [EndsWithout, List.getLast?_concat]
  constructor
  · rintro ⟨⟨record, ⟨⟩, has⟩, -⟩
    exact (hasLevel_iff last level).mp has
  · intro same
    refine ⟨⟨last, rfl, (hasLevel_iff last level).mpr same⟩, fun record member has => ?_⟩
    rw [eq_of_mem_of_hasLevel member has noTrace, hasLevel_iff, same] at has
    exact different has

end

end Record

/-! ## One line -/

/-- The text shown for a line and the block of records that it wrote, both of them
in a session that it was executed in, tell the same. -/
structure Recounts (say : Wording) (before : Session) (line shown : Text)
    (block : List Record) : Prop where
  /-- A block of a success ends with a debug record and warns of nothing. -/
  succeeded : Record.EndsWithout block .debug .warn ↔ ∃ answer, shown = say line (.ok answer)
  /-- A block of a failure ends with a warning and has no debug record. -/
  failed : Record.EndsWithout block .warn .debug ↔ ∃ fault, shown = say line (.error fault)
  /-- A value is shown as it is logged. -/
  value (value : Fraction) (shows : shown = say line (.ok (.value value))) :
    ∀ record ∈ block, record.HasLevel .debug →
      record.toText = "DEBUG ".toList ++ line ++ " = ".toList ++ value.toText
  /-- Of a store the log has the accumulator, which is now in the register. -/
  stored (register : Register) (shows : shown = say line (.ok (.stored register))) :
    let after := (before.execute line).session
    ∃ written, line.StoresIn written ∧ after.registers.get written = after.accumulator ∧
      ∀ record ∈ block, record.HasLevel .debug →
        record.toText = "DEBUG stored ".toList ++ after.accumulator.toText ++
          " in register '".toList ++ written.letter :: "'".toList
  /-- A warning has the whole message of the fault that is shown. -/
  warned : ∀ record ∈ block, record.HasLevel .warn →
    ∃ fault, (before.execute line).result = .error fault ∧ shown = say line (.error fault) ∧
      record.toText = "WARN ".toList ++
        (if Instruction.storeMark <+: line then "Store".toList else "Evaluate".toList) ++
          '(' :: Text.quote line ++ ") failed: ".toList ++ fault.message

/-- A wording tells apart what kind of answer is given, and with which value. -/
structure Wording.IsClear (say : Wording) : Prop where
  value {line : Text} {result : Except Fault Answer} {value : Fraction}
    (same : say line result = say line (.ok (.value value))) :
    ∃ actual, result = .ok (.value actual) ∧ actual.toText = value.toText
  stored {line : Text} {result : Except Fault Answer} {register : Register}
    (same : say line result = say line (.ok (.stored register))) :
    ∃ actual, result = .ok (.stored actual)
  error {line : Text} {result : Except Fault Answer} {fault : Fault}
    (same : say line result = say line (.error fault)) : ∃ actual, result = .error actual

theorem Fraction.toText_append_ne_stored (value : Fraction) :
    value.toText ++ ['\n'] ≠ "STORED\n".toList :=
  value.toText_append_ne_cons rfl (by decide) (by decide) (by decide) _

theorem Listing.isClear_entry : Wording.IsClear entry where
  value {line result value} same := by
    rcases result with fault | ⟨actual | register⟩
    · simp [entry] at same
    · exact ⟨actual, rfl, by simpa [entry] using same⟩
    · have spelled : value.toText ++ ['\n'] = "STORED\n".toList := by
        simpa [entry] using same.symm
      exact absurd spelled value.toText_append_ne_stored
  stored {line result register} same := by
    rcases result with fault | ⟨value | actual⟩
    · simp [entry] at same
    · have spelled : value.toText ++ ['\n'] = "STORED\n".toList := by simpa [entry] using same
      exact absurd spelled value.toText_append_ne_stored
    · exact ⟨actual, rfl⟩
  error {line result fault} same := by
    rcases result with actual | ⟨value | register⟩
    · exact ⟨actual, rfl⟩
    · simp [entry] at same
    · simp [entry] at same

theorem Dialogue.isClear_answer : Wording.IsClear answer where
  value {line result value} same := by
    rw [answer_value] at same
    rcases result with fault | ⟨actual | register⟩
    · exact absurd same (answer_error_ne_value value)
    · exact ⟨actual, rfl, List.append_cancel_right same⟩
    · exact absurd same.symm value.toText_append_ne_stored
  stored {line result register} same := by
    rw [answer_stored] at same
    rcases result with fault | ⟨value | actual⟩
    · exact absurd same answer_error_ne_stored
    · exact absurd same value.toText_append_ne_stored
    · exact ⟨actual, rfl⟩
  error {line result fault} same := by
    rcases result with actual | ⟨value | register⟩
    · exact ⟨actual, rfl⟩
    · exact absurd same.symm (answer_error_ne_value value)
    · exact absurd same.symm answer_error_ne_stored

namespace Wording.IsClear

variable {say : Wording} (clear : say.IsClear)
include clear

theorem exists_ok_iff (line : Text) (result : Except Fault Answer) :
    (∃ answer, say line result = say line (.ok answer)) ↔ ∃ answer, result = .ok answer := by
  constructor
  · rintro ⟨value | register, same⟩
    · obtain ⟨actual, ok, -⟩ := clear.value same
      exact ⟨_, ok⟩
    · obtain ⟨actual, ok⟩ := clear.stored same
      exact ⟨_, ok⟩
  · rintro ⟨answer, rfl⟩
    exact ⟨answer, rfl⟩

theorem exists_error_iff (line : Text) (result : Except Fault Answer) :
    (∃ fault, say line result = say line (.error fault)) ↔ ∃ fault, result = .error fault := by
  constructor
  · rintro ⟨fault, same⟩
    exact clear.error same
  · rintro ⟨fault, rfl⟩
    exact ⟨fault, rfl⟩

/-- In a clear wording an executed line is shown as it is logged. -/
theorem recounts_execute (before : Session) (line : Text) :
    Recounts say before line (say line (before.execute line).result)
      (before.execute line).log := by
  obtain ⟨steps, log⟩ := before.exists_log_execute line
  generalize executed : (before.execute line).result = result at log
  rw [log]
  refine ⟨?_, ?_, ?_, ?_, ?_⟩
  · rw [Record.endsWithout_iff (by decide) (by decide), Session.level_verdict_eq_debug_iff,
      clear.exists_ok_iff]
  · rw [Record.endsWithout_iff (by decide) (by decide), Session.level_verdict_eq_warn_iff,
      clear.exists_error_iff]
  · intro value shows record member has
    obtain ⟨actual, rfl, same⟩ := clear.value shows
    rw [Record.eq_of_mem_of_hasLevel member has (by decide), ← same]
    rfl
  · intro register shows after
    obtain ⟨actual, rfl⟩ := clear.stored shows
    have stores := (before.result_execute_eq_stored_iff line actual).mp executed
    have left : after = _ := before.session_execute_of_storesIn stores
    refine ⟨actual, stores, by rw [left, Registers.get_set, if_pos rfl], ?_⟩
    intro record member has
    rw [Record.eq_of_mem_of_hasLevel member has (by decide), left]
    rfl
  · intro record member has
    obtain rfl := Record.eq_of_mem_of_hasLevel member has (by decide)
    rw [Record.hasLevel_iff, Session.level_verdict_eq_warn_iff] at has
    obtain ⟨fault, rfl⟩ := has
    exact ⟨fault, executed, rfl, by rw [← Instruction.name_ofLine]; rfl⟩

end Wording.IsClear

/-! ## Whole runs -/

/-- Texts and blocks of records, one of each for every executed line, that tell the
same. -/
structure Account (say : Wording) (session : Session) (lines texts : List Text)
    (blocks : List (List Record)) : Prop where
  length_texts : texts.length = lines.length
  length_blocks : blocks.length = lines.length
  recounts (position : Nat) (line shown : Text) (block : List Record) :
    lines[position]? = some line → texts[position]? = some shown →
      blocks[position]? = some block →
        Recounts say (session.afterLines (lines.take position)) line shown block

/-- Executed lines are shown in a clear wording as they are logged. -/
theorem Wording.IsClear.account {say : Wording} (clear : say.IsClear) (session : Session)
    (lines : List Text) :
    Account say session lines
      ((session.executions lines).map fun done => say done.line done.report.result)
      ((session.executions lines).map fun done => done.report.log) where
  length_texts := by rw [List.length_map, Session.length_executions]
  length_blocks := by rw [List.length_map, Session.length_executions]
  recounts position line shown block atLine atText atBlock := by
    rw [List.getElem?_map, Session.getElem?_executions, atLine] at atText atBlock
    cases atText
    cases atBlock
    exact clear.recounts_execute _ line

theorem Session.logOfLines_eq_flatten (session : Session) (lines : List Text) :
    session.logOfLines lines =
      ((session.executions lines).map fun done => done.report.log).flatten :=
  List.flatMap_def ..

/-- The log of a run that finishes is made of one block for each executed line, and
the blocks tell the same as the texts of which the output is made. A dialogue notes
besides that its input has ended, unless a line has ended it before. -/
theorem log_and_output_account (room : Room) (session : Session) :
    (∀ lines, let listing := Listing.run room session lines
      listing.ending = .finished →
        let executions := session.executions lines
        let texts := executions.map fun done => Listing.entry done.line done.report.result
        let blocks := executions.map fun done => done.report.log
        listing.output = Utf8.encode texts.flatten ∧ listing.log = blocks.flatten ∧
          Account Listing.entry session lines texts blocks) ∧
    ∀ input, let dialogue := Dialogue.run room session input
      dialogue.ending = .finished →
        let lines := Dialogue.executedLines input.lines
        let executions := session.executions lines
        let texts := executions.map fun done => Dialogue.answer done.line done.report.result
        let blocks := executions.map fun done => done.report.log
        dialogue.output =
            Utf8.encode (Dialogue.prompt ++ (texts.map (· ++ Dialogue.prompt)).flatten) ∧
          dialogue.log =
            blocks.flatten ++ (if Dialogue.quits input.lines then [] else [.endOfInput]) ∧
          Account Dialogue.answer session lines texts blocks := by
  constructor
  · intro lines listing finished executions texts blocks
    have listing_eq : listing = _ :=
      (Listing.run_eq_of_finished finished).trans (Listing.run_unlimited_eq session lines)
    refine ⟨?_, ?_, Listing.isClear_entry.account session lines⟩
    · rw [listing_eq, Utf8.encode_flatten, List.map_map]
      rfl
    · rw [listing_eq, session.logOfLines_eq_flatten]
  · intro input dialogue finished lines executions texts blocks
    have unlimited : dialogue = Dialogue.run .unlimited session input :=
      Dialogue.run_eq_of_finished finished
    have dialogue_eq : dialogue = _ :=
      unlimited.trans (Dialogue.run_unlimited_eq session input)
    refine ⟨?_, ?_, Dialogue.isClear_answer.account session lines⟩
    · rw [unlimited, List.map_map]
      exact Dialogue.output_run_unlimited session input
    · rw [dialogue_eq] at finished ⊢
      rw [Dialogue.closing_of_finished finished]
      exact congrArg (· ++ _) (session.logOfLines_eq_flatten lines)

/-- A division by zero fails after a step was traced, and a store to a capital letter
before the input ends. -/
theorem log_and_output_account_failures :
    let lines := ["1/2 + 1/3".toList, "STORE c".toList, "c / 0 + 1".toList]
    let failed := "c / 0 + 1: FAILED [Division by zero]\n".toList
    let block : List Record :=
      [.step ⟨⟨5, 6⟩, .div, ⟨0, 1⟩⟩, .failure .evaluate "c / 0 + 1".toList .divisionByZero]
    let listing := Listing.run (.bytes 100) .fresh lines
    let dialogue := Dialogue.run (.bytes 100) .fresh ⟨Utf8.encode "STORE C".toList, false⟩
    listing.ending = .finished ∧ lines[2]? = some "c / 0 + 1".toList ∧
      Recounts Listing.entry (Session.fresh.afterLines (lines.take 2)) "c / 0 + 1".toList failed
        block ∧
      dialogue.ending = .finished ∧
      dialogue.output =
        Utf8.encode "> *** ERROR [STORE command received invalid register] ***\n> ".toList ∧
      dialogue.log =
        [.failure .store "STORE C".toList (.notRegister 'C'), .endOfInput] := by
  intro lines failed block listing dialogue
  have listed : listing.ending = .finished := by decide
  have held : dialogue.ending = .finished := by decide
  have atLine : lines[2]? = some "c / 0 + 1".toList := rfl
  obtain ⟨-, -, account⟩ := (log_and_output_account (.bytes 100) .fresh).1 lines listed
  obtain ⟨output, log, -⟩ := (log_and_output_account (.bytes 100) .fresh).2 _ held
  exact ⟨listed, atLine, account.recounts 2 _ failed block atLine rfl rfl, held,
    output.trans (by decide), log.trans (by decide)⟩

end FractionCalculator
