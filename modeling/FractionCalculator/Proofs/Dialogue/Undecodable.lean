import FractionCalculator.Proofs.Dialogue.Framing
import FractionCalculator.Proofs.Dialogue.Trimming

/-!
# Lines that encode no text

Bytes that encode no text are read with a replacement character. It is no blank, so
it is not trimmed away wherever it stands; it is no letter of a line that ends a
dialogue, and no line with it is executed without a fault. So the line is answered as
any other bad line: with an error, in the registers as they were, and the dialogue
goes on after it.
-/

namespace FractionCalculator

/-! ## First lines -/

/-- A line is read before the input after it, whether a line feed ends it or the
input. -/
theorem Input.lines_append_eq_cons {bytes after : Bytes} {fails : Bool} (nonempty : bytes ≠ [])
    (first : IsLine bytes ∨ 0x0a ∉ bytes ∧ after = [] ∧ fails = false) :
    lines ⟨bytes ++ after, fails⟩ = bytes :: lines ⟨after, fails⟩ := by
  rcases first with isLine | ⟨noFeed, rfl, rfl⟩
  · have alone : IsCut ⟨bytes, false⟩ [bytes] := by
      have isCut := IsCut.complete (List.forall_mem_singleton.mpr isLine)
      rwa [List.flatten_singleton] at isCut
    obtain ⟨body, -, rfl⟩ := isLine
    rw [lines_append (.inr List.getLast?_concat), ← (isCut_iff _ _).mp alone, List.singleton_append]
  · have alone : IsCut ⟨bytes, false⟩ [bytes] :=
      .unterminated (fun _ member => absurd member List.not_mem_nil) nonempty noFeed
    rw [List.append_nil, ← (isCut_iff _ _).mp alone]
    rfl

/-! ## Foreign characters -/

namespace Session

variable (session : Session) {line : Text}

/-- A line changes no register unless it stores into one. -/
theorem registers_execute_of_forall_not_storesIn (noStore : ∀ register, ¬ line.StoresIn register) :
    (session.execute line).session.registers = session.registers :=
  Registers.ext_get fun register => session.get_execute_of_not_storesIn (noStore register)

/-- A line with a character that no expression has fails unless it stores. -/
theorem exists_fault_of_mem_of_not_inAlphabet {char : Char} (member : char ∈ line)
    (foreign : ¬ Expression.InAlphabet char) (noStore : ∀ register, ¬ line.StoresIn register) :
    ∃ fault, (session.execute line).result = .error fault := by
  cases executed : (session.execute line).result with
  | error fault => exact ⟨fault, rfl⟩
  | ok answer =>
      rcases storesIn_or_inAlphabet_of_execute_eq_ok executed with ⟨register, stores⟩ | all
      · exact absurd stores (noStore register)
      · exact absurd (all char member) foreign

end Session

theorem Text.StoresIn.mem {line : Text} {register : Register} (stores : line.StoresIn register)
    {char : Char} (member : char ∈ line) :
    Expression.InAlphabet char ∨ char ∈ Instruction.storeMark :=
  Session.mem_of_execute_eq_ok
    ((Session.fresh.result_execute_eq_stored_iff line register).mpr stores) member

/-! ## Replacement characters -/

namespace Dialogue

/-- A line in which a dialogue reports an error. -/
def IsErrorLine (text : Text) : Prop :=
  ∃ reason, '\n' ∉ reason ∧ text = "*** ERROR [".toList ++ reason ++ "] ***\n".toList

section

variable {bytes : Bytes} (undecodable : ∀ text, bytes ≠ Utf8.encode text)
include undecodable

/-- Bytes that encode no text are read with a replacement character, which is kept. -/
theorem replacement_mem_lineOfBytes : '\ufffd' ∈ lineOfBytes bytes := by
  have refused : Utf8.decode? bytes = none := by
    cases decoded : Utf8.decode? bytes with
    | none => rfl
    | some text =>
        exact absurd ((Utf8.decode?_eq_some_iff bytes text).mp decoded) (undecodable text)
  exact Text.mem_trim (Utf8.mem_decodeLossy_of_decode?_eq_none refused) (by decide)

theorem isQuit_lineOfBytes : isQuit (lineOfBytes bytes) = false :=
  isQuit_eq_false_of_mem '\ufffd' (replacement_mem_lineOfBytes undecodable) (by decide)

theorem not_storesIn_lineOfBytes (register : Register) :
    ¬ (lineOfBytes bytes).StoresIn register := by
  intro stores
  rcases stores.mem (replacement_mem_lineOfBytes undecodable) with inAlphabet | mark
  · exact absurd inAlphabet (by decide)
  · exact absurd mark (by decide)

theorem exists_fault_of_undecodable (session : Session) :
    ∃ fault, (session.execute (lineOfBytes bytes)).result = .error fault :=
  session.exists_fault_of_mem_of_not_inAlphabet (replacement_mem_lineOfBytes undecodable)
    (by decide) (not_storesIn_lineOfBytes undecodable)

end

/-! ## Answers to bad lines -/

section

variable (line : Text) (fault : Fault)

/-- A fault is answered with a single line. -/
theorem isErrorLine_answer : IsErrorLine (answer line (.error fault)) := by
  by_cases storeLine : Instruction.storeMark <+: line
  · rw [answer_error_of_store storeLine]
    exact ⟨"STORE command received invalid register".toList, by decide, rfl⟩
  · rw [answer_error_of_not_store storeLine]
    refine ⟨fault.summary, ?_, rfl⟩
    rw [Fault.summary]
    split <;> decide

theorem answer_error_eq_iff :
    answer line (.error fault) =
        "*** ERROR [STORE command received invalid register] ***\n".toList ↔
      Instruction.storeMark <+: line := by
  constructor
  · intro answered
    by_contra expression
    rw [answer_error_of_not_store expression, Fault.summary] at answered
    split at answered <;> exact absurd answered (by decide)
  · exact answer_error_of_store

end

/-! ## Bad lines -/

/-- A dialogue goes on after a line that does not end it. -/
theorem run_append_of_not_isQuit {bytes after : Bytes} {fails : Bool}
    (goesOn : ¬ isQuit (lineOfBytes bytes) = true) (nonempty : bytes ≠ [])
    (first : Input.IsLine bytes ∨ 0x0a ∉ bytes ∧ after = [] ∧ fails = false)
    (room : Room) (session : Session) :
    let report := session.execute (lineOfBytes bytes)
    run room session ⟨bytes ++ after, fails⟩ =
      .write room session prompt fun left =>
        .logged report.log <|
          .write left report.session (answer (lineOfBytes bytes) report.result) fun left =>
            run left report.session ⟨after, fails⟩ := by
  intro report
  rw [run, Input.lines_append_eq_cons nonempty first, converse, respond?_of_not_isQuit goesOn]
  rfl

/-- A line of bytes that encode no text does not end a dialogue. It is answered with one
line that reports an error, which is that of a failed store exactly if the trimmed line
begins as a store; no register changes, and the dialogue goes on after it. In general a
line fails and changes no register if one of its characters is none of those of
expressions, unless it stores. -/
theorem undecodable_lines_are_bad_lines (session : Session) :
    (∀ bytes, (∀ text, bytes ≠ Utf8.encode text) →
      let line := lineOfBytes bytes
      let report := session.execute line
      let response := answer line report.result
      isQuit line = false ∧ (∃ fault, report.result = .error fault) ∧ IsErrorLine response ∧
        (response = "*** ERROR [STORE command received invalid register] ***\n".toList ↔
          "STORE ".toList <+: line) ∧
        report.session.registers = session.registers ∧
        ∀ room after fails,
          Input.IsLine bytes ∨ 0x0a ∉ bytes ∧ after = [] ∧ fails = false →
          run room session ⟨bytes ++ after, fails⟩ =
            .write room session prompt fun left =>
              .logged report.log <|
                .write left report.session response fun left =>
                  run left report.session ⟨after, fails⟩) ∧
      ∀ line : Text, (∃ char ∈ line, ¬ Expression.InAlphabet char) →
        (∀ register, ¬ line.StoresIn register) →
        (∃ fault, (session.execute line).result = .error fault) ∧
          (session.execute line).session.registers = session.registers := by
  constructor
  · intro bytes undecodable line report response
    have goesOn : isQuit line = false := isQuit_lineOfBytes undecodable
    have nonempty : bytes ≠ [] := undecodable []
    obtain ⟨fault, failed⟩ := exists_fault_of_undecodable undecodable session
    have answered : response = answer line (.error fault) := congrArg (answer line) failed
    refine ⟨goesOn, ⟨fault, failed⟩, ?_, ?_, ?_, ?_⟩
    · rw [answered]
      exact isErrorLine_answer line fault
    · rw [answered]
      exact answer_error_eq_iff line fault
    · exact session.registers_execute_of_forall_not_storesIn
        (not_storesIn_lineOfBytes undecodable)
    · intro room after fails first
      exact run_append_of_not_isQuit (Bool.eq_false_iff.mp goesOn) nonempty first room session
  · rintro line ⟨char, member, foreign⟩ noStore
    exact ⟨session.exists_fault_of_mem_of_not_inAlphabet member foreign noStore,
      session.registers_execute_of_forall_not_storesIn noStore⟩

/-- A store into a letter of which one byte is left, and another line after it; and a
letter with an accent behind a sum. -/
theorem undecodable_lines_are_bad_lines_cut_letter :
    let bytes := Utf8.encode "STORE ".toList ++ [0xe9, 0x0a]
    let line := "STORE \ufffd".toList
    let response := "*** ERROR [STORE command received invalid register] ***\n".toList
    let report := Session.fresh.execute line
    (∀ text, bytes ≠ Utf8.encode text) ∧ lineOfBytes bytes = line ∧
      Input.IsLine bytes ∧ answer line report.result = response ∧
      run .unlimited .fresh ⟨bytes ++ [0x33], false⟩ =
        .write .unlimited .fresh prompt (fun left =>
          .logged report.log <|
            .write left report.session response fun left =>
              run left report.session ⟨[0x33], false⟩) ∧
      (run .unlimited .fresh ⟨bytes ++ [0x33], false⟩).output =
        Utf8.encode (prompt ++ response ++ prompt ++ "3\n".toList ++ prompt) ∧
      (∃ char ∈ "1 + 1 é".toList, ¬ Expression.InAlphabet char) ∧
      (∀ register, ¬ Text.StoresIn "1 + 1 é".toList register) ∧
      ∃ fault, (Session.fresh.execute "1 + 1 é".toList).result = .error fault := by
  intro bytes line response report
  have refused : Utf8.decode? bytes = none := rfl
  have undecodable : ∀ text, bytes ≠ Utf8.encode text := by
    intro text same
    rw [(Utf8.decode?_eq_some_iff bytes text).mpr same] at refused
    contradiction
  have isLine : Input.IsLine bytes :=
    ⟨Utf8.encode "STORE ".toList ++ [0xe9], by decide, rfl⟩
  have foreign : ∃ char ∈ "1 + 1 é".toList, ¬ Expression.InAlphabet char :=
    ⟨'é', by decide, by decide⟩
  have noStore : ∀ register, ¬ Text.StoresIn "1 + 1 é".toList register := by
    rintro register ⟨spaces, same⟩
    have first : some '1' = some 'S' := congrArg List.head? same
    exact absurd first (by decide)
  obtain ⟨undecoded, general⟩ := undecodable_lines_are_bad_lines .fresh
  obtain ⟨-, -, -, store, -, goesOn⟩ := undecoded bytes undecodable
  have answered : answer line report.result = response := store.mpr ⟨['\ufffd'], rfl⟩
  have continued := goesOn .unlimited [0x33] false (.inl isLine)
  exact ⟨undecodable, rfl, isLine, answered, continued, rfl, foreign, noStore,
    (general _ foreign noStore).1⟩

end Dialogue

end FractionCalculator
