import FractionCalculator.Proofs.Session.History

/-!
# What a line writes to the log

An executed line writes a record for every step that it takes, and after these
one record about its result. The steps are traced, a success is worth a debug
record and a failure a warning. The level of a record stands at the front of its
line in the log, so all this can be read off the written log.
-/

namespace FractionCalculator

/-! ## Levels -/

namespace Record

/-- How much a record matters. -/
inductive Level where
  | trace
  | debug
  | warn
deriving DecidableEq

/-- The name of a level in the log. -/
def Level.name : Level → Text
  | trace => "TRACE".toList
  | debug => "DEBUG".toList
  | warn => "WARN".toList

/-- The line of a record in the log begins with the name of a level. -/
def HasLevel (record : Record) (level : Level) : Prop :=
  level.name ++ [' '] <+: record.toText

/-- The level at which a record is written. -/
def level : Record → Level
  | step _ => .trace
  | value _ _ => .debug
  | stored _ _ => .debug
  | failure _ _ _ => .warn
  | endOfInput => .debug

theorem exists_toText_eq (record : Record) :
    ∃ rest, record.toText = record.level.name ++ ' ' :: rest := by
  cases record with
  | step taken => exact ⟨"accumulator: ".toList ++ taken.toText, rfl⟩
  | value line result => exact ⟨line ++ " = ".toList ++ result.toText, rfl⟩
  | stored content register => exact ⟨_, rfl⟩
  | failure instruction line fault => exact ⟨_, rfl⟩
  | endOfInput => exact ⟨"end of input".toList, rfl⟩

theorem Level.eq_of_prefix {first second : Level}
    (front : first.name ++ [' '] <+: second.name ++ [' ']) : first = second := by
  revert front
  cases first <;> cases second <;> decide

/-- The written log shows the level of each record and no other. -/
theorem hasLevel_iff (record : Record) (level : Level) :
    record.HasLevel level ↔ record.level = level := by
  obtain ⟨rest, written⟩ := record.exists_toText_eq
  have own : record.level.name ++ [' '] <+: record.toText :=
    ⟨rest, by rw [written, List.append_assoc, List.singleton_append]⟩
  constructor
  · intro front
    rcases List.prefix_or_prefix_of_prefix own front with within | within
    · exact Level.eq_of_prefix within
    · exact (Level.eq_of_prefix within).symm
  · rintro rfl
    exact own

end Record

/-! ## The records of one line -/

namespace Session

variable (session : Session) (line : Text)

/-- The record about the result of a line. -/
def verdict : Except Fault Answer → Record
  | .ok (.value value) => .value line value
  | .ok (.stored register) => .stored session.accumulator register
  | .error fault => .failure (Instruction.ofLine line) line fault

theorem exists_log_evaluate :
    ∃ steps : List Step, (session.evaluate line).log = steps.map Record.step ++
      match (session.evaluate line).result with
      | .ok value => [.value line value]
      | .error _ => [] := by
  by_cases starts : session.registers.Starts line
  · obtain ⟨nonempty, noOperatorAtEnd, first, rest, value, split, resolved⟩ := starts
    refine ⟨(session.registers.fold (0 + value) rest).steps, ?_⟩
    simp only [evaluate_eq_evaluateWords nonempty noOperatorAtEnd, split, evaluateWords, resolved,
      log_conclude, result_conclude]
    cases (session.registers.fold (0 + value) rest).fault <;> rfl
  · obtain ⟨fault, unchanged⟩ := exists_fault_of_not_starts starts
    exact ⟨[], by rw [unchanged]; rfl⟩

theorem log_store :
    (session.store line).log =
      match (session.store line).result with
      | .ok register => [.stored session.accumulator register]
      | .error _ => [] := by
  unfold store
  split
  · split <;> rfl
  · rfl

/-- A line writes its steps and the verdict on its result. -/
theorem exists_log_execute :
    ∃ steps : List Step, (session.execute line).log =
      steps.map Record.step ++ [session.verdict line (session.execute line).result] := by
  rw [result_execute, execute, Report.noted, perform]
  cases instruction : Instruction.ofLine line with
  | store =>
      have log := session.log_store line
      refine ⟨[], ?_⟩
      cases stored : (session.store line).result with
      | ok register => simp [Report.map, Except.map, stored, log, verdict]
      | error fault => simp [Report.map, Except.map, stored, log, verdict, instruction]
  | evaluate =>
      obtain ⟨steps, log⟩ := session.exists_log_evaluate line
      refine ⟨steps, ?_⟩
      cases evaluated : (session.evaluate line).result with
      | ok value => simp [Report.map, Except.map, evaluated, log, verdict]
      | error fault => simp [Report.map, Except.map, evaluated, log, verdict, instruction]

variable {session line}

theorem level_verdict_eq_debug_iff {result : Except Fault Answer} :
    (session.verdict line result).level = .debug ↔ ∃ answer, result = .ok answer := by
  rcases result with fault | ⟨value | register⟩ <;> simp [verdict, Record.level]

theorem level_verdict_eq_warn_iff {result : Except Fault Answer} :
    (session.verdict line result).level = .warn ↔ ∃ fault, result = .error fault := by
  rcases result with fault | ⟨value | register⟩ <;> simp [verdict, Record.level]

theorem verdict_ne_endOfInput (result : Except Fault Answer) :
    session.verdict line result ≠ .endOfInput := by
  rcases result with fault | ⟨value | register⟩ <;> simp [verdict]

/-- The end of the input is noted for no line. -/
theorem endOfInput_notMem_logOfLines (session : Session) (lines : List Text) :
    Record.endOfInput ∉ session.logOfLines lines := by
  induction lines generalizing session with
  | nil => exact List.not_mem_nil
  | cons line rest inductionHypothesis =>
      obtain ⟨steps, log⟩ := session.exists_log_execute line
      rw [logOfLines_cons, log, List.mem_append, List.mem_append, List.mem_singleton]
      rintro ((traced | ended) | later)
      · obtain ⟨taken, -, same⟩ := List.mem_map.mp traced
        contradiction
      · exact verdict_ne_endOfInput _ ended.symm
      · exact inductionHypothesis _ later

end Session

end FractionCalculator
