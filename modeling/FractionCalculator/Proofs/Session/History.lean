import FractionCalculator.Proofs.Session.Congruence
import FractionCalculator.Proofs.Session.Executions

/-!
# What a session remembers of its lines

A line changes a session in one of two ways. A line that stores into a register
overwrites it with the accumulator, and a line that sets the accumulator leaves
there the value of the longest expression at its front that has one. Every other
line leaves the session as it was, whether it fails or not. So after any number
of lines, each register and the accumulator are decided by the last line that
wrote them.
-/

namespace FractionCalculator

theorem Instruction.ofLine_eq_evaluate_iff (line : Text) :
    ofLine line = evaluate ↔ ¬ storeMark <+: line := by
  rw [← ofLine_eq_store_iff]
  cases ofLine line <;> simp

/-! ## The lines that change a session -/

namespace Text

/-- A line that stores into a register: after the mark there are its letter and
spaces alone. -/
def StoresIn (line : Text) (register : Register) : Prop :=
  ∃ spaces, line = Instruction.storeMark ++ register.letter :: List.replicate spaces ' '

/-- A line that sets the accumulator: an expression that passes the two checks and
has an operand as its first word. -/
structure SetsAccumulator (line : Text) : Prop where
  expression : ¬ Instruction.storeMark <+: line
  nonempty : line ≠ []
  noOperatorAtEnd : ∀ operator : Operator, line.getLast? ≠ some operator.symbol
  operand : ∃ (first : Operand) (rest : List Text), words line = first.text :: rest

theorem words_storeMark_append (rest : Text) :
    words (Instruction.storeMark ++ rest) = "STORE".toList :: words rest := by
  rw [show Instruction.storeMark ++ rest = "STORE".toList ++ ' ' :: rest from rfl,
    words_append_cons_space (by decide) (by decide)]
  rfl

/-- A line stores into a register exactly when the mark begins it and it has two
words, the second of which is the letter. -/
theorem storesIn_iff (line : Text) (register : Register) :
    line.StoresIn register ↔
      Instruction.storeMark <+: line ∧ ∃ first, words line = [first, [register.letter]] := by
  constructor
  · rintro ⟨spaces, rfl⟩
    refine ⟨List.prefix_append _ _, "STORE".toList, ?_⟩
    rw [words_eq_pair_iff]
    exact ⟨by decide, register.letter_ne_space, spaces, rfl⟩
  · rintro ⟨⟨rest, rfl⟩, first, split⟩
    rw [words_storeMark_append, List.cons.injEq, words_eq_iff] at split
    obtain ⟨-, -, spaces, rfl⟩ := split
    exact ⟨spaces, rfl⟩

end Text

namespace Session

variable (session : Session)

/-! ## What one line does -/

theorem session_execute_of_storesIn {line : Text} {register : Register}
    (stores : line.StoresIn register) :
    (session.execute line).session =
      ⟨session.registers.set register session.accumulator, session.accumulator⟩ := by
  obtain ⟨marked, first, split⟩ := (Text.storesIn_iff line register).mp stores
  rw [session_execute, perform, (Instruction.ofLine_eq_store_iff line).mpr marked]
  simp only [Report.session_map, store, split, Register.ofChar, Register.ofChar?_letter]

theorem session_store_of_not_storesIn {line : Text} (marked : Instruction.storeMark <+: line)
    (noRegister : ∀ register, ¬ line.StoresIn register) :
    (session.store line).session = session := by
  unfold store
  split
  · rename_i first name split
    cases named : Register.ofChar? name with
    | none => simp only [Register.ofChar, named, Report.unchanged]
    | some register =>
        obtain rfl := (Register.ofChar?_eq_some_iff name register).mp named
        exact absurd ((Text.storesIn_iff line register).mpr ⟨marked, first, split⟩)
          (noRegister register)
  · rfl

theorem perform_of_setsAccumulator {line : Text} (sets : line.SetsAccumulator) :
    session.perform line =
      (session.evaluateWords line (Text.words line)).map .value := by
  rw [perform, (Instruction.ofLine_eq_evaluate_iff line).mpr sets.expression,
    ← evaluate_eq_evaluateWords sets.nonempty sets.noOperatorAtEnd]

/-- A line that sets the accumulator leaves the value of the longest expression
at its front. -/
theorem exists_computesLongest_of_setsAccumulator {line : Text} (sets : line.SetsAccumulator) :
    ∃ longest rest steps value,
      session.registers.ComputesLongest (Text.words line) longest rest steps value ∧
        (session.execute line).session = ⟨session.registers, value⟩ := by
  obtain ⟨first, rest, split⟩ := sets.operand
  obtain ⟨pairs, tail, steps, extra, rfl, computed, stops, -⟩ :=
    session.registers.exists_computes_fold (0 + first.fraction session.registers) rest
  refine ⟨⟨first, pairs⟩, tail, steps, _, ⟨split, computed, ?_⟩, ?_⟩
  · rintro pair later rfl
    obtain ⟨fault, -, failed, -⟩ := stops.exists_result_eq_error
    exact ⟨fault, failed⟩
  · rw [session_execute, perform_of_setsAccumulator session sets, Report.session_map, split,
      evaluateWords_text_eq, session_conclude]

theorem exists_evaluate_eq_unchanged {line : Text}
    (expression : ¬ Instruction.storeMark <+: line) (notSet : ¬ line.SetsAccumulator) :
    ∃ fault, session.evaluate line = .unchanged session (.error fault) := by
  have notStarted : ¬ session.registers.Starts line := by
    rintro ⟨nonempty, noOperatorAtEnd, first, rest, value, split, resolved⟩
    rcases Registers.exists_operand_or_refused first with ⟨operand, rfl⟩ | ⟨fault, refused⟩
    · exact notSet ⟨expression, nonempty, noOperatorAtEnd, operand, rest, split⟩
    · rw [session.registers.operand_of_refused refused] at resolved
      contradiction
  obtain ⟨fault, unchanged⟩ := exists_fault_of_not_starts notStarted
  exact ⟨fault, unchanged session⟩

theorem session_execute_of_neither {line : Text}
    (noRegister : ∀ register, ¬ line.StoresIn register) (notSet : ¬ line.SetsAccumulator) :
    (session.execute line).session = session := by
  rw [session_execute, perform]
  split
  · rename_i instruction
    exact session.session_store_of_not_storesIn
      ((Instruction.ofLine_eq_store_iff line).mp instruction) noRegister
  · rename_i instruction
    obtain ⟨fault, unchanged⟩ := session.exists_evaluate_eq_unchanged
      ((Instruction.ofLine_eq_evaluate_iff line).mp instruction) notSet
    rw [Report.session_map, unchanged]
    rfl

/-- A register changes only by a line that stores into it. -/
theorem get_execute_of_not_storesIn {line : Text} {register : Register}
    (other : ¬ line.StoresIn register) :
    (session.execute line).session.registers.get register = session.registers.get register := by
  by_cases sets : line.SetsAccumulator
  · obtain ⟨longest, rest, steps, value, -, left⟩ :=
      session.exists_computesLongest_of_setsAccumulator sets
    rw [left]
  by_cases stores : ∃ written, line.StoresIn written
  · obtain ⟨written, stores⟩ := stores
    rw [session.session_execute_of_storesIn stores, Registers.get_set, if_neg]
    rintro rfl
    exact other stores
  · rw [session.session_execute_of_neither (not_exists.mp stores) sets]

/-- The accumulator changes only by a line that sets it. -/
theorem accumulator_execute_of_not_setsAccumulator {line : Text}
    (notSet : ¬ line.SetsAccumulator) :
    (session.execute line).session.accumulator = session.accumulator := by
  by_cases stores : ∃ written, line.StoresIn written
  · obtain ⟨written, stores⟩ := stores
    rw [session.session_execute_of_storesIn stores]
  · rw [session.session_execute_of_neither (not_exists.mp stores) notSet]

/-! ## What many lines do -/

theorem afterLines_append (earlier later : List Text) :
    session.afterLines (earlier ++ later) = (session.afterLines earlier).afterLines later :=
  List.foldl_append

/-- The last of some lines with a property, and the lines before it. -/
def IsLast (property : Text → Prop) (lines earlier : List Text) (line : Text) : Prop :=
  ∃ later, lines = earlier ++ line :: later ∧ property line ∧ ∀ other ∈ later, ¬ property other

section

variable {α : Type} (view : Session → α) {property : Text → Prop}
  (keeps : ∀ session line, ¬ property line →
    view (Session.execute session line).session = view session)
include keeps

/-- Lines without a property keep what only lines with the property change. -/
theorem view_afterLines_of_forall_not {lines : List Text}
    (without : ∀ line ∈ lines, ¬ property line) :
    view (session.afterLines lines) = view session := by
  induction lines generalizing session with
  | nil => rfl
  | cons line rest inductionHypothesis =>
      rw [List.forall_mem_cons] at without
      rw [afterLines_cons, inductionHypothesis _ without.2, keeps session line without.1]

/-- So the last line with the property decides it. -/
theorem view_afterLines_of_isLast {lines earlier : List Text} {line : Text}
    (last : IsLast property lines earlier line) :
    view (session.afterLines lines) =
      view ((session.afterLines earlier).execute line).session := by
  obtain ⟨later, rfl, -, without⟩ := last
  rw [afterLines_append, afterLines_cons]
  exact view_afterLines_of_forall_not _ view keeps without

end

/-- A register holds what the accumulator held before the last line that stored
into it. The accumulator holds the value of the longest expression at the front
of the last line that set it, in the registers of that time. What was never
written is as it was at first, and a line that does not write it never changes
it. -/
theorem afterLines_decided_by_last (lines : List Text) :
    (∀ register,
      (∀ earlier line, IsLast (·.StoresIn register) lines earlier line →
        (session.afterLines lines).registers.get register =
          (session.afterLines earlier).accumulator) ∧
      ((∀ line ∈ lines, ¬ line.StoresIn register) →
        (session.afterLines lines).registers.get register = session.registers.get register)) ∧
    (∀ earlier line, IsLast Text.SetsAccumulator lines earlier line →
      ∃ longest rest steps,
        (session.afterLines earlier).registers.ComputesLongest (Text.words line) longest rest steps
          (session.afterLines lines).accumulator) ∧
    ((∀ line ∈ lines, ¬ line.SetsAccumulator) →
      (session.afterLines lines).accumulator = session.accumulator) ∧
    ∀ earlier line later, lines = earlier ++ line :: later →
      (∀ register, ¬ line.StoresIn register →
        (session.afterLines (earlier ++ [line])).registers.get register =
          (session.afterLines earlier).registers.get register) ∧
      (¬ line.SetsAccumulator →
        (session.afterLines (earlier ++ [line])).accumulator =
          (session.afterLines earlier).accumulator) := by
  have keepsRegister (register : Register) :
      ∀ session line, ¬ Text.StoresIn line register →
        (execute session line).session.registers.get register = session.registers.get register :=
    fun session _ => session.get_execute_of_not_storesIn
  have keepsAccumulator : ∀ session line, ¬ Text.SetsAccumulator line →
      (execute session line).session.accumulator = session.accumulator :=
    fun session _ => session.accumulator_execute_of_not_setsAccumulator
  refine ⟨fun register => ⟨?_, ?_⟩, ?_, ?_, ?_⟩
  · intro earlier line last
    have decided := session.view_afterLines_of_isLast (fun after => after.registers.get register)
      (keepsRegister register) last
    obtain ⟨later, -, stores, -⟩ := last
    rw [decided, session_execute_of_storesIn _ stores, Registers.get_set, if_pos rfl]
  · exact session.view_afterLines_of_forall_not (fun after => after.registers.get register)
      (keepsRegister register)
  · intro earlier line last
    have decided := session.view_afterLines_of_isLast accumulator keepsAccumulator last
    obtain ⟨later, -, sets, -⟩ := last
    obtain ⟨longest, rest, steps, value, computed, left⟩ :=
      (session.afterLines earlier).exists_computesLongest_of_setsAccumulator sets
    rw [left] at decided
    exact ⟨longest, rest, steps, by rw [decided]; exact computed⟩
  · exact session.view_afterLines_of_forall_not accumulator keepsAccumulator
  · rintro earlier line later -
    rw [afterLines_append, afterLines_cons, afterLines_nil]
    exact ⟨fun register => keepsRegister register _ line, keepsAccumulator _ line⟩

/-- Five sixths go into the register c and are halved, and the division by zero
that comes next loses nothing; the three lines after it change nothing. -/
theorem afterLines_decided_by_last_five_twelfths :
    let lines := ["1/2 + 1/3".toList, "STORE c ".toList, "c / 2 / 0 + 1".toList,
      "STORE C".toList, "c +".toList, "x? + 1".toList]
    IsLast (·.StoresIn ⟨2⟩) lines ["1/2 + 1/3".toList] "STORE c ".toList ∧
      (fresh.afterLines lines).registers.get ⟨2⟩ = ⟨5, 6⟩ ∧
      IsLast Text.SetsAccumulator lines ["1/2 + 1/3".toList, "STORE c ".toList]
        "c / 2 / 0 + 1".toList ∧
      (∃ longest rest steps,
        (fresh.afterLines ["1/2 + 1/3".toList, "STORE c ".toList]).registers.ComputesLongest
          (Text.words "c / 2 / 0 + 1".toList) longest rest steps ⟨5, 12⟩) := by
  intro lines
  have notStored (line : Text) (other : (line.drop 6).head? ≠ some 'c') : ¬ line.StoresIn ⟨2⟩ := by
    rintro ⟨spaces, rfl⟩
    exact other rfl
  have notSet (line first : Text) (rest : List Text) (split : Text.words line = first :: rest)
      (refused : ∃ fault, Registers.zero.operand first = .error fault) :
      ¬ line.SetsAccumulator := by
    rintro ⟨-, -, -, operand, later, written⟩
    obtain ⟨fault, refused⟩ := refused
    rw [split, List.cons.injEq] at written
    rw [written.1, Registers.operand_text_eq] at refused
    contradiction
  have stores : IsLast (·.StoresIn ⟨2⟩) lines ["1/2 + 1/3".toList] "STORE c ".toList :=
    ⟨_, rfl, ⟨1, rfl⟩, by
      simp only [List.forall_mem_cons]
      refine ⟨notStored _ (by decide), notStored _ (by decide), notStored _ (by decide),
        notStored _ (by decide), by simp⟩⟩
  have sets : IsLast Text.SetsAccumulator lines ["1/2 + 1/3".toList, "STORE c ".toList]
      "c / 2 / 0 + 1".toList := by
    refine ⟨_, rfl, ⟨by decide, by decide, ?_, .register ⟨2⟩, _, rfl⟩, ?_⟩
    · rintro ⟨⟩ <;> decide
    · simp only [List.forall_mem_cons]
      refine ⟨notSet _ _ _ rfl ⟨_, rfl⟩, ?_, notSet _ _ _ rfl ⟨_, rfl⟩, by simp⟩
      rintro ⟨-, -, noOperatorAtEnd, -⟩
      exact noOperatorAtEnd .add rfl
  obtain ⟨registers, accumulator, -⟩ := afterLines_decided_by_last fresh lines
  have stored := (registers ⟨2⟩).1 _ _ stores
  have left := accumulator _ _ sets
  exact ⟨stores, stored, sets, left⟩

end Session

end FractionCalculator
