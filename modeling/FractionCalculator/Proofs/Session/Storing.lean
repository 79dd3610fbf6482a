import FractionCalculator.Proofs.Session.History

/-!
# Exactly which lines store

Storing asks of a line that a text without spaces, one space and a single character
are all that stands before the spaces at its end. The character decides: a letter
from a to z is the register that takes the accumulator, and any other character is
refused by name. All other lines are refused as a whole. A refusal changes nothing.
Executing adds one condition, that the line begins with the mark of store lines.
-/

namespace FractionCalculator

/-- A line targets a character to store into: a text without spaces, possibly empty,
then a space, the character and spaces alone. -/
def Text.Targets (line : Text) (name : Char) : Prop :=
  ∃ first spaces, ' ' ∉ first ∧ name ≠ ' ' ∧
    line = first ++ ' ' :: name :: List.replicate spaces ' '

namespace Text

theorem targets_iff (line : Text) (name : Char) :
    line.Targets name ↔ ∃ first, words line = [first, [name]] := by
  refine exists_congr fun first => ?_
  rw [words_eq_pair_iff, exists_and_left, exists_and_left]

/-- A line targets a register, another character or none. -/
theorem exists_targets_or_forall_not (line : Text) :
    (∃ register : Register, line.Targets register.letter) ∨
      (∃ name, line.Targets name ∧ ∀ register : Register, name ≠ register.letter) ∨
      ∀ name, ¬ line.Targets name := by
  by_cases aimed : ∃ name, line.Targets name
  · obtain ⟨name, targets⟩ := aimed
    by_cases letter : ∃ register : Register, name = register.letter
    · obtain ⟨register, rfl⟩ := letter
      exact .inl ⟨register, targets⟩
    · exact .inr (.inl ⟨name, targets, not_exists.mp letter⟩)
  · exact .inr (.inr (not_exists.mp aimed))

/-- A line stores into a register when it is a store line and targets its letter. -/
theorem storesIn_iff_targets (line : Text) (register : Register) :
    line.StoresIn register ↔ Instruction.storeMark <+: line ∧ line.Targets register.letter := by
  rw [storesIn_iff, targets_iff]

end Text

namespace Session

variable (session : Session) {line : Text}

/-! ## The three outcomes -/

theorem store_of_targets_letter {register : Register} (targets : line.Targets register.letter) :
    session.store line =
      ⟨.ok register, ⟨session.registers.set register session.accumulator, session.accumulator⟩,
        [.stored session.accumulator register]⟩ := by
  obtain ⟨first, split⟩ := (Text.targets_iff line _).mp targets
  simp only [store, split, Register.ofChar, Register.ofChar?_letter]

theorem store_of_targets {name : Char} (targets : line.Targets name)
    (noLetter : ∀ register : Register, name ≠ register.letter) :
    session.store line = .unchanged session (.error (.notRegister name)) := by
  obtain ⟨first, split⟩ := (Text.targets_iff line name).mp targets
  simp only [store, split, Register.ofChar, (Register.ofChar?_eq_none_iff name).mpr noLetter]

theorem store_of_forall_not_targets (noTarget : ∀ name, ¬ line.Targets name) :
    session.store line = .unchanged session (.error (.notStore line)) := by
  unfold store
  split
  · rename_i first name split
    exact absurd ((Text.targets_iff line name).mpr ⟨first, split⟩) (noTarget name)
  · rfl

/-- Storing succeeds exactly for the letters that lines target. -/
theorem result_store_eq_ok_iff (line : Text) (register : Register) :
    (session.store line).result = .ok register ↔ line.Targets register.letter := by
  constructor
  · intro stored
    rcases line.exists_targets_or_forall_not with
      ⟨named, targets⟩ | ⟨name, targets, noLetter⟩ | noTarget
    · rw [session.store_of_targets_letter targets, Except.ok.injEq] at stored
      exact stored ▸ targets
    · rw [session.store_of_targets targets noLetter] at stored
      contradiction
    · rw [session.store_of_forall_not_targets noTarget] at stored
      contradiction
  · intro targets
    rw [session.store_of_targets_letter targets]

/-- It fails for another character by name, and for all other lines as a whole. -/
theorem result_store_eq_error_iff (line : Text) (fault : Fault) :
    (session.store line).result = .error fault ↔
      (∃ name, line.Targets name ∧ (∀ register : Register, name ≠ register.letter) ∧
          fault = .notRegister name) ∨
        ((∀ name, ¬ line.Targets name) ∧ fault = .notStore line) := by
  constructor
  · intro failed
    rcases line.exists_targets_or_forall_not with
      ⟨named, targets⟩ | ⟨name, targets, noLetter⟩ | noTarget
    · rw [session.store_of_targets_letter targets] at failed
      contradiction
    · rw [session.store_of_targets targets noLetter] at failed
      cases failed
      exact .inl ⟨name, targets, noLetter, rfl⟩
    · rw [session.store_of_forall_not_targets noTarget] at failed
      cases failed
      exact .inr ⟨noTarget, rfl⟩
  · rintro (⟨name, targets, noLetter, rfl⟩ | ⟨noTarget, rfl⟩)
    · rw [session.store_of_targets targets noLetter]
      rfl
    · rw [session.store_of_forall_not_targets noTarget]
      rfl

/-- It has no faults but these two. -/
theorem store_eq_error_cases {fault : Fault}
    (failed : (session.store line).result = .error fault) :
    fault = .notStore line ∨ ∃ name, fault = .notRegister name := by
  rcases (session.result_store_eq_error_iff line fault).mp failed with
    ⟨name, -, -, rfl⟩ | ⟨-, rfl⟩
  · exact .inr ⟨name, rfl⟩
  · exact .inl rfl

theorem session_store_of_eq_error {fault : Fault}
    (failed : (session.store line).result = .error fault) :
    (session.store line).session = session := by
  rcases (session.result_store_eq_error_iff line fault).mp failed with
    ⟨name, targets, noLetter, -⟩ | ⟨noTarget, -⟩
  · rw [session.store_of_targets targets noLetter]
    rfl
  · rw [session.store_of_forall_not_targets noTarget]
    rfl

/-! ## Executed lines -/

theorem result_execute_eq_stored_iff (line : Text) (register : Register) :
    (session.execute line).result = .ok (.stored register) ↔ line.StoresIn register := by
  rw [Text.storesIn_iff_targets, ← Instruction.ofLine_eq_store_iff,
    ← session.result_store_eq_ok_iff, result_execute, perform]
  cases instruction : Instruction.ofLine line with
  | store =>
      cases stored : (session.store line).result <;> simp [Report.map, Except.map, stored]
  | evaluate =>
      cases evaluated : (session.evaluate line).result <;>
        simp [Report.map, Except.map, evaluated]

/-- A store succeeds exactly for lines that target a letter from a to z; it then
copies the accumulator into that register and changes nothing else. It fails for
lines that target another character and for all other lines, and changes nothing.
So an executed line is answered as stored exactly when spaces alone stand after the
mark and a letter, and no other line changes that register. -/
theorem store_exact (line : Text) :
    (∀ register, (session.store line).result = .ok register ↔ line.Targets register.letter) ∧
      (∀ register, (session.store line).result = .ok register →
        (session.store line).session.accumulator = session.accumulator ∧
          ∀ other, (session.store line).session.registers.get other =
            if register = other then session.accumulator else session.registers.get other) ∧
      (∀ fault, (session.store line).result = .error fault ↔
        (∃ name, line.Targets name ∧ (∀ register : Register, name ≠ register.letter) ∧
            fault = .notRegister name) ∨
          ((∀ name, ¬ line.Targets name) ∧ fault = .notStore line)) ∧
      (∀ fault, (session.store line).result = .error fault →
        (session.store line).session = session) ∧
      (∀ register, (session.execute line).result = .ok (.stored register) ↔
        ∃ spaces, line = "STORE ".toList ++ register.letter :: List.replicate spaces ' ') ∧
      ∀ register,
        (¬ ∃ spaces, line = "STORE ".toList ++ register.letter :: List.replicate spaces ' ') →
          (session.execute line).session.registers.get register =
            session.registers.get register := by
  refine ⟨session.result_store_eq_ok_iff line, ?_, session.result_store_eq_error_iff line,
    fun fault => session.session_store_of_eq_error, session.result_execute_eq_stored_iff line,
    fun register => session.get_execute_of_not_storesIn⟩
  intro register stored
  have targets := (session.result_store_eq_ok_iff line register).mp stored
  rw [session.store_of_targets_letter targets]
  exact ⟨rfl, fun other => session.registers.get_set register other session.accumulator⟩

/-- The first word is not looked at when a line is stored, and it is when the line
is executed; a letter outside ASCII is no register. -/
theorem store_exact_seven_thirds :
    let session : Session := ⟨Registers.zero, ⟨7, 3⟩⟩
    (session.store "é c  ".toList).result = .ok ⟨2⟩ ∧
      (session.store "é c  ".toList).session.registers.get ⟨2⟩ = ⟨7, 3⟩ ∧
      (session.store "STORE é".toList).result = .error (.notRegister 'é') ∧
      (session.store "STORE é".toList).session = session ∧
      (¬ ∃ spaces, "é c  ".toList =
        "STORE ".toList ++ (⟨2⟩ : Register).letter :: List.replicate spaces ' ') ∧
      (session.execute "é c  ".toList).session.registers.get ⟨2⟩ = 0 := by
  intro session
  obtain ⟨-, sets, -, -, -, unchanged⟩ := session.store_exact "é c  ".toList
  obtain ⟨-, -, -, kept, -, -⟩ := session.store_exact "STORE é".toList
  have notStored : ¬ ∃ spaces, "é c  ".toList =
      "STORE ".toList ++ (⟨2⟩ : Register).letter :: List.replicate spaces ' ' := by
    rintro ⟨spaces, written⟩
    have heads : some 'é' = some 'S' := congrArg List.head? written
    contradiction
  exact ⟨rfl, (sets ⟨2⟩ rfl).2 ⟨2⟩, rfl, kept _ rfl, notStored, unchanged ⟨2⟩ notStored⟩

end Session

end FractionCalculator
