import FractionCalculator.Proofs.Expression.Congruence
import FractionCalculator.Proofs.Session.Congruence

/-!
# What an evaluation does not depend on

An evaluation does not look at the accumulator, which it sets before it uses it,
and it looks at no register but those that the line names in operand position.
Two sessions that agree on these give the same result and write the same log, on
failing lines as well. Afterwards their accumulators are the same if the line got
as far as its first operand, and what they were before if it did not.
-/

namespace FractionCalculator

/-- A line names a register: the letter is one of its words in operand position. -/
def Text.Names (line : Text) (register : Register) : Prop :=
  ∃ position, position % 2 = 0 ∧ (words line)[position]? = some [register.letter]

namespace Session

variable {first second : Session}

/-- Words that resolve alike in two sessions are evaluated alike, and once the
first of them has a value the old accumulators are forgotten. -/
theorem evaluateWords_eq_of_alike {word : Text} {rest : List Text}
    (same : first.registers.operand word = second.registers.operand word)
    (alike : Registers.Alike first.registers second.registers rest rest) (line : Text) :
    let firstReport := first.evaluateWords line (word :: rest)
    let secondReport := second.evaluateWords line (word :: rest)
    firstReport.result = secondReport.result ∧ firstReport.log = secondReport.log ∧
      ∀ value, first.registers.operand word = .ok value →
        firstReport.session.accumulator = secondReport.session.accumulator := by
  simp only [evaluateWords, same, Registers.fold_eq_of_alike alike]
  cases second.registers.operand word with
  | error fault =>
      refine ⟨rfl, rfl, ?_⟩
      rintro value ⟨⟩
  | ok value => simp only [result_conclude, log_conclude, session_conclude, implies_true, and_self]

/-- Two sessions that agree on the registers that a line names evaluate it to the
same result with the same log, whatever their accumulators and their other
registers hold. They then agree on the accumulator if the line started to be
evaluated, and otherwise neither has changed. -/
theorem evaluate_eq_of_agree_on_named {line : Text}
    (agree : ∀ register, line.Names register →
      first.registers.get register = second.registers.get register) :
    (first.evaluate line).result = (second.evaluate line).result ∧
      (first.evaluate line).log = (second.evaluate line).log ∧
      (first.registers.Starts line →
        (first.evaluate line).session.accumulator =
          (second.evaluate line).session.accumulator) ∧
      (¬ first.registers.Starts line →
        (first.evaluate line).session = first ∧ (second.evaluate line).session = second) := by
  by_cases starts : first.registers.Starts line
  · obtain ⟨nonempty, noOperatorAtEnd, word, rest, value, split, resolved⟩ := starts
    have resolve (position : Nat) (operand : Text) (even : position % 2 = 0)
        (found : (word :: rest)[position]? = some operand) :
        first.registers.operand operand = second.registers.operand operand := by
      refine Registers.operand_eq_of_get_eq fun register letter => agree register ?_
      exact ⟨position, even, by rw [split, found, letter]⟩
    have alike : Registers.Alike first.registers second.registers rest rest :=
      Registers.alike_of_operand_eq_at rest fun position operand odd =>
        resolve (position + 1) operand (by omega)
    have evaluated := evaluateWords_eq_of_alike (resolve 0 word rfl rfl) alike line
    rw [evaluate_eq_evaluateWords nonempty noOperatorAtEnd,
      evaluate_eq_evaluateWords nonempty noOperatorAtEnd, split]
    exact ⟨evaluated.1, evaluated.2.1, fun _ => evaluated.2.2 value resolved,
      absurd ⟨nonempty, noOperatorAtEnd, word, rest, value, split, resolved⟩⟩
  · obtain ⟨fault, unchanged⟩ := exists_fault_of_not_starts starts
    rw [unchanged first, unchanged second]
    exact ⟨rfl, rfl, fun started => absurd started starts, fun _ => ⟨rfl, rfl⟩⟩

/-- The sessions differ in the register d and in the accumulator. The letter d stands
in operator position, where it names no register and is a fault. -/
theorem evaluate_eq_of_agree_on_named_c :
    let first : Session := ⟨Registers.zero.set ⟨2⟩ ⟨5, 6⟩, ⟨1, 2⟩⟩
    let second : Session := ⟨(Registers.zero.set ⟨2⟩ ⟨5, 6⟩).set ⟨3⟩ ⟨7, 1⟩, ⟨-3, 1⟩⟩
    let line : Text := "c + 1 d c".toList
    (∀ register, line.Names register →
        first.registers.get register = second.registers.get register) ∧
      first.registers.Starts line ∧
      (first.evaluate line).result = .error (.notOperator ['d']) ∧
      (second.evaluate line).result = .error (.notOperator ['d']) ∧
      (second.evaluate line).log = (first.evaluate line).log ∧
      (second.evaluate line).session.accumulator = ⟨11, 6⟩ := by
  intro first second line
  have agree : ∀ register, line.Names register →
      first.registers.get register = second.registers.get register := by
    rintro register ⟨position, even, found⟩
    have other : (⟨3⟩ : Register) ≠ register := by
      rintro rfl
      match position with
      | 0 | 2 | 4 => exact absurd found (by decide)
      | 1 | 3 => exact absurd even (by decide)
      | later + 5 => contradiction
    rw [Registers.get_set _ ⟨3⟩, if_neg other]
  have starts : first.registers.Starts line := by
    refine ⟨by decide, ?_, _, _, _, rfl, rfl⟩
    rintro ⟨⟩ <;> decide
  have failed : (first.evaluate line).result = .error (.notOperator ['d']) := rfl
  have left : (first.evaluate line).session.accumulator = ⟨11, 6⟩ := by decide
  obtain ⟨result, log, accumulator, -⟩ := evaluate_eq_of_agree_on_named agree
  exact ⟨agree, starts, failed, result.symm.trans failed, log.symm,
    (accumulator starts).symm.trans left⟩

end Session

end FractionCalculator
