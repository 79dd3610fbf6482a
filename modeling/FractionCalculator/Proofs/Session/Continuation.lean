import FractionCalculator.Proofs.Expression.Congruence
import FractionCalculator.Proofs.Session.Acceptance

/-!
# Cutting an expression in two

A line can be cut after any beginning that has a value. If the value is put into
a register whose letter does not occur in the rest, the letter followed by the
rest has the same answer as the whole line. The fold of the whole line goes
through its beginning and is continued from the value, which is also where the
second line starts, and the words that are left resolve alike before and after
the register was written.
-/

namespace FractionCalculator

namespace Text

/-- What stands after a line ends it or begins with a space, so that it adds the
same words to every line that ends in a word. -/
theorem exists_words_append_eq {tail : Text} (spaced : tail = [] ∨ tail.head? = some ' ') :
    ∃ later, (∀ word ∈ later, word ∈ words tail) ∧
      ∀ line, line ≠ [] → line.getLast? ≠ some ' ' →
        words (line ++ tail) = words line ++ later := by
  rcases spaced with rfl | space
  · exact ⟨[], by simp, fun line _ _ => by rw [List.append_nil, List.append_nil]⟩
  · obtain ⟨rest, rfl⟩ := List.head?_eq_some_iff.mp space
    refine ⟨words rest, fun word member => ?_, fun line nonempty ends =>
      words_append_cons_space nonempty ends rest⟩
    rw [words_cons_space, if_neg (List.ne_nil_of_mem member)]
    exact List.mem_cons_of_mem [] member

theorem endsInOperator_letter_cons (register : Register) {before : Text}
    (noOperatorAtEnd : endsInOperator before = false) (tail : Text) :
    endsInOperator (register.letter :: tail) = endsInOperator (before ++ tail) := by
  rcases eq_or_ne tail [] with rfl | nonempty
  · rw [List.append_nil, noOperatorAtEnd, Bool.eq_false_iff, Ne, endsInOperator_iff]
    rintro ⟨operator, last⟩
    exact register.letter_ne_symbol operator (Option.some.inj last)
  · rw [endsInOperator_append before nonempty]
    exact endsInOperator_append [register.letter] nonempty

end Text

namespace Session

variable {session : Session}

/-! ## The beginning -/

/-- Executing a line with a value and storing leaves the value in the register
and in the accumulator. -/
theorem session_execute_storeMark {line : Text} {value : Fraction}
    (evaluated : (session.evaluate line).result = .ok value) (register : Register) :
    ((session.execute line).session.execute
        (Instruction.storeMark ++ [register.letter])).session =
      ⟨session.registers.set register value, value⟩ := by
  have stores : Text.StoresIn (Instruction.storeMark ++ [register.letter]) register := ⟨0, rfl⟩
  rw [session_execute_of_storesIn _ stores, session_execute_of_eq_ok evaluated]

/-! ## The rest -/

theorem evaluateWords_append_of_eq_ok {line : Text} {words : List Text} {value : Fraction}
    (evaluated : (session.evaluateWords line words).result = .ok value) (whole : Text)
    (later : List Text) :
    let progress := session.registers.fold value later
    (session.evaluateWords whole (words ++ later)).session =
        ⟨session.registers, progress.value⟩ ∧
      (session.evaluateWords whole (words ++ later)).result =
        match progress.fault with
        | some fault => .error fault
        | none => .ok progress.value := by
  obtain ⟨first, rest, rfl, through, reached⟩ := exists_fold_of_evaluateWords_eq_ok evaluated
  rw [List.cons_append, evaluateWords_text_eq, session_conclude, result_conclude,
    Registers.fold_append _ _ through, reached]
  exact ⟨rfl, rfl⟩

section

variable (reduced : session.registers.IsReduced)
include reduced

theorem isReduced_of_evaluateWords_eq_ok {line : Text} {words : List Text} {value : Fraction}
    (evaluated : (session.evaluateWords line words).result = .ok value) : value.IsReduced := by
  obtain ⟨first, rest, -, -, rfl⟩ := exists_fold_of_evaluateWords_eq_ok evaluated
  rw [reduced.zero_add_fraction]
  exact reduced.fold (reduced.fraction first) rest

/-- The letter of a register with the value of words takes the place of these
words, unless it occurs after them. -/
theorem evaluateWords_letter_cons {line : Text} {words : List Text} {value : Fraction}
    (evaluated : (session.evaluateWords line words).result = .ok value) {register : Register}
    {later : List Text} (absent : [register.letter] ∉ later) (whole continued : Text) :
    let stored : Session := ⟨session.registers.set register value, value⟩
    (stored.evaluateWords continued ([register.letter] :: later)).result =
        (session.evaluateWords whole (words ++ later)).result ∧
      (stored.evaluateWords continued ([register.letter] :: later)).session.accumulator =
        (session.evaluateWords whole (words ++ later)).session.accumulator := by
  intro stored
  have holds : (Operand.register register).fraction stored.registers = value := by
    rw [Operand.fraction, Registers.get_set, if_pos rfl]
  have start := (isReduced_of_evaluateWords_eq_ok reduced evaluated).zero_add_eq
  have alike : Registers.Alike stored.registers session.registers later later :=
    Registers.alike_of_operand_eq later fun word member =>
      session.registers.operand_set_of_ne value fun same => absent (same ▸ member)
  have continuation := evaluateWords_append_of_eq_ok evaluated whole later
  have letter := stored.evaluateWords_text_eq continued (.register register) later
  rw [Operand.text, holds, start, Registers.fold_eq_of_alike alike] at letter
  rw [letter, continuation.1, continuation.2, session_conclude, result_conclude]
  exact ⟨rfl, rfl⟩

/-- A line that begins with an evaluated line is answered as what remains of it
behind a register letter, if the value of the beginning is stored there first and
the letter does not occur in the rest. The result is the same up to the fault
that names the whole line. The accumulator is the same unless this fault occurs,
and no register but the one written differs. -/
theorem evaluate_letter_cons {before tail : Text} {value : Fraction} {register : Register}
    (evaluated : (session.evaluate before).result = .ok value)
    (ends : before.getLast? ≠ some ' ') (spaced : tail = [] ∨ tail.head? = some ' ')
    (absent : [register.letter] ∉ Text.words tail) :
    let stored := ((session.execute before).session.execute
      (Instruction.storeMark ++ [register.letter])).session
    let continued := stored.evaluate (register.letter :: tail)
    let whole := session.evaluate (before ++ tail)
    continued.result = whole.result.mapError (Fault.onLine (register.letter :: tail)) ∧
      ((∀ line, whole.result ≠ .error (.endsInOperator line)) →
        continued.session.accumulator = whole.session.accumulator) ∧
      continued.session.registers = whole.session.registers.set register value := by
  intro stored continued whole
  have storedEq : stored = ⟨session.registers.set register value, value⟩ :=
    session_execute_storeMark evaluated register
  obtain ⟨noOperatorAtEnd, byWords⟩ := evaluate_eq_evaluateWords_of_eq_ok evaluated
  have nonempty : before ≠ [] := by
    rintro rfl
    contradiction
  obtain ⟨later, members, split⟩ := Text.exists_words_append_eq spaced
  have wholeWords : Text.words (before ++ tail) = Text.words before ++ later :=
    split before nonempty ends
  have continuedWords : Text.words (register.letter :: tail) = [register.letter] :: later := by
    have letterWords := split [register.letter] (List.cons_ne_nil _ _)
      (by simpa using register.letter_ne_space)
    rwa [Text.words_cons_of_ne register.letter_ne_space] at letterWords
  have sameEnd := Text.endsInOperator_letter_cons register noOperatorAtEnd tail
  rw [byWords] at evaluated
  have same := evaluateWords_letter_cons reduced evaluated
    (fun member => absent (members _ member)) (before ++ tail) (register.letter :: tail)
  rw [← storedEq, ← wholeWords, ← continuedWords] at same
  refine ⟨result_evaluate_eq_mapError sameEnd same.1, accumulator_evaluate_eq sameEnd same.2, ?_⟩
  simp only [continued, whole, registers_evaluate, storedEq]

omit reduced in
/-- Five sixths are taken over by the register c into a rest that fails after one
more step. -/
theorem evaluate_letter_cons_five_halves :
    let before := "1/2 + 1/3".toList
    let tail := " * 3 / d + 1".toList
    let stored := ((fresh.execute before).session.execute "STORE c".toList).session
    fresh.registers.IsReduced ∧ (fresh.evaluate before).result = .ok ⟨5, 6⟩ ∧
      before.getLast? ≠ some ' ' ∧ tail.head? = some ' ' ∧ ['c'] ∉ Text.words tail ∧
      (fresh.evaluate (before ++ tail)).result = .error .divisionByZero ∧
      (fresh.evaluate (before ++ tail)).session.accumulator = ⟨5, 2⟩ ∧
      (stored.evaluate "c * 3 / d + 1".toList).result = .error .divisionByZero ∧
      (stored.evaluate "c * 3 / d + 1".toList).session =
        ⟨Registers.zero.set ⟨2⟩ ⟨5, 6⟩, ⟨5, 2⟩⟩ := by
  intro before tail stored
  have evaluated : (fresh.evaluate before).result = .ok ⟨5, 6⟩ := rfl
  have ends : before.getLast? ≠ some ' ' := by decide
  have spaced : tail.head? = some ' ' := rfl
  have absent : ['c'] ∉ Text.words tail := by decide
  have failed : (fresh.evaluate (before ++ tail)).result = .error .divisionByZero := rfl
  have left : (fresh.evaluate (before ++ tail)).session.accumulator = ⟨5, 2⟩ := rfl
  obtain ⟨result, accumulator, registers⟩ :=
    @evaluate_letter_cons fresh isReduced_fresh.registers before tail _ ⟨2⟩ evaluated ends
      (.inr spaced) absent
  rw [failed] at result accumulator
  rw [left] at accumulator
  exact ⟨isReduced_fresh.registers, evaluated, ends, spaced, absent, failed, left, result,
    Session.ext registers (accumulator (by simp))⟩

end

end Session

end FractionCalculator
