import FractionCalculator.Proofs.Expression.Congruence
import FractionCalculator.Proofs.Session.Acceptance

/-!
# The log replays the computation

The steps that are noted for an expression are lines of the calculator
themselves: two written fractions around an operator. Each of them, evaluated
anywhere, gives the fraction that the next one starts from, so the log can be
computed again without the session that wrote it. The last step gives the
result, or what a failed line left behind, or the division by zero at which the
line failed.
-/

namespace FractionCalculator

/-- A text whose evaluation has the same result in every session. -/
def Text.EvaluatesTo (text : Text) (result : Except Fault Fraction) : Prop :=
  ∀ session : Session, (session.evaluate text).result = result

namespace Session

variable (session : Session)

/-! ## Evaluated and executed expressions -/

theorem result_evaluate_operand (operand : Operand)
    (reduced : (operand.fraction session.registers).IsReduced) :
    (session.evaluate operand.text).result = .ok (operand.fraction session.registers) := by
  have line : operand.text = Expression.text ⟨operand, []⟩ ++ List.replicate 0 ' ' := by
    simp [Expression.text]
  rw [line, evaluate_text_append_eq, result_conclude]
  simp only [List.flatMap_nil, Registers.fold, reduced.zero_add_eq]

theorem execute_of_setsAccumulator {line : Text} (sets : line.SetsAccumulator) {first : Operand}
    {rest : List Text} (split : Text.words line = first.text :: rest) :
    let progress := session.registers.fold (0 + first.fraction session.registers) rest
    session.execute line =
      match progress.fault with
      | none =>
        ⟨.ok (.value progress.value), ⟨session.registers, progress.value⟩,
          progress.steps.map .step ++ [.value line progress.value]⟩
      | some fault =>
        ⟨.error fault, ⟨session.registers, progress.value⟩,
          progress.steps.map .step ++ [.failure .evaluate line fault]⟩ := by
  intro progress
  have instruction := (Instruction.ofLine_eq_evaluate_iff line).mpr sets.expression
  rw [execute, session.perform_of_setsAccumulator sets, split, evaluateWords_text_eq, conclude]
  cases found : progress.fault with
  | none => simp only [progress, Report.map, Report.noted, Except.map]
  | some fault => simp only [progress, Report.map, Report.noted, Except.map, instruction]

theorem exists_execute_eq_of_not_setsAccumulator {line : Text}
    (expression : ¬ Instruction.storeMark <+: line) (notSet : ¬ line.SetsAccumulator) :
    ∃ fault, session.execute line =
      ⟨.error fault, session, [.failure .evaluate line fault]⟩ := by
  obtain ⟨fault, unchanged⟩ := session.exists_evaluate_eq_unchanged expression notSet
  have instruction := (Instruction.ofLine_eq_evaluate_iff line).mpr expression
  refine ⟨fault, ?_⟩
  simp only [execute, perform, instruction, unchanged, Report.unchanged, Report.map, Except.map,
    Report.noted, List.nil_append]

end Session

/-- A step is a line with the same result in every session. -/
theorem Step.evaluatesTo_toText {step : Step} (left : step.left.IsReduced)
    (right : step.right.IsReduced) : step.toText.EvaluatesTo step.result := by
  intro session
  obtain ⟨first, firstText, firstFraction⟩ := left.exists_operand
  obtain ⟨second, secondText, secondFraction⟩ := right.exists_operand
  let pair : Pair := ⟨step.operator, second⟩
  have line : step.toText = Expression.text ⟨first, [pair]⟩ ++ List.replicate 0 ' ' := by
    simp [Expression.text, Step.toText, Pair.text, pair, firstText, secondText]
  have taken : session.registers.step step.left [step.operator.symbol] second.text = .ok step := by
    rw [session.registers.step_pair step.left pair, Pair.step, secondFraction]
  rw [line, session.evaluate_text_append_eq, Session.result_conclude, firstFraction,
    left.zero_add_eq]
  simp only [pair, List.flatMap_cons, List.flatMap_nil, List.append_nil, Pair.words,
    Registers.fold, taken]
  cases step.result <;> rfl

/-! ## Steps as lines -/

namespace Session

/-- Steps that replay the evaluation of a line, each of them a line itself. -/
structure ReplayedBy (session : Session) (line : Text) (steps : List Step) : Prop where
  /-- Each step writes two fractions in lowest terms around an operator. -/
  canonical : ∀ step ∈ steps, step.left.IsReduced ∧ step.right.IsReduced
  /-- The first one starts from the value of the first word. -/
  start : ∀ step ∈ steps.head?, ∃ (first : Operand) (rest : List Text),
    Text.words line = first.text :: rest ∧ step.left = .ofRat (first.value session.registers)
  /-- Each evaluates to what the next one starts from. -/
  linked : steps.IsChain fun step next => step.toText.EvaluatesTo (.ok next.left)

/-- Steps that lead to the value of a line. -/
structure ReplayedToValue (session : Session) (line : Text) (steps : List Step)
    (value : Fraction) : Prop where
  /-- There is one step for each pair; without pairs the first word has the value,
  wherever the registers are the same. -/
  expression : ∃ written : Expression, Text.words line = written.words ∧
    steps.length = written.pairs.length ∧
    (steps = [] → ∀ other : Session, other.registers = session.registers →
      (other.evaluate written.first.text).result = .ok value)
  /-- The last step evaluates to the value. -/
  last : ∀ step ∈ steps.getLast?, step.toText.EvaluatesTo (.ok value)

/-- Steps that lead as far as a failed line came. -/
structure ReplayedToFault (session : Session) (line : Text) (steps : List Step)
    (fault : Fault) (left : Fraction) : Prop where
  /-- No pair reaches the accumulator of a line that does not set it. -/
  unset : ¬ line.SetsAccumulator → steps = []
  /-- Otherwise there is one step for each pair that was computed, and one more if
  the next words are a pair: it divides by zero. The last step evaluates to what
  was left in the accumulator, or to this division by zero. -/
  set : line.SetsAccumulator → ∃ longest rest computed,
    session.registers.ComputesLongest (Text.words line) longest rest computed left ∧
      ((∀ pair later, rest ≠ Pair.words pair ++ later) →
        steps.length = longest.pairs.length ∧
          ∀ step ∈ steps.getLast?, step.toText.EvaluatesTo (.ok left)) ∧
      ∀ pair later, rest = Pair.words pair ++ later →
        pair.operator = .div ∧ pair.operand.value session.registers = 0 ∧
          fault = .divisionByZero ∧ steps.length = longest.pairs.length + 1 ∧
          ∀ step ∈ steps.getLast?, step.toText.EvaluatesTo (.error .divisionByZero)

section

variable {session : Session} (reduced : session.registers.IsReduced) {line : Text}
  {first : Operand} {words : List Text} (split : Text.words line = first.text :: words)
  {pairs : List Pair} {steps extra : List Step} {value : Fraction} {rest : List Text}
  (computed : session.registers.Computes (0 + first.fraction session.registers) pairs steps value)
include reduced split computed

/-- The steps of a computation that starts from the first word of a line. -/
theorem replayedBy_append {fault : Option Fault}
    (stops : session.registers.Stops value rest extra fault) :
    session.ReplayedBy line (steps ++ extra) := by
  rw [reduced.zero_add_fraction] at computed
  obtain ⟨valueReduced, stepsReduced⟩ := reduced.computes (reduced.fraction first) computed
  have canonical : ∀ step ∈ steps ++ extra, step.left.IsReduced ∧ step.right.IsReduced :=
    List.forall_mem_append.mpr ⟨stepsReduced, reduced.stops valueReduced stops⟩
  refine ⟨canonical, fun step earliest => ⟨first, words, split, ?_⟩, ?_⟩
  · rw [computed.left_of_mem_head?_append stops step earliest, reduced.fraction_eq]
  · refine (computed.isChain_append stops).imp_of_mem_imp fun step next member _ result => ?_
    rw [← result]
    exact Step.evaluatesTo_toText (canonical step member).1 (canonical step member).2

omit split in
/-- The last step of a computation evaluates to its value. -/
theorem evaluatesTo_of_mem_getLast? :
    ∀ step ∈ steps.getLast?, step.toText.EvaluatesTo (.ok value) := by
  intro step last
  rw [reduced.zero_add_fraction] at computed
  obtain ⟨left, right⟩ :=
    (reduced.computes (reduced.fraction first) computed).2 step (List.mem_of_getLast? last)
  rw [← computed.result_of_mem_getLast? step last]
  exact Step.evaluatesTo_toText left right

theorem replayedToValue (all : words = pairs.flatMap Pair.words) :
    session.ReplayedToValue line steps value := by
  refine ⟨⟨⟨first, pairs⟩, by rw [split, all]; rfl, computed.length_steps, ?_⟩,
    evaluatesTo_of_mem_getLast? reduced computed⟩
  intro none other same
  rw [computed.eq_of_steps_eq_nil none, reduced.zero_add_fraction, ← same]
  exact other.result_evaluate_operand first (same ▸ reduced.fraction first)

theorem replayedToFault (sets : line.SetsAccumulator)
    (front : words = pairs.flatMap Pair.words ++ rest) {fault : Fault}
    (stops : session.registers.Stops value rest extra (some fault)) :
    session.ReplayedToFault line (steps ++ extra) fault value := by
  have canonical := (replayedBy_append reduced split computed stops).canonical
  have longest : session.registers.ComputesLongest (Text.words line) ⟨first, pairs⟩ rest steps
      value := by
    refine ⟨by rw [split, front]; rfl, computed, ?_⟩
    rintro pair later rfl
    obtain ⟨failure, -, failed, -⟩ := stops.exists_result_eq_error
    exact ⟨failure, failed⟩
  refine ⟨absurd sets, fun _ => ⟨_, rest, steps, longest, fun noPair => ?_, ?_⟩⟩
  · cases stops with
    | noPair =>
        rw [List.append_nil]
        exact ⟨computed.length_steps, evaluatesTo_of_mem_getLast? reduced computed⟩
    | noResult => exact absurd rfl (noPair _ _)
  · rintro pair later rfl
    obtain ⟨failure, same, failed, rfl⟩ := stops.exists_result_eq_error
    obtain ⟨division, zero, rfl⟩ :=
      (session.registers.result_step_eq_error_iff value pair failure).mp failed
    rw [reduced.fraction_eq] at zero
    refine ⟨division, Rat.num_eq_zero.mp zero, Option.some.inj same, ?_, ?_⟩
    · rw [List.length_append, computed.length_steps]
      rfl
    · rw [List.getLast?_concat]
      rintro step ⟨⟩
      obtain ⟨left, right⟩ := canonical _ (List.mem_concat_self ..)
      rw [← failed]
      exact Step.evaluatesTo_toText left right

end

/-- The log of an expression ends with one record about its result, and the
records before it are steps that replay the evaluation: to the value if there is
one, and otherwise as far as the line came. -/
theorem log_execute_replays {session : Session} (reduced : session.IsReduced) {line : Text}
    (expression : ¬ Instruction.storeMark <+: line) :
    ∃ steps last,
      (session.execute line).log = steps.map .step ++ [last] ∧
        (session.execute line).log.map Record.toText =
          steps.map (fun step => "TRACE accumulator: ".toList ++ step.toText) ++ [last.toText] ∧
        session.ReplayedBy line steps ∧
        (∀ answer, (session.execute line).result = .ok answer → ∃ value,
          answer = .value value ∧ last = .value line value ∧
            last.toText = "DEBUG ".toList ++ line ++ " = ".toList ++ value.toText ∧
            session.ReplayedToValue line steps value) ∧
        ∀ fault, (session.execute line).result = .error fault →
          last = .failure .evaluate line fault ∧ "WARN ".toList <+: last.toText ∧
            session.ReplayedToFault line steps fault
              (session.execute line).session.accumulator := by
  have texts (steps : List Step) (last : Record) :
      (steps.map Record.step ++ [last]).map Record.toText =
        steps.map (fun step => "TRACE accumulator: ".toList ++ step.toText) ++ [last.toText] := by
    rw [List.map_append, List.map_map]
    rfl
  by_cases sets : line.SetsAccumulator
  · obtain ⟨first, words, split⟩ := sets.operand
    have executed := session.execute_of_setsAccumulator sets split
    obtain ⟨pairs, rest, steps, extra, front, computed, stops, noted⟩ :=
      session.registers.exists_computes_fold (0 + first.fraction session.registers) words
    generalize session.registers.fold (0 + first.fraction session.registers) words = progress
      at executed computed stops noted
    obtain ⟨value, _, fault⟩ := progress
    dsimp only at computed stops noted
    subst noted
    have replayed := replayedBy_append reduced.registers split computed stops
    cases fault with
    | none =>
        rw [executed]
        cases stops
        rw [List.append_nil] at front replayed
        refine ⟨steps, _, by rw [List.append_nil], by rw [List.append_nil, texts], replayed, ?_,
          by simp⟩
        rintro answer ⟨⟩
        exact ⟨value, rfl, rfl, rfl, replayedToValue reduced.registers split computed front⟩
    | some fault =>
        rw [executed]
        refine ⟨_, _, rfl, texts _ _, replayed, by simp, ?_⟩
        rintro fault ⟨⟩
        exact ⟨rfl, ⟨_, rfl⟩, replayedToFault reduced.registers split computed sets front stops⟩
  · obtain ⟨fault, executed⟩ :=
      session.exists_execute_eq_of_not_setsAccumulator expression sets
    rw [executed]
    refine ⟨[], _, rfl, texts [] _, ⟨by simp, by simp, .nil⟩, by simp, ?_⟩
    rintro fault ⟨⟩
    exact ⟨rfl, ⟨_, rfl⟩, fun _ => rfl, fun set => absurd set sets⟩

/-- One half and one third are added, and the sum is divided by zero. -/
theorem log_execute_replays_five_sixths :
    let line := "1/2 + 1/3 / 0 * 2".toList
    let steps : List Step := [⟨⟨1, 2⟩, .add, ⟨1, 3⟩⟩, ⟨⟨5, 6⟩, .div, ⟨0, 1⟩⟩]
    fresh.IsReduced ∧ ¬ Instruction.storeMark <+: line ∧
      (fresh.execute line).log =
        steps.map .step ++ [.failure .evaluate line .divisionByZero] ∧
      Text.EvaluatesTo "1/2 + 1/3".toList (.ok ⟨5, 6⟩) ∧
      fresh.ReplayedToFault line steps .divisionByZero ⟨5, 6⟩ := by
  intro line steps
  have expression : ¬ Instruction.storeMark <+: line := by decide
  have logged : (fresh.execute line).log =
      steps.map .step ++ [.failure .evaluate line .divisionByZero] :=
    rfl
  obtain ⟨noted, last, log, -, replayed, -, failed⟩ :=
    log_execute_replays isReduced_fresh expression
  have same : noted = steps := by
    rw [logged] at log
    exact ((List.map_inj_right fun _ _ => Record.step.inj).mp (List.append_inj' log rfl).1).symm
  subst same
  exact ⟨isReduced_fresh, expression, logged, (List.isChain_cons_cons.mp replayed.linked).1,
    (failed .divisionByZero rfl).2.2⟩

end Session

end FractionCalculator
