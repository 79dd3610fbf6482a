import FractionCalculator.Session.Request

/-!
# Lowest terms throughout a session

Every request keeps the registers and the accumulator in lowest terms, whether
it succeeds or fails, provided that a fraction it brings along is in lowest
terms too. A fold keeps them at each of its steps, so that a line which fails
part of the way leaves them as well. Nothing is said here about how the
fractions are computed.
-/

namespace FractionCalculator

namespace Fraction

/-- Fractions that can be built outside a session: from two integers, from one
integer or from a text. -/
inductive IsBuilt : Fraction → Prop
  | ofInts {num den : Int} {value : Fraction} :
      Fraction.ofInts num den = .ok value → IsBuilt value
  | ofInt (value : Int) : IsBuilt (Fraction.ofInt value)
  | ofText {text : Text} {value : Fraction} :
      Fraction.ofText text = .ok value → IsBuilt value

theorem isReduced_of_ofText_eq_ok {text : Text} {value : Fraction}
    (read : ofText text = .ok value) : value.IsReduced := by
  unfold ofText at read
  split at read
  · split at read
    · cases read
      exact isReduced_ofInt _
    · cases read
  · split at read
    · exact isReduced_of_ofInts_eq_ok read
    · cases read

theorem IsBuilt.isReduced {value : Fraction} (built : value.IsBuilt) : value.IsReduced := by
  cases built with
  | ofInts built => exact isReduced_of_ofInts_eq_ok built
  | ofInt whole => exact isReduced_ofInt whole
  | ofText read => exact isReduced_of_ofText_eq_ok read

theorem IsReduced.eq_zero_of_num_eq_zero {value : Fraction} (reduced : value.IsReduced)
    (zero : value.num = 0) : value = 0 := by
  have single : value.den = 1 := by simpa [zero] using reduced.2
  exact Fraction.ext zero single

end Fraction

/-! ## Folds -/

namespace Registers

variable {registers : Registers} (reduced : registers.IsReduced)
include reduced

theorem IsReduced.of_operand_eq_ok {word : Text} {value : Fraction}
    (resolved : registers.operand word = .ok value) : value.IsReduced := by
  unfold operand at resolved
  split at resolved
  · split at resolved
    · rename_i read
      cases resolved
      exact Fraction.isReduced_of_ofText_eq_ok read
    · cases resolved
    · cases resolved
  · cases resolved
    exact reduced _
  · cases resolved
  · cases resolved
  · cases resolved

/-- A step starts from the running value and takes an operand in lowest terms. -/
theorem IsReduced.of_step_eq_ok {value : Fraction} {operator operand : Text} {step : Step}
    (taken : registers.step value operator operand = .ok step) :
    step.left = value ∧ step.right.IsReduced := by
  unfold Registers.step at taken
  split at taken
  · cases taken
  · rename_i resolved
    split at taken
    · cases taken
    · cases taken
      exact ⟨rfl, reduced.of_operand_eq_ok resolved⟩

/-- A step that has a result carries lowest terms over to it. -/
theorem IsReduced.of_result_eq_ok {value next : Fraction} (start : value.IsReduced)
    {operator operand : Text} {step : Step}
    (taken : registers.step value operator operand = .ok step)
    (result : step.result = .ok next) : next.IsReduced := by
  rcases reduced.of_step_eq_ok taken with ⟨rfl, right⟩
  exact Operator.isReduced_of_apply_eq_ok start right result

/-- The value that a fold reaches is in lowest terms wherever the fold ends. -/
theorem IsReduced.fold {value : Fraction} (start : value.IsReduced) (words : List Text) :
    (registers.fold value words).value.IsReduced := by
  induction value, words using Registers.fold.induct registers with
  | case1 value => exact start
  | case2 value word => exact start
  | case3 value operator operand rest fault refused =>
      simpa only [Registers.fold, refused] using start
  | case4 value operator operand rest step taken fault failed =>
      simpa only [Registers.fold, taken, failed] using start
  | case5 value operator operand rest step taken next result inductionHypothesis =>
      simp only [Registers.fold, taken, result]
      exact inductionHypothesis (reduced.of_result_eq_ok start taken result)

end Registers

/-! ## Single lines -/

namespace Session

/-- The registers and the accumulator are in lowest terms. -/
structure IsReduced (session : Session) : Prop where
  /-- Every register is. -/
  registers : session.registers.IsReduced
  /-- The accumulator is. -/
  accumulator : session.accumulator.IsReduced

theorem isReduced_fresh : fresh.IsReduced :=
  ⟨Registers.isReduced_zero, Fraction.isReduced_ofInt 0⟩

variable {session : Session} (reduced : session.IsReduced)
include reduced

/-- Another accumulator in lowest terms may take the place of the present one. -/
theorem IsReduced.replaced {value : Fraction} (valueReduced : value.IsReduced) :
    IsReduced ⟨session.registers, value⟩ :=
  ⟨reduced.registers, valueReduced⟩

/-- The first operand of a line, added to zero. -/
theorem IsReduced.first {word : Text} {value : Fraction}
    (resolved : session.registers.operand word = .ok value) : (0 + value).IsReduced :=
  Fraction.isReduced_add (Fraction.isReduced_ofInt 0) (reduced.registers.of_operand_eq_ok resolved)

theorem IsReduced.evaluateWords (line : Text) (words : List Text) :
    (session.evaluateWords line words).session.IsReduced := by
  cases words with
  | nil => exact reduced
  | cons first rest =>
      simp only [Session.evaluateWords]
      split
      · exact reduced
      · rename_i resolved
        rw [session_conclude]
        exact reduced.replaced (reduced.registers.fold (reduced.first resolved) rest)

theorem IsReduced.evaluate (line : Text) : (session.evaluate line).session.IsReduced := by
  rw [Session.evaluate]
  split
  · exact reduced
  · split
    · exact reduced
    · exact reduced.evaluateWords line _

theorem IsReduced.store (line : Text) : (session.store line).session.IsReduced := by
  rw [Session.store]
  split
  · split
    · exact reduced
    · exact ⟨reduced.registers.set _ reduced.accumulator, reduced.accumulator⟩
  · exact reduced

theorem IsReduced.execute (line : Text) : (session.execute line).session.IsReduced := by
  rw [session_execute]
  rw [perform]
  split
  · exact reduced.store line
  · exact reduced.evaluate line

theorem IsReduced.combine (operator : Operator) {operand : Fraction}
    (operandReduced : operand.IsReduced) :
    (session.combine operator operand).session.IsReduced := by
  rw [Session.combine]
  split
  · exact reduced
  · rename_i applied
    exact reduced.replaced
      (Operator.isReduced_of_apply_eq_ok reduced.accumulator operandReduced applied)

end Session

/-! ## Runs of the front ends -/

/-- A write leaves the session at hand, or what comes next decides. -/
theorem Transcript.session_write (room : Room) (session : Session) (text : Text)
    (next : Room → Transcript) :
    (write room session text next).session = session ∨
      ∃ left, (write room session text next).session = (next left).session := by
  simp only [write]
  split
  · exact .inl rfl
  · exact .inr ⟨_, rfl⟩

/-- A write keeps lowest terms if what comes next does. -/
theorem Session.IsReduced.write {session : Session} (reduced : session.IsReduced) (room : Room)
    (text : Text) {next : Room → Transcript} (later : ∀ left, (next left).session.IsReduced) :
    (Transcript.write room session text next).session.IsReduced := by
  rcases Transcript.session_write room session text next with same | ⟨left, after⟩
  · rw [same]
    exact reduced
  · rw [after]
    exact later left

theorem Session.IsReduced.listing {session : Session} (reduced : session.IsReduced) (room : Room)
    (lines : List Text) : (Listing.run room session lines).session.IsReduced := by
  induction lines generalizing room session with
  | nil => exact reduced
  | cons line rest inductionHypothesis =>
      have executed := reduced.execute line
      exact executed.write room _ fun left => inductionHypothesis executed left

theorem Dialogue.report_of_respond?_eq_some {session : Session} {bytes : Bytes} {answer : Text}
    {report : Report Answer} (responded : respond? session bytes = some (answer, report)) :
    report = session.execute (lineOfBytes bytes) := by
  simp only [respond?] at responded
  split at responded
  · cases responded
  · cases responded
    rfl

theorem Session.IsReduced.converse {session : Session} (reduced : session.IsReduced)
    (fails : Bool) (room : Room) (lines : List Bytes) :
    (Dialogue.converse fails room session lines).session.IsReduced := by
  induction lines generalizing room session with
  | nil =>
      refine reduced.write room _ fun left => ?_
      split
      · exact reduced
      · exact reduced
  | cons bytes rest inductionHypothesis =>
      refine reduced.write room _ fun left => ?_
      split
      · exact reduced
      · rename_i responded
        have executed := reduced.execute (Dialogue.lineOfBytes bytes)
        rw [← Dialogue.report_of_respond?_eq_some responded] at executed
        exact executed.write left _ fun left => inductionHypothesis executed left

/-! ## Requests -/

/-- The fraction that a request brings along. -/
def Request.operand? : Request → Option Fraction
  | .write _ value => some value
  | .combine _ operand => some operand
  | .step _ operand => some operand
  | _ => none

namespace Session

/-- One request keeps lowest terms, whether it succeeds or fails. -/
theorem IsReduced.handle {session : Session} (reduced : session.IsReduced) (request : Request)
    (operands : ∀ operand ∈ request.operand?, operand.IsReduced) :
    (session.handle request).session.IsReduced := by
  cases request with
  | execute line => exact reduced.execute line
  | evaluate line => exact reduced.evaluate line
  | store line => exact reduced.store line
  | write name value =>
      simp only [Session.handle]
      split
      · exact reduced
      · exact ⟨reduced.registers.set _ (operands value rfl), reduced.accumulator⟩
  | read name => exact reduced
  | current => exact reduced
  | reset => exact reduced.replaced (Fraction.isReduced_ofInt 0)
  | combine operator operand => exact reduced.combine operator (operands operand rfl)
  | step operator operand => exact reduced.combine operator (operands operand rfl)
  | listing room lines => exact reduced.listing room lines
  | dialogue room input => exact reduced.converse input.fails room input.lines

/-- Any number of requests keep lowest terms. -/
theorem IsReduced.afterAll {session : Session} (reduced : session.IsReduced)
    (requests : List Request)
    (operands : ∀ request ∈ requests, ∀ operand ∈ request.operand?, operand.IsReduced) :
    (session.afterAll requests).IsReduced := by
  induction requests generalizing session with
  | nil => exact reduced
  | cons request rest inductionHypothesis =>
      rw [List.forall_mem_cons] at operands
      exact inductionHypothesis (reduced.handle request operands.1) operands.2

/-- A fraction that a session holds in one of its registers or as accumulator. -/
def Holds (session : Session) (value : Fraction) : Prop :=
  session.accumulator = value ∨ ∃ register, session.registers.get register = value

theorem IsReduced.of_holds {session : Session} (reduced : session.IsReduced) {value : Fraction}
    (held : session.Holds value) : value.IsReduced := by
  rcases held with rfl | ⟨register, rfl⟩
  · exact reduced.accumulator
  · exact reduced.registers register

end Session

end FractionCalculator
