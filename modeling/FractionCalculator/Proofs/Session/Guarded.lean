import FractionCalculator.Proofs.Session.LowestTerms

/-!
# Guarded sessions

`Fraction.reduce` divides by whatever greatest common divisor it finds, and a
denominator of zero is not turned away. The guarded reduction is the same
algorithm with these two gaps closed: it has no result for a zero denominator
or for a division that is not exact. Guarded arithmetic, guarded lines and
guarded runs are written with it in place of `Fraction.reduce`, and an absent
result propagates through all of them.

A guarded session thus comes to an end at the first bad reduction on its way.
Sessions in lowest terms never get there: each guarded operation has a result,
and it is the result of the operation without guards.
-/

namespace FractionCalculator.Guarded

/-! ## Arithmetic -/

/-- The quotient of a division that is exact and not by zero. -/
def divideExactly (dividend divisor : Int) : Option Int :=
  if divisor ≠ 0 ∧ divisor ∣ dividend then some (dividend / divisor) else none

/-- The lowest terms of `num / den`, computed as `Fraction.reduce` does. -/
def reduce (num den : Int) : Option Fraction :=
  let signed := if den < 0 then -num else num
  let divisor := signed.gcd den.natAbs
  if den = 0 then none
  else if divisor = 1 then some ⟨signed, den.natAbs⟩
  else do
    let above ← divideExactly signed divisor
    let below ← divideExactly den.natAbs divisor
    return ⟨above, below.toNat⟩

def add (left right : Fraction) : Option Fraction :=
  reduce (left.num * right.den + right.num * left.den) (left.den * right.den)

def sub (left right : Fraction) : Option Fraction :=
  reduce (left.num * right.den - right.num * left.den) (left.den * right.den)

def mul (left right : Fraction) : Option Fraction :=
  reduce (left.num * right.num) (left.den * right.den)

/-- A zero divisor is a fault of the division and not a bad reduction. -/
def div (left right : Fraction) : Option (Except Fault Fraction) :=
  if right.isZero then some (.error .divisionByZero)
  else do
    let ratio ← reduce (left.num * right.den) (left.den * right.num)
    return .ok ratio

def ofInts (num den : Int) : Option (Except Fault Fraction) :=
  if den = 0 then some (.error .divisionByZero)
  else do
    let value ← reduce num den
    return .ok value

/-- The fraction that a text writes. -/
def ofText (text : Text) : Option (Except Fault Fraction) :=
  match text.dropWhile (· ≠ '/') with
  | [] =>
    match Decimal.read? text with
    | some value => some (.ok (.ofInt value))
    | none => some (.error (.notFraction text))
  | _ :: below =>
    match Decimal.read? (text.takeWhile (· ≠ '/')), Decimal.read? below with
    | some num, some den => ofInts num den
    | _, _ => some (.error (.notFraction text))

/-- The value of `left operator right`. -/
def apply (operator : Operator) (left right : Fraction) : Option (Except Fault Fraction) :=
  match operator with
  | .add => (add left right).map .ok
  | .sub => (sub left right).map .ok
  | .mul => (mul left right).map .ok
  | .div => div left right

theorem divideExactly_eq {dividend divisor : Int} (nonzero : divisor ≠ 0)
    (divides : divisor ∣ dividend) :
    divideExactly dividend divisor = some (dividend / divisor) := by
  simp [divideExactly, nonzero, divides]

/-- A reduction fails its guards for a zero denominator only: the greatest
common divisor of any other fraction is positive and divides both sides. -/
theorem reduce_eq (num den : Int) :
    reduce num den = if den = 0 then none else some (Fraction.reduce num den) := by
  by_cases zero : den = 0
  · simp [reduce, zero]
  · simp only [reduce, Fraction.reduce, zero, if_false]
    generalize (if den < 0 then -num else num) = signed
    have positive : (signed.gcd den.natAbs : Int) ≠ 0 := by
      rw [ne_eq, Int.natCast_eq_zero, Int.gcd_eq_zero_iff]
      omega
    have above := divideExactly_eq positive (Int.gcd_dvd_left signed den.natAbs)
    have below := divideExactly_eq positive (Int.gcd_dvd_right signed den.natAbs)
    split
    · rfl
    · rw [above, below]
      rfl

/-- The operands of a reduction are what decides about its guards. -/
theorem reduce_of_ne_zero (num : Int) {den : Int} (nonzero : den ≠ 0) :
    reduce num den = some (Fraction.reduce num den) := by
  rw [reduce_eq, if_neg nonzero]

theorem ofInts_eq (num den : Int) : ofInts num den = some (Fraction.ofInts num den) := by
  by_cases zero : den = 0
  · simp [ofInts, Fraction.ofInts, Fraction.ofInts?, zero]
  · simp [ofInts, Fraction.ofInts, Fraction.ofInts?, zero, reduce_of_ne_zero num zero]

theorem ofText_eq (text : Text) : ofText text = some (Fraction.ofText text) := by
  rw [ofText, Fraction.ofText]
  cases text.dropWhile (· ≠ '/') with
  | nil => cases Decimal.read? text <;> rfl
  | cons slash below =>
      dsimp only
      cases Decimal.read? (text.takeWhile (· ≠ '/')) with
      | none => rfl
      | some num =>
          cases Decimal.read? below with
          | none => rfl
          | some den => exact ofInts_eq num den

/-- Lowest terms on both sides give every operator a nonzero denominator to
reduce by; a division tests its divisor itself. -/
theorem apply_eq (operator : Operator) {left right : Fraction} (first : left.IsReduced)
    (second : right.IsReduced) : apply operator left right = some (operator.apply left right) := by
  have product := first.den_mul_ne_zero second
  cases operator with
  | add => simp only [apply, add, reduce_of_ne_zero _ product, Option.map_some]; rfl
  | sub => simp only [apply, sub, reduce_of_ne_zero _ product, Option.map_some]; rfl
  | mul => simp only [apply, mul, reduce_of_ne_zero _ product, Option.map_some]; rfl
  | div =>
      by_cases zero : right.isZero = true
      · simp [apply, div, Operator.apply, Fraction.div, Fraction.div?, zero]
      · have below := first.den_mul_num_ne_zero (mt (Fraction.isZero_iff right).mpr zero)
        simp [apply, div, Operator.apply, Fraction.div, Fraction.div?, zero,
          reduce_of_ne_zero _ below]

/-! ## Folds -/

/-- The value of a word in operand position. Reading a literal is the only kind
of word that computes. -/
def operand (registers : Registers) (word : Text) : Option (Except Fault Fraction) :=
  match Token.ofWord? word with
  | some (.literal spelling) => do
    match ← ofText spelling with
    | .ok value => return .ok value
    | .error .divisionByZero => return .error .divisionByZero
    | .error _ => return .error (.notToken word)
  | _ => some (registers.operand word)

/-- One pair of an operator word and an operand word. -/
def step (registers : Registers) (value : Fraction) (operator right : Text) :
    Option (Except Fault Step) := do
  match ← operand registers right with
  | .error fault => return .error fault
  | .ok right =>
    match Operator.ofWord operator with
    | .error fault => return .error fault
    | .ok operator => return .ok ⟨value, operator, right⟩

/-- Fold pairs of words into a running value. -/
def fold (registers : Registers) : Fraction → List Text → Option Progress
  | value, [] => some ⟨value, [], none⟩
  | value, [word] => some ⟨value, [], some (.lacksOperand word)⟩
  | value, operator :: right :: rest => do
    match ← step registers value operator right with
    | .error fault => return ⟨value, [], some fault⟩
    | .ok step =>
      match ← apply step.operator step.left step.right with
      | .error fault => return ⟨value, [step], some fault⟩
      | .ok next =>
        let progress ← fold registers next rest
        return ⟨progress.value, step :: progress.steps, progress.fault⟩

theorem operand_eq (registers : Registers) (word : Text) :
    operand registers word = some (registers.operand word) := by
  rw [operand, Registers.operand]
  split
  · rename_i spelling found
    simp only [ofText_eq, found, Option.bind_eq_bind, Option.bind_some]
    cases Fraction.ofText spelling with
    | ok value => rfl
    | error fault => cases fault <;> rfl
  · rfl

theorem step_eq (registers : Registers) (value : Fraction) (operator right : Text) :
    step registers value operator right = some (registers.step value operator right) := by
  rw [step, Registers.step]
  simp only [operand_eq, Option.bind_eq_bind, Option.bind_some]
  cases registers.operand right with
  | error fault => rfl
  | ok right => cases Operator.ofWord operator <;> rfl

/-- Each running value of a fold is in lowest terms when its pair is applied. -/
theorem fold_eq {registers : Registers} (reduced : registers.IsReduced) {value : Fraction}
    (start : value.IsReduced) (words : List Text) :
    fold registers value words = some (registers.fold value words) := by
  induction value, words using Registers.fold.induct registers with
  | case1 value => rfl
  | case2 value word => rfl
  | case3 value operator operand rest fault refused =>
      simp only [fold, Registers.fold, step_eq, refused, Option.bind_eq_bind, Option.bind_some]
      rfl
  | case4 value operator operand rest step taken fault failed =>
      rcases reduced.of_step_eq_ok taken with ⟨rfl, right⟩
      have applied := apply_eq step.operator start right
      rw [← Step.result, failed] at applied
      simp only [fold, Registers.fold, step_eq, taken, applied, failed, Option.bind_eq_bind,
        Option.bind_some]
      rfl
  | case5 value operator operand rest step taken next result inductionHypothesis =>
      rcases reduced.of_step_eq_ok taken with ⟨rfl, right⟩
      have applied := apply_eq step.operator start right
      rw [← Step.result, result] at applied
      have later := inductionHypothesis (reduced.of_result_eq_ok start taken result)
      simp only [fold, Registers.fold, step_eq, taken, applied, result, later,
        Option.bind_eq_bind, Option.bind_some]
      rfl

/-! ## Lines -/

def evaluateWords (session : Session) (line : Text) : List Text → Option (Report Fraction)
  | [] => some (.unchanged session (.error .empty))
  | first :: rest => do
    match ← operand session.registers first with
    | .error fault => return .unchanged session (.error fault)
    | .ok value =>
      let start ← add 0 value
      let progress ← fold session.registers start rest
      return session.conclude line progress

/-- Evaluate a line as an expression. -/
def evaluate (session : Session) (line : Text) : Option (Report Fraction) :=
  if line = [] then some (.unchanged session (.error .empty))
  else if Text.endsInOperator line then
    some (.unchanged session (.error (.endsInOperator line)))
  else evaluateWords session line (Text.words line)

/-- Carry out the instruction of a line and note its failure. Storing copies a
fraction and computes nothing. -/
def execute (session : Session) (line : Text) : Option (Report Answer) := do
  let report ←
    match Instruction.ofLine line with
    | .store => some ((session.store line).map .stored)
    | .evaluate => (evaluate session line).map (·.map .value)
  return report.noted line

/-- Change the accumulator by an operator. -/
def combine (session : Session) (operator : Operator) (right : Fraction) :
    Option (Report Fraction) := do
  match ← apply operator session.accumulator right with
  | .error fault => return .unchanged session (.error fault)
  | .ok value => return .unchanged ⟨session.registers, value⟩ (.ok value)

section

variable {session : Session} (reduced : session.IsReduced)
include reduced

theorem evaluateWords_eq (line : Text) (words : List Text) :
    evaluateWords session line words = some (session.evaluateWords line words) := by
  cases words with
  | nil => rfl
  | cons first rest =>
      simp only [evaluateWords, Session.evaluateWords, operand_eq, Option.bind_eq_bind,
        Option.bind_some]
      cases resolved : session.registers.operand first with
      | error fault => rfl
      | ok value =>
          have valueReduced := reduced.registers.of_operand_eq_ok resolved
          have started : add 0 value = some (0 + value) :=
            reduce_of_ne_zero _ ((Fraction.isReduced_ofInt 0).den_mul_ne_zero valueReduced)
          have folded := fold_eq reduced.registers (reduced.first resolved) rest
          simp only [started, folded, Option.bind_some]
          rfl

theorem evaluate_eq (line : Text) : evaluate session line = some (session.evaluate line) := by
  rw [evaluate, Session.evaluate]
  split
  · rfl
  · split
    · rfl
    · exact evaluateWords_eq reduced line _

theorem execute_eq (line : Text) : execute session line = some (session.execute line) := by
  rw [execute, Session.execute, Session.perform]
  cases Instruction.ofLine line with
  | store => rfl
  | evaluate =>
      simp only [evaluate_eq reduced, Option.map_some]
      rfl

theorem combine_eq (operator : Operator) {right : Fraction} (rightReduced : right.IsReduced) :
    combine session operator right = some (session.combine operator right) := by
  simp only [combine, Session.combine, apply_eq operator reduced.accumulator rightReduced,
    Option.bind_eq_bind, Option.bind_some]
  cases operator.apply session.accumulator right <;> rfl

end

/-! ## Runs of the front ends -/

/-- Write a text and go on in the room left, or end where the room ends. -/
def write (room : Room) (session : Session) (text : Text) (next : Room → Option Transcript) :
    Option Transcript :=
  let bytes := Utf8.encode text
  match room.after? bytes with
  | none => some ⟨room.accept bytes, .writeFailed, session, []⟩
  | some left => do
    let later ← next left
    return { later with output := bytes ++ later.output }

/-- Execute lines in order and write an entry for each. -/
def listing : Room → Session → List Text → Option Transcript
  | _, session, [] => some (.stop .finished session)
  | room, session, line :: rest => do
    let report ← execute session line
    let later ← write room report.session (Listing.entry line report.result) fun left =>
      listing left report.session rest
    return .logged report.log later

/-- Answer the lines that can be read, after which the input ends or fails. -/
def converse (fails : Bool) : Room → Session → List Bytes → Option Transcript
  | room, session, [] =>
    some (Dialogue.converse fails room session [])
  | room, session, bytes :: rest =>
    write room session Dialogue.prompt fun left =>
      let line := Dialogue.lineOfBytes bytes
      if Dialogue.isQuit line then some (.stop .finished session)
      else do
        let report ← execute session line
        let later ← write left report.session (Dialogue.answer line report.result) fun left =>
          converse fails left report.session rest
        return .logged report.log later

theorem write_eq {room : Room} {session : Session} {text : Text}
    {next : Room → Option Transcript} {unguarded : Room → Transcript}
    (agree : ∀ left, next left = some (unguarded left)) :
    write room session text next = some (Transcript.write room session text unguarded) := by
  simp only [write, Transcript.write]
  cases room.after? (Utf8.encode text) with
  | none => rfl
  | some left =>
      simp only [agree left, Option.bind_eq_bind, Option.bind_some]
      rfl

theorem listing_eq {session : Session} (reduced : session.IsReduced) (room : Room)
    (lines : List Text) : listing room session lines = some (Listing.run room session lines) := by
  induction lines generalizing room session with
  | nil => rfl
  | cons line rest inductionHypothesis =>
      have later := inductionHypothesis (reduced.execute line)
      simp only [listing, execute_eq reduced, Option.bind_eq_bind, Option.bind_some,
        write_eq later]
      rfl

theorem converse_eq {session : Session} (reduced : session.IsReduced) (fails : Bool) (room : Room)
    (lines : List Bytes) :
    converse fails room session lines = some (Dialogue.converse fails room session lines) := by
  induction lines generalizing room session with
  | nil => rfl
  | cons bytes rest inductionHypothesis =>
      have later := inductionHypothesis (reduced.execute (Dialogue.lineOfBytes bytes))
      refine write_eq fun left => ?_
      simp only [Dialogue.respond?]
      split
      · rfl
      · simp only [execute_eq reduced, Option.bind_eq_bind, Option.bind_some, write_eq later]
        rfl

/-! ## Requests -/

/-- Answer a request. The requests not named here only copy fractions. -/
def handle (session : Session) : Request → Option (Report Reply)
  | .execute line => (execute session line).map (·.map Reply.ofAnswer)
  | .evaluate line => (evaluate session line).map (·.map .value)
  | .combine operator right => (combine session operator right).map (·.map .value)
  | .step operator right => do
    let report ← combine session operator right
    return { report.map Reply.value with log := [.step ⟨session.accumulator, operator, right⟩] }
  | .listing room lines => (listing room session lines).map Session.ofTranscript
  | .dialogue room input =>
    (converse input.fails room session input.lines).map Session.ofTranscript
  | request => some (session.handle request)

/-- The session that requests leave behind, one after the other. -/
def afterAll (session : Session) (requests : List Request) : Option Session :=
  requests.foldlM (fun session request => (handle session request).map (·.session)) session

/-- A request to a session in lowest terms passes all guards on its way. -/
theorem handle_eq {session : Session} (reduced : session.IsReduced) (request : Request)
    (operands : ∀ operand ∈ request.operand?, operand.IsReduced) :
    handle session request = some (session.handle request) := by
  cases request with
  | execute line => simp only [handle, execute_eq reduced, Option.map_some, Session.handle]
  | evaluate line => simp only [handle, evaluate_eq reduced, Option.map_some, Session.handle]
  | combine operator right =>
      simp only [handle, combine_eq reduced operator (operands right rfl), Option.map_some,
        Session.handle]
  | step operator right =>
      simp only [handle, combine_eq reduced operator (operands right rfl), Option.bind_eq_bind,
        Option.bind_some, Session.handle]
      rfl
  | listing room lines => simp only [handle, listing_eq reduced, Option.map_some, Session.handle]
  | dialogue room input =>
      simp only [handle, converse_eq reduced, Option.map_some, Session.handle]
      rfl
  | _ => rfl

/-- Requests pass all guards one after the other, since each of them leaves
lowest terms for the next. -/
theorem afterAll_eq {session : Session} (reduced : session.IsReduced) (requests : List Request)
    (operands : ∀ request ∈ requests, ∀ operand ∈ request.operand?, operand.IsReduced) :
    afterAll session requests = some (session.afterAll requests) := by
  induction requests generalizing session with
  | nil => rfl
  | cons request rest inductionHypothesis =>
      rw [List.forall_mem_cons] at operands
      have handled := handle_eq reduced request operands.1
      have later := inductionHypothesis (reduced.handle request operands.1) operands.2
      simp only [afterAll, List.foldlM_cons, handled, Option.map_some, Option.bind_eq_bind,
        Option.bind_some]
      exact later

end FractionCalculator.Guarded

namespace FractionCalculator.Session

/-- Whatever is asked of a fresh session, all that it holds afterwards is in
lowest terms, zero as `0/1`, and no reduction on the way divides by zero or with
a remainder. Neither does one that builds the operands of the requests. -/
theorem isReduced_and_guarded_afterAll (requests : List Request)
    (built : ∀ request ∈ requests, ∀ operand ∈ request.operand?, operand.IsBuilt) :
    (∀ value, (fresh.afterAll requests).Holds value →
        value.IsReduced ∧ (value.num = 0 → value = 0)) ∧
      Guarded.afterAll fresh requests = some (fresh.afterAll requests) ∧
      (∀ num den, Guarded.ofInts num den = some (Fraction.ofInts num den)) ∧
      ∀ text, Guarded.ofText text = some (Fraction.ofText text) := by
  have operands : ∀ request ∈ requests, ∀ operand ∈ request.operand?, operand.IsReduced :=
    fun request member operand brought => (built request member operand brought).isReduced
  refine ⟨?_, Guarded.afterAll_eq isReduced_fresh requests operands, Guarded.ofInts_eq,
    Guarded.ofText_eq⟩
  intro value held
  have reduced := (isReduced_fresh.afterAll requests operands).of_holds held
  exact ⟨reduced, reduced.eq_zero_of_num_eq_zero⟩

/-- Two written registers, a line that fails at its second step, a division by a
negative fraction, and runs of both front ends with failing lines. -/
theorem isReduced_and_guarded_afterAll_two_ninths :
    let requests : List Request :=
      [.write 'c' ⟨-1, 2⟩, .write 'd' (.ofInt 0), .execute "c - 1/6 / d".toList,
        .combine .div ⟨-3, 1⟩, .listing .unlimited ["STORE e".toList, "1 / 0".toList],
        .dialogue (.bytes 12) ⟨Utf8.encode "c * 4/-9\nc * 4/9\nquit".toList, true⟩]
    (∀ request ∈ requests, ∀ operand ∈ request.operand?, operand.IsBuilt) ∧
      (fresh.afterAll requests).registers.get ⟨4⟩ = ⟨2, 9⟩ ∧
      (∀ value, (fresh.afterAll requests).Holds value →
        value.IsReduced ∧ (value.num = 0 → value = 0)) ∧
      Guarded.afterAll fresh requests = some (fresh.afterAll requests) := by
  intro requests
  have half : Fraction.ofInts 3 (-6) = .ok ⟨-1, 2⟩ := rfl
  have three : Fraction.ofText "6/-2".toList = .ok ⟨-3, 1⟩ := rfl
  have built : ∀ request ∈ requests, ∀ operand ∈ request.operand?, operand.IsBuilt := by
    simp [requests, Request.operand?, Fraction.IsBuilt.ofInts half,
      Fraction.IsBuilt.ofText three, Fraction.IsBuilt.ofInt]
  have outcome := isReduced_and_guarded_afterAll requests built
  exact ⟨built, rfl, outcome.1, outcome.2.1⟩

end FractionCalculator.Session
