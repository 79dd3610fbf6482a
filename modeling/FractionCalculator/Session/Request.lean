import FractionCalculator.Dialogue
import FractionCalculator.Transcript

/-!
# Requests

Everything that can be asked of a session: lines and whole runs of a front end,
and the direct use of a register or of the accumulator. `Session.handle` answers
one request and `Session.afterAll` is the session that a sequence of requests
leaves, whether they succeed or fail.
-/

namespace FractionCalculator

/-- What can be asked of a session. -/
inductive Request where
  /-- Execute a line. -/
  | execute (line : Text)
  /-- Evaluate a line as an expression, whatever it looks like. -/
  | evaluate (line : Text)
  /-- Carry out a line as a store line, whatever it looks like. -/
  | store (line : Text)
  /-- Write a register. -/
  | write (name : Char) (value : Fraction)
  /-- Read a register. -/
  | read (name : Char)
  /-- Read the accumulator. -/
  | current
  /-- Set the accumulator to zero. -/
  | reset
  /-- Change the accumulator by an operator and leave no record. -/
  | combine (operator : Operator) (operand : Fraction)
  /-- Change the accumulator by an operator as a fold does, with a record. -/
  | step (operator : Operator) (operand : Fraction)
  /-- Run a listing. -/
  | listing (room : Room) (lines : List Text)
  /-- Run a dialogue. -/
  | dialogue (room : Room) (input : Input)
deriving DecidableEq, Repr

/-- What a request that succeeds is answered with. -/
inductive Reply where
  /-- A fraction. -/
  | value (value : Fraction)
  /-- The register that was written from the accumulator. -/
  | stored (register : Register)
  /-- A register was written. -/
  | written
  /-- The output of a run and how the run ended. -/
  | output (output : Bytes) (ending : Ending)
deriving DecidableEq, Repr

namespace Reply

/-- The reply to an executed line. -/
def ofAnswer : Answer → Reply
  | .value result => value result
  | .stored register => stored register

end Reply

namespace Session

/-- Change the accumulator by an operator. A division by zero leaves it. -/
def combine (session : Session) (operator : Operator) (operand : Fraction) : Report Fraction :=
  match operator.apply session.accumulator operand with
  | .error fault => .unchanged session (.error fault)
  | .ok value => .unchanged ⟨session.registers, value⟩ (.ok value)

/-- The report of a whole run. -/
def ofTranscript (transcript : Transcript) : Report Reply :=
  ⟨.ok (.output transcript.output transcript.ending), transcript.session, transcript.log⟩

/-- Answer a request. -/
def handle (session : Session) : Request → Report Reply
  | .execute line => (session.execute line).map Reply.ofAnswer
  | .evaluate line => (session.evaluate line).map .value
  | .store line => (session.store line).map .stored
  | .write name value =>
    match Register.ofChar name with
    | .error fault => .unchanged session (.error fault)
    | .ok register =>
      .unchanged ⟨session.registers.set register value, session.accumulator⟩ (.ok .written)
  | .read name =>
    .unchanged session
      ((Register.ofChar name).map fun register => .value (session.registers.get register))
  | .current => .unchanged session (.ok (.value session.accumulator))
  | .reset => .unchanged ⟨session.registers, 0⟩ (.ok (.value 0))
  | .combine operator operand => (session.combine operator operand).map .value
  | .step operator operand =>
    { (session.combine operator operand).map Reply.value with
      log := [.step ⟨session.accumulator, operator, operand⟩] }
  | .listing room lines => ofTranscript (Listing.run room session lines)
  | .dialogue room input => ofTranscript (Dialogue.run room session input)

/-- The session that requests leave behind, one after the other. -/
def afterAll (session : Session) (requests : List Request) : Session :=
  requests.foldl (fun session request => (session.handle request).session) session

end Session

end FractionCalculator
