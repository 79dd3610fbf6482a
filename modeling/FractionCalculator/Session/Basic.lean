import FractionCalculator.Expression
import FractionCalculator.Instruction
import FractionCalculator.Register
import FractionCalculator.Text.Quoted

/-!
# Sessions and reports

A session is what one line leaves for the next: the registers and the
accumulator, which holds the value of the latest expression. Whatever is asked
of a session is answered by a report: the result or the fault, the session left
behind, and the log records written on the way, in order. A record holds values
of the calculator; `toText` writes it as one log line, with its level in front.
-/

namespace FractionCalculator

/-- The registers and the accumulator. -/
@[ext]
structure Session where
  /-- The 26 lettered registers. -/
  registers : Registers
  /-- The running value of the latest expression. -/
  accumulator : Fraction
deriving DecidableEq, Repr

namespace Session

/-- A fresh session holds zero everywhere. -/
def fresh : Session :=
  ⟨Registers.zero, 0⟩

end Session

/-- An event worth a line in the log. -/
inductive Record where
  /-- A step of a fold, noted before it is carried out. -/
  | step (taken : Step)
  /-- An expression with its value. -/
  | value (line : Text) (result : Fraction)
  /-- A register with the value just stored in it. -/
  | stored (content : Fraction) (register : Register)
  /-- A line that failed and why. -/
  | failure (instruction : Instruction) (line : Text) (fault : Fault)
  /-- No line is left to read. -/
  | endOfInput
deriving DecidableEq, Repr

namespace Record

/-- A record as one line of the log. -/
def toText : Record → Text
  | step taken => "TRACE accumulator: ".toList ++ taken.toText
  | value line result => "DEBUG ".toList ++ line ++ " = ".toList ++ result.toText
  | stored content register =>
    "DEBUG stored ".toList ++ content.toText ++ " in register '".toList ++
      register.letter :: "'".toList
  | failure instruction line fault =>
    "WARN ".toList ++ instruction.name ++ '(' :: Text.quote line ++ ") failed: ".toList ++
      fault.message
  | endOfInput => "DEBUG end of input".toList

end Record

/-- The outcome of something asked of a session. -/
@[ext]
structure Report (α : Type) where
  /-- What was asked for, or why there is none. -/
  result : Except Fault α
  /-- The session left behind. -/
  session : Session
  /-- The records written on the way. -/
  log : List Record

namespace Report

variable {α β : Type}

/-- The report of a session that answers without changing. -/
def unchanged (session : Session) (result : Except Fault α) : Report α :=
  ⟨result, session, []⟩

/-- Present a result in another form. -/
def map (present : α → β) (report : Report α) : Report β :=
  ⟨report.result.map present, report.session, report.log⟩

@[simp]
theorem session_map (present : α → β) (report : Report α) :
    (report.map present).session = report.session :=
  rfl

end Report

end FractionCalculator
