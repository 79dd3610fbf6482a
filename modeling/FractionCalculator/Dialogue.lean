import FractionCalculator.Text.Basic
import FractionCalculator.Transcript

/-!
# Dialogues

A dialogue prompts, reads a line, answers it and prompts again, until it reads
`QUIT` in capitals or small letters or the input ends. A line is taken without
the blanks around it, and bytes that encode no text are replaced, so that they
make a bad line and not the end of the dialogue. An input may fail where it
should end; then the rest after its last line feed is lost.
-/

namespace FractionCalculator

/-- What a dialogue reads. -/
structure Input where
  /-- The bytes that can be read. -/
  bytes : Bytes
  /-- Reading fails after the bytes instead of reporting their end. -/
  fails : Bool
deriving DecidableEq, Repr

namespace Input

/-- Bytes cut after each line feed, and the rest after the last one. -/
def cut : Bytes → List Bytes × Bytes
  | [] => ([], [])
  | byte :: bytes =>
    let (lines, rest) := cut bytes
    if byte = 0x0a then ([byte] :: lines, rest)
    else
      match lines with
      | [] => ([], byte :: rest)
      | line :: later => ((byte :: line) :: later, rest)

/-- Cutting loses nothing. -/
theorem cut_flatten (bytes : Bytes) : (cut bytes).1.flatten ++ (cut bytes).2 = bytes := by
  induction bytes with
  | nil => rfl
  | cons byte bytes inductionHypothesis =>
    rcases found : cut bytes with ⟨lines, rest⟩
    rw [found] at inductionHypothesis
    by_cases feed : byte = 0x0a
    · simp_all [cut]
    · cases lines with
      | nil => simp_all [cut]
      | cons line later => simp_all [cut]

/-- Bytes without a rest after their last line feed are cut apart from what
follows them. -/
theorem cut_append {before : Bytes} (complete : (cut before).2 = []) (after : Bytes) :
    cut (before ++ after) = ((cut before).1 ++ (cut after).1, (cut after).2) := by
  induction before with
  | nil => rfl
  | cons byte before inductionHypothesis =>
    rcases found : cut before with ⟨lines, rest⟩
    rw [found] at inductionHypothesis
    by_cases feed : byte = 0x0a
    · have rest_nil : rest = [] := by simpa [cut, found, feed] using complete
      simp [cut, found, feed, inductionHypothesis rest_nil]
    · cases lines with
      | nil => simp [cut, found, feed] at complete
      | cons line later =>
        have rest_nil : rest = [] := by simpa [cut, found, feed] using complete
        simp [cut, found, feed, inductionHypothesis rest_nil]

/-- The lines that can be read from an input, each with its line feed. The rest
after the last line feed is a line if the input ends in order. -/
def lines (input : Input) : List Bytes :=
  let (complete, rest) := cut input.bytes
  if input.fails ∨ rest = [] then complete else complete ++ [rest]

end Input

namespace Dialogue

/-- What is written before a line is read. -/
def prompt : Text :=
  "> ".toList

/-- A line as it is executed. -/
def lineOfBytes (bytes : Bytes) : Text :=
  Text.trim (Utf8.decodeLossy bytes)

/-- A line that ends the dialogue. -/
def isQuit (line : Text) : Bool :=
  line.map Char.toUpper == "QUIT".toList

/-- The line that a dialogue answers to an executed line. A failed store is
answered alike whatever the fault. -/
def answer (line : Text) : Except Fault Answer → Text
  | .ok (.value value) => value.toText ++ ['\n']
  | .ok (.stored _) => "STORED\n".toList
  | .error fault =>
    match Instruction.ofLine line with
    | .store => "*** ERROR [STORE command received invalid register] ***\n".toList
    | .evaluate => "*** ERROR [".toList ++ fault.summary ++ "] ***\n".toList

/-- The answer to a line as it was read and the report behind it, unless the
line ends the dialogue. -/
def respond? (session : Session) (bytes : Bytes) : Option (Text × Report Answer) :=
  let line := lineOfBytes bytes
  if isQuit line then none
  else
    let report := session.execute line
    some (answer line report.result, report)

/-- Answer the lines that can be read, after which the input ends or fails. -/
def converse (fails : Bool) : Room → Session → List Bytes → Transcript
  | room, session, [] =>
    .write room session prompt fun _ =>
      if fails then .stop .readFailed session
      else .logged [.endOfInput] (.stop .finished session)
  | room, session, bytes :: rest =>
    .write room session prompt fun left =>
      match respond? session bytes with
      | none => .stop .finished session
      | some (answer, report) =>
        .logged report.log <|
          .write left report.session answer fun left =>
            converse fails left report.session rest

/-- Hold a dialogue over an input. -/
def run (room : Room) (session : Session) (input : Input) : Transcript :=
  converse input.fails room session input.lines

end Dialogue

end FractionCalculator
