import FractionCalculator.CommandLine.Arguments
import FractionCalculator.Dialogue

/-!
# The program

The program lists the lines of its file, empty ones left out, and then those
among its arguments, and holds a dialogue if it is asked to or if there was no
line. Both share one session. The exit status is zero whatever the lines
answer, one when the file cannot be read as text, and two for a mistake in the
arguments. Where no line is answered, because of a mistake or because help or
the version is asked for, the notice belongs to the reader of arguments, and the
program itself writes nothing.
-/

namespace FractionCalculator

/-- What a program leaves behind when it ends. -/
structure Completion where
  /-- The exit status. -/
  status : Nat
  /-- The bytes that it wrote to standard output. -/
  stdout : Bytes
  /-- The text that it wrote to standard error. -/
  stderr : Text
deriving DecidableEq, Repr

namespace Program

/-- What is left to do once the arguments and the file are read. -/
structure Plan where
  /-- The lines to list. -/
  lines : List Text
  /-- A dialogue follows. -/
  dialogue : Bool
deriving DecidableEq, Repr

/-- The lines of a file: those of its text that are not empty. -/
def fileLines (text : Text) : List Text :=
  (Text.lines text).filter fun line => !line.isEmpty

/-- The plan for the lines of a file and the other arguments. -/
def plan (lines : List Text) (arguments : Arguments) : Plan :=
  let all := lines ++ arguments.expressions
  ⟨all, arguments.dialogue || all.isEmpty⟩

/-- What is said about a file that cannot be read. -/
def unreadable (path : Text) : Text :=
  "Failed to read the input file '".toList ++ path ++
    "'. Perhaps this file does not exist?\n".toList

/-- Carry out a plan. -/
def carryOut (plan : Plan) (stdin : Bytes) : Completion :=
  let listing := Listing.run .unlimited .fresh plan.lines
  if plan.dialogue then
    let dialogue := Dialogue.run .unlimited listing.session ⟨stdin, false⟩
    ⟨0, listing.output ++ dialogue.output, []⟩
  else ⟨0, listing.output, []⟩

/-- Answer the lines that the arguments name. `files` gives the bytes of each
file that can be read. -/
def answer (files : Text → Option Bytes) (stdin : Bytes) (arguments : Arguments) : Completion :=
  match arguments.file with
  | none => carryOut (plan [] arguments) stdin
  | some path =>
    match (files path).bind Utf8.decode? with
    | none => ⟨1, [], unreadable path⟩
    | some text => carryOut (plan (fileLines text) arguments) stdin

/-- Run the program on its arguments. -/
def run (files : Text → Option Bytes) (stdin : Bytes) (arguments : List Text) : Completion :=
  match Arguments.read arguments with
  | .ok arguments => answer files stdin arguments
  | .error stop => ⟨stop.status, [], []⟩

/-! ## Exit status -/

theorem carryOut_eq (plan : Plan) (stdin : Bytes) :
    let listing := Listing.run .unlimited .fresh plan.lines
    let conversation := Dialogue.run .unlimited listing.session ⟨stdin, false⟩
    carryOut plan stdin =
      ⟨0, listing.output ++ if plan.dialogue then conversation.output else [], []⟩ := by
  cases follows : plan.dialogue <;> simp [carryOut, follows]

variable (files : Text → Option Bytes) (stdin : Bytes)

@[simp]
theorem status_carryOut (plan : Plan) : (carryOut plan stdin).status = 0 := by
  rw [carryOut_eq]

theorem status_answer_ne_two (arguments : Arguments) :
    (answer files stdin arguments).status ≠ 2 := by
  unfold answer
  split
  · simp
  · split <;> simp

theorem status_answer_eq_one_iff (arguments : Arguments) :
    (answer files stdin arguments).status = 1 ↔
      ∃ path, arguments.file = some path ∧ (files path).bind Utf8.decode? = none := by
  cases named : arguments.file with
  | none => simp [answer, named]
  | some path =>
      simp only [answer, named, Option.some.injEq, exists_eq_left']
      cases (files path).bind Utf8.decode? <;> simp

/-- A mistake in the arguments, and nothing else, ends in status two. -/
theorem status_run_eq_two_iff (arguments : List Text) :
    (run files stdin arguments).status = 2 ↔ Arguments.read arguments = .error .mistake := by
  cases asked : Arguments.read arguments with
  | ok arguments => simp [run, asked, status_answer_ne_two]
  | error stop => cases stop <;> simp [run, asked, Arguments.Stop.status]

/-- A named file without a text, and nothing else, ends in status one. -/
theorem status_run_eq_one_iff (arguments : List Text) :
    (run files stdin arguments).status = 1 ↔
      ∃ asked path, Arguments.read arguments = .ok asked ∧ asked.file = some path ∧
        (files path).bind Utf8.decode? = none := by
  cases asked : Arguments.read arguments with
  | ok arguments => simp [run, asked, status_answer_eq_one_iff]
  | error stop => cases stop <;> simp [run, asked, Arguments.Stop.status]

end Program

end FractionCalculator
