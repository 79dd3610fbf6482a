import FractionCalculator.CommandLine.Program

/-!
# The calculator at a terminal

The outermost layer: it reads the file that the arguments name, writes the
listing, and holds a dialogue line by line, so that an answer is written before
the next line is read. What is written is decided by `Program`, `Listing` and
`Dialogue`.
-/

namespace FractionCalculator.Main

/-- Write bytes to standard output at once. -/
def put (bytes : Bytes) : IO Unit := do
  let stdout ← IO.getStdout
  stdout.write ⟨bytes.toArray⟩
  stdout.flush

/-- The bytes of a file, if it can be read. -/
def readFile (path : Text) : IO (Option Bytes) := do
  try
    let bytes ← IO.FS.readBinFile (String.ofList path)
    return some bytes.toList
  catch _ => return none

/-- Read a line with its line feed; no byte is left when it is empty. -/
partial def readLine (stdin : IO.FS.Stream) (line : ByteArray) : IO Bytes := do
  let next ← stdin.read 1
  if next.isEmpty then return line.toList
  else if next.toList = [0x0a] then return (line ++ next).toList
  else readLine stdin (line ++ next)

/-- Hold a dialogue over standard input. -/
partial def converse (stdin : IO.FS.Stream) (session : Session) : IO Unit := do
  put (Utf8.encode Dialogue.prompt)
  let bytes ← readLine stdin ByteArray.empty
  if bytes.isEmpty then return
  match Dialogue.respond? session bytes with
  | none => return
  | some (answer, report) =>
    put (Utf8.encode answer)
    converse stdin report.session

/-- Carry out a plan at the terminal. -/
def carryOut (plan : Program.Plan) : IO UInt32 := do
  let listing := Listing.run .unlimited .fresh plan.lines
  put listing.output
  if plan.dialogue then
    converse (← IO.getStdin) listing.session
  return 0

/-- Answer the lines that the arguments name. -/
def answer (arguments : Arguments) : IO UInt32 := do
  match arguments.file with
  | none => carryOut (Program.plan [] arguments)
  | some path =>
    match (← readFile path).bind Utf8.decode? with
    | none =>
      IO.eprint (String.ofList (Program.unreadable path))
      return 1
    | some text => carryOut (Program.plan (Program.fileLines text) arguments)

end FractionCalculator.Main

open FractionCalculator in
/-- Run the calculator on its arguments. -/
def main (arguments : List String) : IO UInt32 := do
  match Arguments.read (arguments.map String.toList) with
  | .ok arguments => Main.answer arguments
  | .error stop => return stop.status.toUInt32
