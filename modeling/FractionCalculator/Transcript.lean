import FractionCalculator.Session.Execute
import FractionCalculator.Text.Utf8

/-!
# Transcripts and listings

A transcript is the record of a whole run of a front end: the bytes written, the
way the run ended, the session left behind and the log. An output may have room
for a limited number of bytes. A write that does not fit writes what it can and
ends the run; a write of no bytes always fits.

A listing executes a given list of lines and writes one line for each: the line
itself and, beside it, its answer. Lines are taken as they are, blanks included,
and a failed line does not keep the next one from being executed.
-/

namespace FractionCalculator

/-- How much an output still takes. -/
inductive Room where
  /-- Any number of bytes. -/
  | unlimited
  /-- So many bytes and no more. -/
  | bytes (left : Nat)
deriving DecidableEq, Repr

namespace Room

/-- The part of some bytes that an output takes. -/
def accept : Room → Bytes → Bytes
  | unlimited, text => text
  | bytes left, text => text.take left

/-- The room left after some bytes, if all of them fit. -/
def after? : Room → Bytes → Option Room
  | unlimited, _ => some unlimited
  | bytes left, text =>
    if text.length ≤ left then some (bytes (left - text.length)) else none

end Room

/-- Why a run ended. -/
inductive Ending where
  /-- There was nothing more to do. -/
  | finished
  /-- The output had no room for what was to be written. -/
  | writeFailed
  /-- The input failed before it ended. -/
  | readFailed
deriving DecidableEq, Repr

/-- A run of a front end. -/
@[ext]
structure Transcript where
  /-- The bytes that the output took. -/
  output : Bytes
  /-- Why the run ended. -/
  ending : Ending
  /-- The session left behind. -/
  session : Session
  /-- The records written on the way. -/
  log : List Record
deriving DecidableEq, Repr

namespace Transcript

/-- A run that ends without writing or logging anything more. -/
def stop (ending : Ending) (session : Session) : Transcript :=
  ⟨[], ending, session, []⟩

/-- Write a text and go on in the room left, or end where the room ends. -/
def write (room : Room) (session : Session) (text : Text) (next : Room → Transcript) :
    Transcript :=
  let bytes := Utf8.encode text
  match room.after? bytes with
  | none => ⟨room.accept bytes, .writeFailed, session, []⟩
  | some left =>
    let later := next left
    { later with output := bytes ++ later.output }

/-- Put earlier records in front of the log of a run. -/
def logged (log : List Record) (later : Transcript) : Transcript :=
  { later with log := log ++ later.log }

end Transcript

namespace Listing

/-- The line that a listing writes for an executed line. -/
def entry (line : Text) : Except Fault Answer → Text
  | .ok (.value value) => line ++ " -> ".toList ++ value.toText ++ ['\n']
  | .ok (.stored _) => line ++ " -> STORED\n".toList
  | .error fault => line ++ ": FAILED [".toList ++ fault.summary ++ "]\n".toList

/-- Execute lines in order and write an entry for each. -/
def run : Room → Session → List Text → Transcript
  | _, session, [] => .stop .finished session
  | room, session, line :: rest =>
    let report := session.execute line
    .logged report.log <|
      .write room report.session (entry line report.result) fun left =>
        run left report.session rest

end Listing

end FractionCalculator
