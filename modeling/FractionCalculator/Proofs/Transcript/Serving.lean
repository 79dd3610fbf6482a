import FractionCalculator.Proofs.Session.Executions
import FractionCalculator.Text.Utf8.Lemmas
import FractionCalculator.Transcript

/-!
# Answering lines one by one

To serve lines is to execute them in order and to write a text for each before
the next one is executed. Both front ends do this and differ only in the text.
What the output takes, how the run ends and which lines are executed follows
from the texts alone: a line is executed exactly when the texts of all lines
before it fit, and the cut may fall anywhere inside a text. `serve_eq` gives the
whole transcript, whatever the room.
-/

namespace FractionCalculator

/-! ## Room for several texts -/

namespace Room

/-- All of some bytes fit. -/
def fits (room : Room) (text : Bytes) : Bool :=
  (room.after? text).isSome

theorem after?_bytes (left : Nat) (text : Bytes) :
    (bytes left).after? text =
      if text.length ≤ left then some (bytes (left - text.length)) else none :=
  rfl

@[simp]
theorem fits_unlimited (text : Bytes) : unlimited.fits text = true :=
  rfl

@[simp]
theorem fits_bytes (left : Nat) (text : Bytes) :
    (bytes left).fits text = decide (text.length ≤ left) := by
  rw [fits, after?_bytes]
  by_cases whole : text.length ≤ left <;> simp [whole]

@[simp]
theorem accept_unlimited (text : Bytes) : unlimited.accept text = text :=
  rfl

@[simp]
theorem accept_nil (room : Room) : room.accept [] = [] := by
  cases room with
  | unlimited => rfl
  | bytes left => exact List.take_nil

@[simp]
theorem fits_nil (room : Room) : room.fits [] = true := by
  cases room <;> simp

/-- Two texts fit when the second one fits behind the first. -/
theorem after?_append (room : Room) (first second : Bytes) :
    room.after? (first ++ second) = (room.after? first).bind fun left => left.after? second := by
  cases room with
  | unlimited => rfl
  | bytes left =>
      rw [after?_bytes, after?_bytes, List.length_append]
      by_cases fitsFirst : first.length ≤ left
      · rw [if_pos fitsFirst, Option.bind_some, after?_bytes]
        by_cases fitsSecond : second.length ≤ left - first.length
        · rw [if_pos (by omega), if_pos fitsSecond, Nat.sub_sub]
        · rw [if_neg (by omega), if_neg fitsSecond]
      · rw [if_neg (by omega), if_neg fitsFirst, Option.bind_none]

section

variable {room left : Room} {first : Bytes}

/-- Behind a text that fits, the rest of the room takes the next one. -/
theorem accept_append_of_some (whole : room.after? first = some left) (second : Bytes) :
    room.accept (first ++ second) = first ++ left.accept second := by
  cases room with
  | unlimited =>
      cases whole
      rfl
  | bytes size =>
      rw [after?_bytes] at whole
      split at whole
      · rename_i fitsFirst
        cases whole
        rw [accept, accept, List.take_append, List.take_of_length_le fitsFirst]
      · contradiction

/-- Nothing is taken behind a text that does not fit. -/
theorem accept_append_of_none (full : room.after? first = none) (second : Bytes) :
    room.accept (first ++ second) = room.accept first := by
  cases room with
  | unlimited => contradiction
  | bytes size =>
      rw [after?_bytes] at full
      split at full
      · contradiction
      · rw [accept, accept, List.take_append_of_le_length (by omega)]

theorem fits_append_of_some (whole : room.after? first = some left) (second : Bytes) :
    room.fits (first ++ second) = left.fits second := by
  rw [fits, after?_append, whole, Option.bind_some, fits]

theorem fits_append_of_none (full : room.after? first = none) (second : Bytes) :
    room.fits (first ++ second) = false := by
  rw [fits, after?_append, full, Option.bind_none, Option.isSome_none]

end

/-- How a run ends that is to write some bytes and then to end in a given way. -/
def ending (room : Room) (text : Bytes) (proper : Ending) : Ending :=
  if room.fits text then proper else .writeFailed

theorem ending_bytes_eq_writeFailed_iff (limit : Nat) (text : Bytes) {proper : Ending}
    (noFailure : proper ≠ .writeFailed) :
    (bytes limit).ending text proper = .writeFailed ↔ limit < text.length := by
  rw [ending, fits_bytes]
  by_cases whole : text.length ≤ limit <;> simp [whole, noFailure, Nat.lt_of_not_le]

theorem ending_bytes_eq_iff (limit : Nat) (text : Bytes) (proper : Ending) {other : Ending}
    (noFailure : other ≠ .writeFailed) :
    (bytes limit).ending text proper = other ↔ text.length ≤ limit ∧ proper = other := by
  rw [ending, fits_bytes]
  by_cases whole : text.length ≤ limit <;> simp [whole, noFailure.symm]

/-- Of texts that are written one after the other, the number of those that are
begun: the last of them may be cut. -/
def begun (room : Room) : List Bytes → Nat
  | [] => 0
  | text :: rest =>
    match room.after? text with
    | none => 1
    | some left => left.begun rest + 1

theorem begun_cons_of_none {room : Room} {text : Bytes} (full : room.after? text = none)
    (rest : List Bytes) : room.begun (text :: rest) = 1 := by
  rw [begun, full]

theorem begun_cons_of_some {room left : Room} {text : Bytes} (whole : room.after? text = some left)
    (rest : List Bytes) : room.begun (text :: rest) = left.begun rest + 1 := by
  rw [begun, whole]

theorem begun_le (room : Room) (texts : List Bytes) : room.begun texts ≤ texts.length := by
  induction texts generalizing room with
  | nil => exact Nat.le_refl 0
  | cons text rest inductionHypothesis =>
      cases found : room.after? text with
      | none =>
          rw [begun_cons_of_none found]
          exact Nat.succ_le_succ (Nat.zero_le _)
      | some left =>
          rw [begun_cons_of_some found]
          exact Nat.succ_le_succ (inductionHypothesis left)

/-- A text is begun exactly when all texts before it fit. -/
theorem lt_begun_iff (room : Room) {texts : List Bytes} {position : Nat}
    (inside : position < texts.length) :
    position < room.begun texts ↔ room.fits (texts.take position).flatten = true := by
  induction texts generalizing room position with
  | nil => contradiction
  | cons text rest inductionHypothesis =>
      cases position with
      | zero =>
          have positive : 0 < room.begun (text :: rest) := by
            rw [begun]
            split
            · exact Nat.one_pos
            · exact Nat.succ_pos _
          simp [positive]
      | succ position =>
          rw [List.take_succ_cons, List.flatten_cons]
          cases found : room.after? text with
          | none => simp [begun_cons_of_none found, fits_append_of_none found]
          | some left =>
              rw [begun_cons_of_some found, fits_append_of_some found, Nat.add_lt_add_iff_right]
              exact inductionHypothesis left (Nat.lt_of_succ_lt_succ inside)

/-- If everything fits, everything is begun. -/
theorem begun_of_fits {room : Room} {texts : List Bytes} (whole : room.fits texts.flatten = true) :
    room.begun texts = texts.length := by
  induction texts generalizing room with
  | nil => rfl
  | cons text rest inductionHypothesis =>
      rw [List.flatten_cons] at whole
      cases found : room.after? text with
      | none =>
          rw [fits_append_of_none found] at whole
          contradiction
      | some left =>
          rw [fits_append_of_some found] at whole
          rw [begun_cons_of_some found, inductionHypothesis whole, List.length_cons]

@[simp]
theorem begun_unlimited (texts : List Bytes) : unlimited.begun texts = texts.length :=
  begun_of_fits (fits_unlimited _)

theorem accept_of_fits {room : Room} {text : Bytes} (whole : room.fits text = true) :
    room.accept text = text := by
  cases room with
  | unlimited => rfl
  | bytes left =>
      rw [fits_bytes, decide_eq_true_iff] at whole
      exact List.take_of_length_le whole

theorem fits_of_ending_ne {room : Room} {text : Bytes} {proper : Ending}
    (noFailure : room.ending text proper ≠ .writeFailed) : room.fits text = true := by
  rw [ending] at noFailure
  split at noFailure
  · assumption
  · contradiction

end Room

/-! ## Serving lines -/

namespace Transcript

section

variable {room left : Room} {session : Session} {text : Text} {next : Room → Transcript}

theorem write_of_none (full : room.after? (Utf8.encode text) = none) :
    write room session text next =
      ⟨room.accept (Utf8.encode text), .writeFailed, session, []⟩ := by
  simp only [write, full]

theorem write_of_some (whole : room.after? (Utf8.encode text) = some left) :
    write room session text next =
      { next left with output := Utf8.encode text ++ (next left).output } := by
  simp only [write, whole]

end

/-- Two texts written one after the other are written as one text. -/
theorem write_write (room : Room) (session : Session) (first second : Text)
    (next : Room → Transcript) :
    (write room session first fun left => write left session second next) =
      write room session (first ++ second) next := by
  have split := room.after?_append (Utf8.encode first) (Utf8.encode second)
  rw [← Utf8.encode_append] at split
  cases foundFirst : room.after? (Utf8.encode first) with
  | none =>
      rw [foundFirst, Option.bind_none] at split
      rw [write_of_none foundFirst, write_of_none split, Utf8.encode_append,
        Room.accept_append_of_none foundFirst]
  | some left =>
      rw [foundFirst, Option.bind_some] at split
      rw [write_of_some foundFirst]
      cases foundSecond : left.after? (Utf8.encode second) with
      | none =>
          rw [foundSecond] at split
          rw [write_of_none foundSecond, write_of_none split, Utf8.encode_append,
            Room.accept_append_of_some foundFirst]
      | some rest =>
          rw [foundSecond] at split
          rw [write_of_some foundSecond, write_of_some split, Utf8.encode_append,
            List.append_assoc]

variable (present : Execution → Text) (ending : Ending) (closing : List Record)

/-- Execute lines in order and write for each what `present` makes of its
execution. After the last line, write the closing records and end. -/
def serve (room : Room) (session : Session) : List Text → Transcript
  | [] => ⟨[], ending, session, closing⟩
  | line :: rest =>
    let report := session.execute line
    .logged report.log <|
      .write room report.session (present ⟨line, report⟩) fun left =>
        serve left report.session rest

/-- The bytes that are to be written for each line. -/
def texts (session : Session) (lines : List Text) : List Bytes :=
  (session.executions lines).map fun execution => Utf8.encode (present execution)

@[simp]
theorem texts_cons (session : Session) (line : Text) (rest : List Text) :
    texts present session (line :: rest) =
      Utf8.encode (present ⟨line, session.execute line⟩) ::
        texts present (session.execute line).session rest :=
  rfl

@[simp]
theorem length_texts (session : Session) (lines : List Text) :
    (texts present session lines).length = lines.length := by
  rw [texts, List.length_map, Session.length_executions]

/-- The transcript of serving lines: the output takes what it can of all the
texts, the lines whose text is begun are executed, and the run comes to its own
end if everything fits. -/
theorem serve_eq (room : Room) (session : Session) (lines : List Text) :
    serve present ending closing room session lines =
      let whole := (texts present session lines).flatten
      let executed := lines.take (room.begun (texts present session lines))
      ⟨room.accept whole, room.ending whole ending,
        session.afterLines executed,
        session.logOfLines executed ++ if room.fits whole then closing else []⟩ := by
  induction lines generalizing room session with
  | nil => simp [serve, texts, Room.ending]
  | cons line rest inductionHypothesis =>
      rw [serve, texts_cons, List.flatten_cons]
      cases found : room.after? (Utf8.encode (present ⟨line, session.execute line⟩)) with
      | none =>
          simp [write_of_none found, Room.accept_append_of_none found,
            Room.fits_append_of_none found, Room.begun_cons_of_none found, Room.ending, logged]
      | some left =>
          simp [write_of_some found, Room.accept_append_of_some found,
            Room.fits_append_of_some found, Room.begun_cons_of_some found, Room.ending, logged,
            inductionHypothesis]

/-- Without a failed write the room makes no difference. -/
theorem serve_eq_unlimited {room : Room} {session : Session} {lines : List Text}
    (noFailure : (serve present ending closing room session lines).ending ≠ .writeFailed) :
    serve present ending closing room session lines =
      serve present ending closing .unlimited session lines := by
  rw [serve_eq] at noFailure
  have whole := Room.fits_of_ending_ne noFailure
  simp [serve_eq, Room.ending, whole, Room.accept_of_fits, Room.begun_of_fits]

/-- The transcript of serving lines behind an opening text, which has to fit
before the first line is executed. -/
theorem write_serve_eq (room : Room) (session : Session) (opening : Text) (lines : List Text) :
    (write room session opening fun left =>
        serve present ending closing left session lines) =
      let parts := Utf8.encode opening :: texts present session lines
      let executed := lines.take (room.begun parts - 1)
      ⟨room.accept parts.flatten, room.ending parts.flatten ending,
        session.afterLines executed,
        session.logOfLines executed ++ if room.fits parts.flatten then closing else []⟩ := by
  simp only [List.flatten_cons]
  cases found : room.after? (Utf8.encode opening) with
  | none =>
      simp [write_of_none found, Room.accept_append_of_none found, Room.fits_append_of_none found,
        Room.begun_cons_of_none found, Room.ending]
  | some left =>
      simp [write_of_some found, Room.accept_append_of_some found, Room.fits_append_of_some found,
        Room.begun_cons_of_some found, Room.ending, serve_eq]

/-- More lines are presented in the session that the earlier ones have left. -/
theorem texts_append (session : Session) (earlier later : List Text) :
    texts present session (earlier ++ later) =
      texts present session earlier ++ texts present (session.afterLines earlier) later := by
  rw [texts, Session.executions_append, List.map_append, texts, texts]

end Transcript

end FractionCalculator
