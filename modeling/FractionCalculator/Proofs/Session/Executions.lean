import FractionCalculator.Session.Execute

/-!
# Executing one line after another

A run of a front end executes lines in order, each in the session that the lines
before it have left. Here the lines are executed and nothing is written; what a
front end writes is a way of presenting these executions.
-/

namespace FractionCalculator

/-- A line and the report on executing it. -/
structure Execution where
  line : Text
  report : Report Answer

namespace Session

/-- The executions of lines, each in the session left by the one before it,
whether that succeeded or failed. -/
def executions (session : Session) : List Text → List Execution
  | [] => []
  | line :: rest =>
    ⟨line, session.execute line⟩ :: (session.execute line).session.executions rest

/-- The session that lines leave behind. -/
def afterLines (session : Session) (lines : List Text) : Session :=
  lines.foldl (fun session line => (session.execute line).session) session

/-- The records that lines write, in order. -/
def logOfLines (session : Session) (lines : List Text) : List Record :=
  (session.executions lines).flatMap fun execution => execution.report.log

variable (session : Session)

@[simp]
theorem executions_nil : session.executions [] = [] :=
  rfl

@[simp]
theorem executions_cons (line : Text) (rest : List Text) :
    session.executions (line :: rest) =
      ⟨line, session.execute line⟩ :: (session.execute line).session.executions rest :=
  rfl

@[simp]
theorem afterLines_nil : session.afterLines [] = session :=
  rfl

@[simp]
theorem afterLines_cons (line : Text) (rest : List Text) :
    session.afterLines (line :: rest) = (session.execute line).session.afterLines rest :=
  rfl

@[simp]
theorem logOfLines_nil : session.logOfLines [] = [] :=
  rfl

@[simp]
theorem logOfLines_cons (line : Text) (rest : List Text) :
    session.logOfLines (line :: rest) =
      (session.execute line).log ++ (session.execute line).session.logOfLines rest :=
  rfl

@[simp]
theorem length_executions (lines : List Text) :
    (session.executions lines).length = lines.length := by
  induction lines generalizing session with
  | nil => rfl
  | cons line rest inductionHypothesis =>
      rw [executions_cons, List.length_cons, List.length_cons, inductionHypothesis]

/-- More lines are executed in the session that the earlier ones have left. -/
theorem executions_append (earlier later : List Text) :
    session.executions (earlier ++ later) =
      session.executions earlier ++ (session.afterLines earlier).executions later := by
  induction earlier generalizing session with
  | nil => rfl
  | cons line rest inductionHypothesis =>
      rw [List.cons_append, executions_cons, executions_cons, inductionHypothesis,
        List.cons_append, afterLines_cons]

theorem logOfLines_append (earlier later : List Text) :
    session.logOfLines (earlier ++ later) =
      session.logOfLines earlier ++ (session.afterLines earlier).logOfLines later := by
  rw [logOfLines, executions_append, List.flatMap_append, logOfLines, logOfLines]

/-- A line is executed in the session that the lines before it have left. -/
theorem getElem?_executions (lines : List Text) (position : Nat) :
    (session.executions lines)[position]? = lines[position]?.map fun line =>
      ⟨line, (session.afterLines (lines.take position)).execute line⟩ := by
  induction lines generalizing session position with
  | nil => rfl
  | cons line rest inductionHypothesis =>
      cases position with
      | zero => rfl
      | succ position =>
          rw [executions_cons, List.getElem?_cons_succ, inductionHypothesis,
            List.getElem?_cons_succ, List.take_succ_cons, afterLines_cons]

end Session

end FractionCalculator
