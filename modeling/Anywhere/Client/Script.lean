import Anywhere.Client.Basic
import Anywhere.Text.Split

/-!
# A client that follows a script

A script says which rows the statements get whose text contains something, and which calls fail. It
takes the place of a server where it matters what the adapter asks for, in which order, and what
it does with the answers.
-/

namespace Anywhere.Script

/-- The calls that a script can make fail. -/
inductive Stage where
  | newConnection
  | connect
  | executeImmediate
  | prepare
  | describe
  | bind
  | execute
  | columnCount
  | columnInfo
  | cell
  | affectedRows
  | commit
  | rollback
deriving DecidableEq, Repr

/-- What a statement gets whose text contains `part`. -/
structure Response where
  part : String
  columns : List ColumnInfo
  rows : List (List WireValue)
  /-- No number stands for a failure. -/
  affected : Option Nat
deriving DecidableEq, Repr

/-- What a statement gets for which there is no response. -/
def Response.none : Response := ⟨"", [], [], some 0⟩

/-- Makes calls fail whose text contains `part`, after `skip` of them and not more than `times`
times. -/
structure Failure where
  stage : Stage
  part : String
  report : Report
  skip : Nat
  times : Option Nat
deriving DecidableEq, Repr

/-- A statement that was prepared. -/
structure Statement where
  sql : String
  response : Response
  /-- How often a row was asked for. -/
  cursor : Nat
deriving DecidableEq, Repr

/-- The rows that are still to come. -/
def Statement.pending (st : Statement) : Nat := st.response.rows.length - st.cursor

/-- The current row. -/
def Statement.row (st : Statement) : List WireValue :=
  if st.cursor = 0 then [] else (st.response.rows[st.cursor - 1]?).getD []

/-- What is left of a script, and what was done so far. -/
structure State where
  responses : List Response
  failures : List Failure
  /-- How the library's initializations end; they succeed when nothing more is said. -/
  inits : List Bool
  lastError : Report
  /-- All statements that were ever prepared. -/
  statements : List Statement
deriving DecidableEq, Repr

/-- The state at the start. -/
def State.start (responses : List Response) (failures : List Failure) (inits : List Bool) : State :=
  ⟨responses, failures, inits, ⟨0, ""⟩, []⟩

/-- `part` occurs in a text. -/
def contains (text part : String) : Bool := Text.occursIn part.toList text.toList

/-- The failure that a call meets, and what is left of the failures. -/
def Failure.meet (stage : Stage) (text : String) : List Failure → Option Report × List Failure
  | [] => (none, [])
  | f :: rest =>
    if f.stage = stage ∧ f.times ≠ some 0 ∧ contains text f.part then
      if f.skip = 0 then (some f.report, { f with times := f.times.map (· - 1) } :: rest)
      else
        let (report, rest) := meet stage text rest
        (report, { f with skip := f.skip - 1 } :: rest)
    else
      let (report, rest) := meet stage text rest
      (report, f :: rest)

namespace State

/-- Whether a call goes well, as far as the failures are concerned. -/
def passes (s : State) (stage : Stage) (text : String) : Bool × State :=
  match Failure.meet stage text s.failures with
  | (none, failures) => (true, { s with failures := failures })
  | (some report, failures) => (false, { s with failures := failures, lastError := report })

@[simp] theorem statements_passes (s : State) (stage : Stage) (text : String) :
    (s.passes stage text).2.statements = s.statements := by
  unfold passes
  split <;> rfl

/-- What a call about a statement is answered with if it goes well. -/
def onStatement (s : State) (id : Nat) (stage : Stage) (answer : Statement → Option α) :
    Option α × State :=
  match s.statements[id]? with
  | none => (none, s)
  | some st =>
    let (passed, s) := s.passes stage st.sql
    (if passed then answer st else none, s)

@[simp] theorem statements_onStatement (s : State) (id : Nat) (stage : Stage)
    (answer : Statement → Option α) :
    (s.onStatement id stage answer).2.statements = s.statements := by
  unfold onStatement
  split <;> simp

/-- Prepares a statement. -/
def prepare (s : State) (sql : String) : Option Nat × State :=
  match s.passes .prepare sql with
  | (false, s) => (none, s)
  | (true, s) =>
    let response := (s.responses.find? fun r => contains sql r.part).getD .none
    (some s.statements.length, { s with statements := s.statements ++ [⟨sql, response, 0⟩] })

/-- Goes on to the next row. -/
def fetch (s : State) (id : Nat) : Bool × State :=
  match s.statements[id]? with
  | none => (false, s)
  | some st =>
    (st.cursor < st.response.rows.length,
      { s with statements := s.statements.set id { st with cursor := st.cursor + 1 } })

/-- The rows of a statement that are still to come. -/
def pending (id : Nat) (s : State) : Nat := (s.statements[id]?).elim 0 Statement.pending

/-- The name that a parameter is described with. -/
def parameterName (index : Nat) : String := "p" ++ Number.ofNat index

/-- The answer to a call. -/
def answer : (call : Call Unit Nat) → State → call.Reply × State
  | .init, s => match s.inits with
    | [] => (true, s)
    | ok :: rest => (ok, { s with inits := rest })
  | .fini, s => ((), s)
  | .newConnection, s =>
    let (passed, s) := s.passes .newConnection ""
    (if passed then some () else none, s)
  | .connect _ text, s => s.passes .connect text
  | .disconnect _, s => ((), s)
  | .executeImmediate _ sql, s => s.passes .executeImmediate sql
  | .prepare _ sql, s => s.prepare sql
  | .describe id index, s =>
    s.onStatement id .describe fun _ => some ⟨parameterName index, .invalid, .invalid, none⟩
  | .bind id _ _, s =>
    let (reply, s) := s.onStatement id .bind fun _ => some ()
    (reply.isSome, s)
  | .execute id, s =>
    let (reply, s) := s.onStatement id .execute fun _ => some ()
    (reply.isSome, s)
  | .columnCount id, s => s.onStatement id .columnCount fun st => some st.response.columns.length
  | .columnInfo id index, s => s.onStatement id .columnInfo fun st => st.response.columns[index]?
  | .fetch id, s => s.fetch id
  | .cell id index, s => s.onStatement id .cell fun st => st.row[index]?
  | .affectedRows id, s => s.onStatement id .affectedRows fun st => st.response.affected
  | .free _, s => ((), s)
  | .commit _, s => s.passes .commit ""
  | .rollback _, s => s.passes .rollback ""
  | .lastError _, s => (s.lastError, s)

theorem pending_fetch (id : Nat) (s : State) (h : (s.fetch id).1 = true) :
    pending id (s.fetch id).2 < pending id s := by
  unfold fetch at h ⊢
  unfold pending
  cases hs : s.statements[id]? with
  | none => simp [hs] at h
  | some st =>
    have bound : id < s.statements.length := (List.getElem?_eq_some_iff.1 hs).1
    simp only [hs, decide_eq_true_eq] at h
    simp only [List.getElem?_set_self bound, Option.elim, Statement.pending]
    omega

end State

/-- The client that follows a script. -/
def client : Client State Unit Nat where
  answer := State.answer
  pending := State.pending
  pending_fetch := State.pending_fetch
  pending_cell id index s := by simp [State.answer, State.pending]

end Anywhere.Script
