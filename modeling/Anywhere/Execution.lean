import Anywhere.Client.Statement

/-!
# Executions

An execution takes one SQL text from preparation to its end. Its statement is released before the
transaction is committed, because the server keeps its locks for as long as the statement is open.
Whatever fails on the way, a run releases the statement and rolls back, so that it is over in every
case; the single steps leave that to whoever takes them.
-/

namespace Anywhere

/-- How far an execution is. -/
inductive Phase where
  | idle
  | prepared
  | bound
  | executed
  | fetching
  | committed
  | rolledBack
  | freed
deriving DecidableEq, Repr

/-- The execution of one SQL text, `η` being the statements of the client library. -/
structure Execution (η : Type) where
  phase : Phase
  statement : Option η
  affectedRows : Nat
deriving DecidableEq, Repr

/-- How an SQL text is run. -/
structure RunOptions where
  /-- The transaction is committed behind every statement. -/
  autoCommit : Bool
  encoding : Text.Encoding
  /-- The rows are of interest. -/
  fetchRows : Bool
deriving DecidableEq, Repr

/-- What a run comes to. -/
structure Outcome where
  result : ResultSet
  affectedRows : Nat
deriving DecidableEq, Repr

namespace Execution

/-- Nothing has been done yet. -/
def idle {η : Type} : Execution η := ⟨.idle, none, 0⟩

/-- The failure of a step for which there is no statement. -/
def notPrepared (sql : String) : Fault := .statement ⟨0, "statement is not prepared", sql⟩

variable {σ κ η : Type} (client : Client σ κ η) (r : Request κ)

/-- A step of an execution. -/
abbrev Step (σ η α : Type) := Operation (Execution η) σ α

/-- Goes on to a phase. -/
def enter (phase : Phase) : Step σ η Unit := Operation.update fun e => { e with phase := phase }

/-- The statement, if there is one. -/
def requireStatement : Step σ η η := do
  match (← Operation.track).statement with
  | some statement => pure statement
  | none => throw (notPrepared r.sql)

/-! ## Single steps -/

/-- Prepares the statement. -/
def prepare : Step σ η Unit := do
  let reply ← Operation.ask client (.prepare r.connection r.sql)
  let statement ← Operation.ofAction (Action.require client r reply)
  Operation.update fun e => { e with phase := .prepared, statement := some statement }

/-- Binds the parameters. -/
def bind (encoding : Text.Encoding) (values : List Value) : Step σ η Unit := do
  let statement ← requireStatement r
  Operation.ofAction (client.bindAll r encoding statement values)
  enter .bound

/-- Executes the statement. -/
def execute : Step σ η Unit := do
  let statement ← requireStatement r
  let reply ← Operation.ask client (.execute statement)
  Operation.ofAction (Action.check client r reply)
  enter .executed

/-- Fetches the rows. -/
def fetch (encoding : Text.Encoding) : Step σ η ResultSet := do
  let statement ← requireStatement r
  let columns ← Operation.ofAction (client.columns r statement)
  enter .fetching
  let rows ← Operation.ofAction (client.rows r encoding columns statement)
  return ⟨columns.map ColumnInfo.name, rows⟩

/-- Asks how many rows were affected. -/
def countAffected : Step σ η Unit := do
  let statement ← requireStatement r
  let reply ← Operation.ask client (.affectedRows statement)
  let count ← Operation.ofAction (Action.require client r reply)
  Operation.update fun e => { e with affectedRows := count }

/-- Releases the statement, if there is one. -/
def free : Step σ η Unit := do
  match (← Operation.track).statement with
  | none => pure ()
  | some statement =>
    Operation.ask client (.free statement)
    Operation.update fun e => { e with phase := .freed, statement := none }

/-! ## Runs -/

/-- Ends an execution that went well. -/
def finish (autoCommit : Bool) : Step σ η Unit := do
  free client
  if autoCommit then
    let reply ← Operation.ask client (.commit r.connection)
    Operation.ofAction (Action.check client r reply)
    enter .committed

/-- Ends an execution that failed. -/
def abort : Step σ η Unit := do
  Operation.update fun e => { e with affectedRows := 0 }
  free client
  let _ ← Operation.ask client (.rollback r.connection)
  enter .rolledBack

/-- All steps in order. -/
def drive (values : List Value) (options : RunOptions) : Step σ η ResultSet := do
  prepare client r
  bind client r options.encoding values
  execute client r
  let result ← if options.fetchRows then fetch client r options.encoding else pure .empty
  countAffected client r
  finish client r options.autoCommit
  return result

/-- Runs an SQL text to the end. When that fails, the statement is released and the transaction
rolled back. -/
def run (values : List Value) (options : RunOptions) : Step σ η Outcome := do
  let result ← tryCatch (drive client r values options) fun fault => do
    abort client r
    throw fault
  return ⟨result, (← Operation.track).affectedRows⟩

end Execution

/-- Runs an SQL text in an execution of its own. When the execution goes away behind the run, a
statement that is still there is released. -/
def Client.run {σ κ η : Type} (client : Client σ κ η) (r : Request κ) (values : List Value)
    (options : RunOptions) : Action σ Outcome := fun s =>
  let (outcome, s) := Execution.run client r values options (.idle, s)
  let (_, (_, s)) := Execution.free client s
  (outcome, s)

end Anywhere
