import Anywhere.Session.Basic
import Anywhere.Sql.Writer

/-!
# Statements of a session

Every statement of a session is run to its end before the next one begins. A session that is not
connected refuses it.
-/

namespace Anywhere.Session

variable {σ κ η : Type} (client : Client σ κ η)

/-- Runs a statement. -/
def run (sql : String) (values : List Value) (fetchRows : Bool) : Step σ κ Outcome := do
  let s ← Operation.track
  if !s.connected then throw (.connection .disconnected)
  let action := client.run ⟨s.connection, sql⟩ values ⟨s.autoCommit, s.encoding, fetchRows⟩
  let outcome ← tryCatch (Operation.ofAction action)
    fun fault => do
      Operation.update fun s => { s with affectedRows := 0 }
      throw fault
  Operation.update fun s => { s with affectedRows := outcome.affectedRows }
  return outcome

/-- Runs a statement for what it does, and tells how many rows it affected. -/
def execute (sql : String) : Step σ κ Nat := Outcome.affectedRows <$> run client sql [] false

/-- Runs a statement with parameters for its rows. -/
def query (sql : String) (values : List Value) : Step σ κ ResultSet :=
  Outcome.result <$> run client sql values true

/-- Runs a statement with parameters, and tells how many rows it affected. -/
def update (sql : String) (values : List Value) : Step σ κ Nat :=
  Outcome.affectedRows <$> run client sql values true

/-- Runs a query tree. -/
def select (q : Query) : Step σ κ ResultSet :=
  let rendering := q.render
  query client rendering.sql (rendering.parameters.map Parameter.value)

/-- The first cell of the first row. -/
def selectValue (sql : String) : Step σ κ (Option Value) := do
  return (← query client sql []).first?

/-- The number that the last new row was given. -/
def lastInsertedId : Step σ κ (Option Int64) := do
  return (← selectValue client "SELECT @@IDENTITY").bind Value.integer?

/-! ## Deferred checks -/

def waitForCommitQuery : String := "SELECT connection_property( 'wait_for_commit' )"

/-- Sets whether the checks of foreign keys wait for the end of the transaction. -/
def setWaitForCommit (setting : String) : Step σ κ Unit := do
  let _ ← execute client ("SET TEMPORARY OPTION wait_for_commit = " ++ setting)

/-- The setting that stands for what the server says about it. -/
def waitForCommitSetting : Option Value → String
  | some (.text s) => if Text.eqIgnoringCase s "on" then "ON" else "OFF"
  | _ => "OFF"

/-- Does something while the checks of foreign keys wait for the end of the transaction. Whether
that works or not, the setting is put back as it was; a failure to do so only counts when nothing
else failed. -/
def deferringChecks (body : Step σ κ α) : Step σ κ α := do
  let old := waitForCommitSetting (← selectValue client waitForCommitQuery)
  setWaitForCommit client "ON"
  let result ← tryCatch body fun fault => do
    tryCatch (setWaitForCommit client old) fun _ => pure ()
    throw fault
  setWaitForCommit client old
  return result

end Anywhere.Session
