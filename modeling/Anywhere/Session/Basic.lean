import Anywhere.ConnectionString
import Anywhere.Execution
import Anywhere.Settings

/-!
# Sessions

A session holds one connection. Outside of a transaction every statement is committed by itself;
a transaction begins without a word to the server, which opens it with the next statement, and ends
with the attempt to commit or to roll back. What was open when a session connects anew is lost.
-/

namespace Anywhere

open Text

/-- A connection with what the session knows about it, `κ` being the connections of the client
library. -/
structure Session (κ : Type) where
  connection : κ
  /-- The connection string. -/
  text : String
  encoding : Encoding
  connected : Bool
  /-- No transaction was begun. -/
  autoCommit : Bool
  /-- The rows that the last statement touched; none if it failed. -/
  affectedRows : Nat
deriving DecidableEq, Repr

namespace Session

/-- Something that is done in a session. -/
abbrev Step (σ κ α : Type) := Operation (Session κ) σ α

/-- What is set on every new connection: a word that is a name all the same, the format of dates
with times, and a variable for the probe. -/
def connectionOptions : List String :=
  ["SET TEMPORARY OPTION non_keywords = 'LOGIN'",
    "SET TEMPORARY OPTION timestamp_format = 'YYYY-MM-DD HH:NN:SS'",
    "CREATE VARIABLE liveness INT"]

/-- A statement that does nothing but show that the connection is alive. -/
def probe : String := "SET liveness = 1"

/-- The encoding that a connection string asks for. One that is not supported passes for UTF-8. -/
def encodingOf (s : ConnectionString) : Encoding := (s.charset?.bind Encoding.ofCharset?).getD .utf8

variable {σ κ η : Type} (client : Client σ κ η)

/-- Sets one option. It does not matter whether that works. -/
def setOption (sql : String) : Step σ κ Unit := do
  let s ← Operation.track
  if !(← Operation.ask client (.executeImmediate s.connection sql)) then
    let _ ← Operation.ask client (.lastError s.connection)

/-- Connects, and sets the options of the connection. -/
def establish : Step σ κ Unit := do
  let s ← Operation.track
  if !(← Operation.ask client (.connect s.connection s.text)) then
    let report ← Operation.ask client (.lastError s.connection)
    throw (.connection (.refused report.code report.message))
  Operation.update fun s => { s with connected := true, autoCommit := true }
  connectionOptions.forM (setOption client)

/-- Disconnects, if the session is connected. -/
def disconnect : Step σ κ Unit := do
  let s ← Operation.track
  if s.connected then
    Operation.ask client (.disconnect s.connection)
    Operation.update fun s => { s with connected := false }

/-- Disconnects, and connects anew. -/
def reconnect : Step σ κ Unit := do
  disconnect client
  establish client

/-- The connection is alive. -/
def isActive : Step σ κ Bool := do
  let s ← Operation.track
  if s.connected then Operation.ask client (.executeImmediate s.connection probe) else pure false

/-! ## Opening and closing -/

/-- A session that results from a step of a new one. -/
def afterStep (s : Session κ) (step : Step σ κ Unit) : Action σ (Session κ) := fun state =>
  match step (s, state) with
  | (.ok (), (s, state)) => (.ok s, state)
  | (.error fault, (_, state)) => (.error fault, state)

/-- Opens a session with a connection string. -/
def connect (text : String) : Action σ (Session κ) := do
  let parameters ← Action.ofExcept (ConnectionString.ofText? text)
  match ← Action.ask client .newConnection with
  | none => throw (.connection .notAllocated)
  | some connection =>
    let fresh : Session κ :=
      { connection, text, encoding := encodingOf parameters, connected := false
        autoCommit := true, affectedRows := 0 }
    afterStep fresh (establish client)

/-- Opens a session with settings. A session whose settings ask for an encoding that is not
supported is closed again. -/
def ofSettings (settings : Settings) : Action σ (Session κ) := do
  let text ← Action.ofExcept settings.connectionText
  let s ← connect client text
  match settings.encoding? with
  | .ok encoding => return { s with encoding := encoding.getD s.encoding }
  | .error fault => afterStep s (disconnect client *> throw fault)

/-! ## Transactions -/

/-- Begins a transaction. -/
def beginTransaction : Step σ κ Unit := Operation.update fun s => { s with autoCommit := false }

/-- A transaction was begun and has not ended. -/
def inTransaction (s : Session κ) : Bool := !s.autoCommit

/-- Ends the transaction with a call, which stands for the SQL text `sql` in failures. -/
def endTransaction (sql : String) (ask : κ → Step σ κ Bool) : Step σ κ Unit := do
  Operation.update fun s => { s with autoCommit := true }
  let s ← Operation.track
  let reply ← ask s.connection
  Operation.ofAction (Action.check client ⟨s.connection, sql⟩ reply)

/-- Commits the transaction. -/
def commit : Step σ κ Unit :=
  endTransaction client "COMMIT" fun connection => Operation.ask client (.commit connection)

/-- Rolls the transaction back. -/
def rollback : Step σ κ Unit :=
  endTransaction client "ROLLBACK" fun connection => Operation.ask client (.rollback connection)

end Session

end Anywhere
