import Anywhere.ConnectionString
import Anywhere.Json.Record
import Anywhere.Text.Encoding
import Anywhere.Toml.Document

/-!
# Connection settings

Settings are written in the table `connection` of a TOML document, or as a JSON object. They amount
to a connection string and to the encoding of character data, if one is asked for. A connection
string among the settings takes the place of all the others but the encoding.
-/

namespace Anywhere

open Text

/-- What is set about a connection. -/
structure Settings where
  database : Option String := none
  server : Option String := none
  username : Option String := none
  password : Option String := none
  commLinks : Option String := none
  connectionName : Option String := none
  /-- The name of a character set. -/
  encoding : Option String := none
  connectionString : Option String := none
deriving DecidableEq, Repr

namespace Settings

/-! ## The connection string -/

def defaultUsername : String := "dba"

def defaultPassword : String := "sql"

/-- The parameters that the settings other than the connection string amount to. The server is
named like the database unless something else is said. -/
def parameters (s : Settings) (database : String) : List (String × String) :=
  [("ServerName", s.server.getD database), ("DatabaseName", database),
    ("UserID", s.username.getD defaultUsername), ("Password", s.password.getD defaultPassword)] ++
  (s.commLinks.map ("CommLinks", ·)).toList ++
  (s.connectionName.map ("ConnectionName", ·)).toList ++
  (s.encoding.map ("CharSet", ·)).toList ++
  [("Idle", "0")]

/-- The connection string of the settings, which need a database or a connection string. -/
def connectionText (s : Settings) : Except Fault String :=
  match s.connectionString with
  | some text => .ok text
  | none =>
    match s.database with
    | none => .error (.config .missingDatabase)
    | some database =>
      if database.isEmpty then .error (.config .missingDatabase)
      else .ok (ConnectionString.toText ⟨s.parameters database⟩)

/-! ## The encoding -/

/-- The character set that the settings name, by themselves or in the connection string. -/
def charset? (s : Settings) : Except Fault (Option String) :=
  match s.encoding, s.connectionString with
  | some name, _ => .ok (some name)
  | none, some text => (ConnectionString.ofText? text).map ConnectionString.charset?
  | none, none => .ok none

/-- The encoding that the settings ask for. One that is not supported is refused. -/
def encoding? (s : Settings) : Except Fault (Option Encoding) := do
  match ← s.charset? with
  | none => return none
  | some name =>
    match Encoding.ofCharset? name with
    | some encoding => return some encoding
    | none => throw (.config (.unsupportedEncoding name))

/-! ## Reading settings -/

/-- The names of the settings, in the order in which an array holds them. -/
def fieldNames : List String :=
  ["database", "server", "username", "password", "commlinks", "connection_name", "encoding",
    "connection_string"]

/-- The settings with the given fields, in the order of their names. -/
def ofFields? : List (Option String) → Option Settings
  | [database, server, username, password, commLinks, connectionName, encoding,
      connectionString] =>
    some { database, server, username, password, commLinks, connectionName, encoding,
           connectionString }
  | _ => none

/-- The settings that a JSON document describes. -/
def ofJson? (document : Json) : Option Settings := do
  let fields ← document.fields? fieldNames
  ofFields? (← fields.mapM (Json.optional · Json.text?))

/-- The text of a setting, if it is set. -/
def ofTomlField? : Option Toml → Option (Option String)
  | none => some none
  | some (.string text) => some (some text)
  | some _ => none

/-- The settings in a TOML table, or in an array, of which what goes beyond them is passed over. -/
def ofToml? : Toml → Option Settings
  | .table _ members => do
    ofFields? (← fieldNames.mapM fun name => ofTomlField? (members.lookup name))
  | .array items => do
    ofFields? (← (List.range fieldNames.length).mapM fun i => ofTomlField? items[i]?)
  | _ => none

/-- The settings in the table `connection` of a TOML document. -/
def ofText? (text : String) : Except Fault Settings :=
  match do ofToml? (← (← Toml.ofText? text).lookup "connection") with
  | some settings => .ok settings
  | none => .error (.config .malformed)

end Settings

end Anywhere
