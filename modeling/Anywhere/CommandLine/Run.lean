import Anywhere.Column.Definition
import Anywhere.CommandLine.Help
import Anywhere.Json.Parser
import Anywhere.Json.Printer
import Anywhere.Query.Document
import Anywhere.Settings
import Anywhere.Sql.Writer

/-!
# Running commands

A command is a function of the files and the input that it finds. What it prints before something
goes wrong stays printed.
-/

namespace Anywhere.CommandLine

/-- What is found under a path. -/
inductive File where
  | missing
  /-- A directory, or a file that cannot be read. -/
  | unreadable
  | text (content : String)
deriving DecidableEq, Repr

namespace File

/-- Where every file has a text, looking one up finds its text or nothing. -/
instance : Coe (Option String) File where
  coe
    | some content => text content
    | none => missing

/-- There is something, readable or not. -/
def isThere (f : File) : Bool := f != missing

/-- What can be read. -/
def text? : File → Option String
  | text content => some content
  | _ => none

end File

/-- What a command finds around it. -/
structure Surroundings where
  /-- The text on standard input, if it can be read. -/
  input : Option String
  /-- What is under a path. -/
  file : String → File
  /-- Where the settings of the user are, if users have a place for settings. -/
  userSettings : Option String

/-- How a command ends. -/
structure Result where
  code : Nat
  output : String
  /-- Why it did not go well. -/
  complaint : String
deriving DecidableEq, Repr

namespace Result

/-- A command that went well. -/
def good (output : String) : Result := ⟨0, output, ""⟩

/-- A command that failed after it had printed something. -/
def failed (output complaint : String) : Result := ⟨1, output, complaint⟩

/-- Arguments that make no sense. -/
def misuse : Result := ⟨2, "", "the arguments make no sense; try '--help'"⟩

/-- Goes on with what a step yields, or ends the command if the step fails. -/
def after (output : String) (step : Except Fault α) (next : α → Result) : Result :=
  match step with
  | .ok a => next a
  | .error fault => failed output fault.message

end Result

/-- Lines, each with its end. -/
def lines (ls : List String) : String := String.join (ls.map (· ++ "\n"))

/-! ## Queries -/

/-- A parameter in a document. -/
def parameterJson (p : Parameter) : Json :=
  .obj [("name", .text p.name), ("logical_type", .text p.type.documentName),
    ("value", p.value.toJson fun x => .number (.ofDouble x))]

/-- SQL text with its parameters in a document. -/
def renderingJson (r : Rendering) : Json :=
  .obj [("sql", .text r.sql), ("params", .array (r.parameters.map parameterJson))]

/-- The line about the parameter with the given number. -/
def parameterLine (number : Nat) (p : Parameter) : String :=
  "  #" ++ Number.ofNat number ++ " " ++ p.name ++ " (" ++ p.type.name ++ ") = " ++ p.value.display

/-- The lines about SQL text with its parameters. -/
def renderingLines (r : Rendering) : List String :=
  ["SQL:", r.sql] ++
    if r.parameters.isEmpty then []
    else ["", "Binds:"] ++ r.parameters.mapIdx fun i p => parameterLine (i + 1) p

/-- The SQL text of a query tree. -/
def translate (text : Option String) (format : Format) : Result :=
  match text with
  | none => .failed "" "the query tree cannot be read"
  | some text =>
    match (Json.ofText? text).bind Query.ofJson? with
    | none => .failed "" "invalid query tree"
    | some q =>
      match format with
      | .json => .good (lines [(renderingJson q.render).pretty])
      | .text => .good (lines (renderingLines q.render))

/-! ## Connection strings -/

/-- The settings in a file. -/
def loadSettings (s : Surroundings) (path : String) : Except Fault Settings :=
  match s.file path with
  | .text content => Settings.ofText? content
  | _ => .error (.file path)

/-- The places where settings are looked for, given where those of the user are. -/
def settingsPaths (userSettings : Option String) : List String :=
  "sqlany.toml" :: userSettings.toList

/-- The settings in the first place where there is something. What is there but cannot be read hides
the places behind it. -/
def findSettings (s : Surroundings) : Except Fault Settings :=
  let paths := settingsPaths s.userSettings
  match paths.find? fun path => (s.file path).isThere with
  | some path => loadSettings s path
  | none => .error (.config (.notFound paths))

/-- The name of an encoding. -/
def encodingName : Text.Encoding → String
  | .utf8 => "Utf8"
  | .latin1 => "Latin1"

/-- The connection string of settings, its passwords masked unless they are asked for. -/
def showSettings (settings : Settings) (showPassword : Bool) : Result :=
  .after "" settings.connectionText fun text =>
    let shown := if showPassword then .ok text
      else (ConnectionString.ofText? text).map ConnectionString.maskedText
    .after "" shown fun text =>
      .after (lines [text]) settings.encoding? fun encoding =>
        .good (lines (text :: (encoding.map fun e => "Encoding: " ++ encodingName e).toList))

/-- The connection string of the settings in a file, or in the usual places. -/
def connstr (s : Surroundings) (config : Option String) (showPassword : Bool) : Result :=
  let settings := match config with
    | some path => loadSettings s path
    | none => findSettings s
  .after "" settings fun settings => showSettings settings showPassword

/-! ## Types -/

/-- A line of the table of types. -/
def typeLine (logical native limit : String) : String :=
  padRight 14 logical ++ " " ++ padRight 52 native ++ " " ++ limit

/-- The table of types. -/
def typeLines : List String :=
  [typeLine "Logical" "Native" "Limit", String.ofList (List.replicate 74 '─')] ++
    LogicalType.all.map fun t =>
      typeLine t.name t.defaultColumn.1
        ((t.defaultColumn.2.map fun n => Number.ofNat n.toNat).getD "")

/-- A line about something that may be absent. -/
def optionalLine (label : String) (value : Option UInt32) : List String :=
  (value.map fun n => label ++ " " ++ Number.ofNat n.toNat).toList

/-- The lines about a column type. -/
def columnTypeLines (name : Column.TypeName) (m : Column.Metadata) : List String :=
  ["Type: " ++ name.words] ++ optionalLine "Width:" name.width ++
    optionalLine "Scale:" name.scale ++ ["Logical: " ++ m.type.name] ++
    optionalLine "  Limit:" m.limit ++ optionalLine "  Precision:" m.precision ++
    optionalLine "  Scale:" m.scale ++ ["Column SQL: " ++ m.definition]

/-- What a column type means. -/
def parseType (text : String) : Result :=
  .after "" (Column.TypeName.ofText? text) fun name =>
    .after "" (Column.Metadata.ofText? text) fun m => .good (lines (columnTypeLines name m))

/-! ## All commands -/

/-- The operand that stands for standard input. -/
def standardInput : String := "-"

/-- Runs a command. -/
def Command.run (s : Surroundings) : Command → Result
  | .translate input format =>
    CommandLine.translate (if input = standardInput then s.input else (s.file input).text?) format
  | .connstr config showPassword => CommandLine.connstr s config showPassword
  | .types => .good (lines typeLines)
  | .parseType type => CommandLine.parseType type

/-- Does what the arguments ask for. -/
def run (s : Surroundings) (arguments : List String) : Result :=
  match Invocation.ofArguments? arguments with
  | none => .misuse
  | some (.run command) => command.run s
  | some (.help topic) => .good topic.page
  | some .version => .good versionLine

/-- The command reads standard input. -/
def Command.readsInput : Command → Bool
  | .translate input _ => input == standardInput
  | _ => false

/-- The files that a command may want to read. -/
def Command.files (userSettings : Option String) : Command → List String
  | .translate input _ => if input = standardInput then [] else [input]
  | .connstr (some path) _ => [path]
  | .connstr none _ => settingsPaths userSettings
  | .types => []
  | .parseType _ => []

end Anywhere.CommandLine
