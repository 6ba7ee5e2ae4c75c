import Anywhere.CommandLine.Arguments

/-!
# Help

Help lists what can be said to the program or to a verb. Entries stand in two columns, of which the
first is as wide as its widest entry.
-/

namespace Anywhere.CommandLine

/-- The name of the program. -/
def programName : String := "sqlany"

/-- The version of the program. -/
def programVersion : String := "0.3.0"

/-- A text, and blanks behind it up to a width. -/
def padRight (width : Nat) (text : String) : String :=
  text ++ String.ofList (List.replicate (width - text.length) ' ')

/-! ## Texts -/

def Switch.about : Switch → String
  | verbose => "Verbose logging (overrides RUST_LOG)"
  | format => "[default: text] [possible values: text, json]"
  | config => "Config file (default: ./sqlany.toml, then the user config dir)"
  | showPassword => ""
  | help => "Print help"
  | version => "Print version"

def Verb.about : Verb → String
  | translate => "Render a JSON query tree as SQL"
  | connstr => "Print the connection string built from configuration"
  | types => "Show the logical to native column type table"
  | parseType => "Show how a native column type is mapped"

def Verb.operandAbout : Verb → String
  | translate => "Path to the JSON file, or `-` for stdin"
  | parseType => "e.g. `varchar(80)` or `numeric(10,2)`"
  | _ => ""

def programAbout : String := "SQL Anywhere dialect and type tooling"

def helpAbout : String := "Print this message or the help of the given subcommand(s)"

def examples : List String :=
  ["EXAMPLES:", "    sqlany translate query.json", "    sqlany connstr --config ./sqlany.toml",
    "    sqlany parse-type 'long varchar'"]

/-! ## Layout -/

/-- Entries under a title. -/
structure Table where
  title : String
  entries : List (String × String)

/-- The lines of a table. -/
def Table.lines (t : Table) : List String :=
  let width := (t.entries.map fun e => e.1.length).foldl max 0
  (t.title ++ ":") :: t.entries.map fun (name, about) => "  " ++ padRight (width + 2) name ++ about

/-- An option as help shows it. -/
def Switch.entry (switch : Switch) : String × String :=
  let letter := match switch.letter? with
    | some c => String.ofList ['-', c, ',', ' ']
    | none => "    "
  let value := match switch.valueName? with
    | some name => " <" ++ name ++ ">"
    | none => ""
  (letter ++ "--" ++ switch.name ++ value, switch.about)

/-- Options as help shows them. -/
def switchTable (switches : List Switch) : Table := ⟨"Options", switches.map Switch.entry⟩

/-- A page of help. -/
def page (about usage : String) (tables : List Table) (rest : List (List String)) : String :=
  let usage := "Usage: " ++ programName ++ " " ++ usage
  let blocks := [about] :: [usage] :: tables.map Table.lines ++ rest
  "\n\n".intercalate (blocks.map fun lines => "\n".intercalate lines) ++ "\n"

/-- The page about a verb. -/
def Verb.page (verb : Verb) : String :=
  let options := switchTable verb.switches
  match verb.operandName? with
  | some operand =>
    let shown := "<" ++ operand ++ ">"
    CommandLine.page verb.about (verb.name ++ " [OPTIONS] " ++ shown)
      [⟨"Arguments", [(shown, verb.operandAbout)]⟩, options] []
  | none => CommandLine.page verb.about (verb.name ++ " [OPTIONS]") [options] []

/-- The page about a topic. -/
def Topic.page : Topic → String
  | program =>
    let verbs := Verb.all.map (fun v => (v.name, v.about)) ++ [(helpName, helpAbout)]
    CommandLine.page programAbout "[OPTIONS] <COMMAND>"
      [⟨"Commands", verbs⟩, switchTable programSwitches] [examples]
  | verb v => v.page
  | help =>
    CommandLine.page helpAbout "help [COMMAND]..."
      [⟨"Arguments", [("[COMMAND]...", "Print help for the subcommand(s)")]⟩] []

/-- The answer to the question for the version. -/
def versionLine : String := programName ++ " " ++ programVersion ++ "\n"

end Anywhere.CommandLine
