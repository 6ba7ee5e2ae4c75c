import Anywhere.CommandLine.Run

/-!
# The program

Collects what a command may want to read, runs it, and prints what it says.
-/

namespace Anywhere.CommandLine

/-- Looks at what is under a path. -/
def lookAt (path : String) : IO File := do
  try
    return .text (← IO.FS.readFile path)
  catch
    | .noFileOrDirectory .. => return .missing
    | _ => return .unreadable

/-- The text on standard input, if it can be read. -/
def readInput? : IO (Option String) := do
  try
    return some (← (← IO.getStdin).readToEnd)
  catch _ => return none

/-- Where the settings of the user are. -/
def userSettings? : IO (Option String) := do
  match ← IO.getEnv "XDG_CONFIG_HOME", ← IO.getEnv "HOME" with
  | some directory, home =>
    if directory.startsWith "/" then return some (directory ++ "/sqlany/config.toml")
    else return home.map (· ++ "/.config/sqlany/config.toml")
  | none, home => return home.map (· ++ "/.config/sqlany/config.toml")

/-- Reads what the arguments refer to. -/
def surroundings (arguments : List String) : IO Surroundings := do
  let userSettings ← userSettings?
  match Invocation.ofArguments? arguments with
  | some (.run command) =>
    let paths := command.files userSettings
    let found ← paths.mapM lookAt
    let input ← if command.readsInput then readInput? else pure none
    return ⟨input, fun path => ((paths.zip found).lookup path).getD .missing, userSettings⟩
  | _ => return ⟨none, fun _ => .missing, userSettings⟩

end Anywhere.CommandLine

open Anywhere in
def main (arguments : List String) : IO UInt32 := do
  let result := CommandLine.run (← CommandLine.surroundings arguments) arguments
  IO.print result.output
  if !result.complaint.isEmpty then IO.eprintln ("Error: " ++ result.complaint)
  return UInt32.ofNat result.code
