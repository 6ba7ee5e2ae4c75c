/-!
# Command line arguments

The program is given a verb with its own options and at most one operand. Options have long names,
and most of them a letter; letters may be joined, and a value may follow its option in the same
argument or in the next one. Nothing may be given twice to the same verb, and what stands behind
`--` is an operand. Arguments are taken from left to right, so a request for help counts as long as
nothing in front of it is wrong.
-/

namespace Anywhere.CommandLine

/-- An option. -/
inductive Switch where
  | verbose
  | format
  | config
  | showPassword
  | help
  | version
deriving DecidableEq, Repr

/-- What the program is to do. -/
inductive Verb where
  | translate
  | connstr
  | types
  | parseType
deriving DecidableEq, Repr

/-- What there is help about. -/
inductive Topic where
  | program
  | verb (verb : Verb)
  | help
deriving DecidableEq, Repr

/-- How the result of `translate` is written. -/
inductive Format where
  | text
  | json
deriving DecidableEq, Repr

/-- A verb with all that belongs to it. -/
inductive Command where
  | translate (input : String) (format : Format)
  | connstr (config : Option String) (showPassword : Bool)
  | types
  | parseType (type : String)
deriving DecidableEq, Repr

/-- What the arguments ask for. -/
inductive Invocation where
  | run (command : Command)
  | help (topic : Topic)
  | version
deriving DecidableEq, Repr

namespace Switch

/-- The long name. -/
def name : Switch → String
  | verbose => "verbose"
  | format => "format"
  | config => "config"
  | showPassword => "show-password"
  | help => "help"
  | version => "version"

/-- The letter. -/
def letter? : Switch → Option Char
  | verbose => some 'v'
  | format => some 'f'
  | config => some 'c'
  | showPassword => none
  | help => some 'h'
  | version => some 'V'

/-- What stands for the value of an option that has one. -/
def valueName? : Switch → Option String
  | format => some "FORMAT"
  | config => some "CONFIG"
  | _ => none

end Switch

/-- The name of a format. -/
def Format.name : Format → String
  | text => "text"
  | json => "json"

/-- The format of the given name. -/
def Format.ofName? (name : String) : Option Format := [text, json].find? (·.name == name)

/-- The value can be given to the option. -/
def Switch.accepts : Switch → String → Bool
  | format, value => (Format.ofName? value).isSome
  | config, value => !value.isEmpty
  | _, _ => true

namespace Verb

/-- All verbs. -/
def all : List Verb := [translate, connstr, types, parseType]

def name : Verb → String
  | translate => "translate"
  | connstr => "connstr"
  | types => "types"
  | parseType => "parse-type"

/-- The verb of the given name. -/
def ofName? (name : String) : Option Verb := all.find? (·.name == name)

/-- The options of a verb, in the order in which help lists them. -/
def switches : Verb → List Switch
  | translate => [.format, .verbose, .help]
  | connstr => [.config, .verbose, .showPassword, .help]
  | types => [.verbose, .help]
  | parseType => [.verbose, .help]

/-- What stands for the operand of a verb that has one. -/
def operandName? : Verb → Option String
  | translate => some "INPUT"
  | parseType => some "SQL_TYPE"
  | _ => none

end Verb

/-- The options that may stand in front of the verb. -/
def programSwitches : List Switch := [.verbose, .help, .version]

/-- The name of the verb that gives help. -/
def helpName : String := "help"

/-! ## Taking arguments -/

/-- Why no more arguments are taken. -/
inductive Stop where
  | help
  | version
  | misuse
deriving DecidableEq, Repr

/-- What was given so far. -/
structure Given where
  switches : List (Switch × String)
  operand : Option String
deriving DecidableEq, Repr

namespace Given

/-- Nothing yet. -/
def nothing : Given := ⟨[], none⟩

/-- The option was given. -/
def has (g : Given) (switch : Switch) : Bool := g.switches.any (·.1 == switch)

/-- The value of an option. -/
def value? (g : Given) (switch : Switch) : Option String := g.switches.lookup switch

/-- Takes an option. -/
def addSwitch (g : Given) (switch : Switch) (value : String) : Except Stop Given :=
  match switch with
  | .help => .error .help
  | .version => .error .version
  | switch =>
    if g.has switch || !switch.accepts value then .error .misuse
    else .ok { g with switches := (switch, value) :: g.switches }

/-- Takes an operand, if there is one to be taken. -/
def addOperand (g : Given) (wanted : Bool) (operand : String) : Except Stop Given :=
  if wanted && g.operand.isNone then .ok { g with operand := some operand } else .error .misuse

/-- Takes joined letters. An option whose value has to follow is left over. -/
def addLetters (known : List Switch) (g : Given) : List Char → Except Stop (Given × Option Switch)
  | [] => .ok (g, none)
  | c :: rest =>
    match known.find? (·.letter? == some c) with
    | none => .error .misuse
    | some switch =>
      if switch.valueName?.isSome then
        match rest with
        | [] => .ok (g, some switch)
        | '=' :: value => do return (← g.addSwitch switch (String.ofList value), none)
        | value => do return (← g.addSwitch switch (String.ofList value), none)
      else do addLetters known (← g.addSwitch switch "") rest

/-- Takes a long name, behind which there may be a value. An option whose value has to follow is
left over. -/
def addName (known : List Switch) (g : Given) (text : List Char) :
    Except Stop (Given × Option Switch) :=
  let name := text.takeWhile (· != '=')
  match known.find? (·.name.toList == name), text.dropWhile (· != '=') with
  | none, _ => .error .misuse
  | some switch, '=' :: value =>
    if switch.valueName?.isSome then do
      return (← g.addSwitch switch (String.ofList value), none)
    else .error .misuse
  | some switch, _ =>
    if switch.valueName?.isSome then .ok (g, some switch)
    else do return (← g.addSwitch switch "", none)

end Given

/-- What an argument looks like. -/
inductive Look where
  /-- Everything behind it is an operand. -/
  | separator
  | name (text : List Char)
  | letters (text : List Char)
  | plain

/-- What an argument looks like. A hyphen alone is an operand. -/
def Look.ofArgument (argument : String) : Look :=
  match argument.toList with
  | ['-', '-'] => .separator
  | '-' :: '-' :: text => .name text
  | ['-'] => .plain
  | '-' :: text => .letters text
  | _ => .plain

/-- Takes an argument that is an option. -/
def Given.addOption? (known : List Switch) (g : Given) (look : Look) :
    Option (Except Stop (Given × Option Switch)) :=
  match look with
  | .name text => some (g.addName known text)
  | .letters text => some (g.addLetters known text)
  | _ => none

/-- Takes the arguments behind a verb. -/
def Given.addAll (verb : Verb) (g : Given) : List String → Except Stop Given
  | [] => .ok g
  | argument :: rest =>
    match Look.ofArgument argument with
    | .separator => rest.foldlM (·.addOperand verb.operandName?.isSome ·) g
    | look =>
      match g.addOption? verb.switches look with
      | none => do addAll verb (← g.addOperand verb.operandName?.isSome argument) rest
      | some (.error stop) => .error stop
      | some (.ok (g, none)) => addAll verb g rest
      | some (.ok (g, some switch)) =>
        match rest with
        | [] => .error .misuse
        | value :: rest =>
          match Look.ofArgument value with
          | .plain => do addAll verb (← g.addSwitch switch value) rest
          | _ => .error .misuse

/-- The verb with what was given to it, unless something is missing. -/
def Command.ofGiven? (verb : Verb) (g : Given) : Option Command :=
  match verb with
  | .translate => g.operand.map fun input =>
    .translate input (((g.value? .format).bind Format.ofName?).getD .text)
  | .connstr => some (.connstr (g.value? .config) (g.has .showPassword))
  | .types => some .types
  | .parseType => g.operand.map .parseType

/-! ## Invocations -/

namespace Invocation

/-- What the arguments behind a verb ask for. -/
def ofVerb? (verb : Verb) (arguments : List String) : Option Invocation :=
  match Given.nothing.addAll verb arguments with
  | .ok g => (Command.ofGiven? verb g).map run
  | .error .help => some (help (.verb verb))
  | .error _ => none

/-- What the names behind the verb for help ask for. -/
def ofHelp? : List String → Option Invocation
  | [] => some (help .program)
  | [name] =>
    if name = helpName then some (help .help) else (Verb.ofName? name).map (help <| .verb ·)
  | _ => none

/-- What the arguments ask for, when `g` was given before them. -/
def ofArgumentsFrom (g : Given) : List String → Option Invocation
  | [] => none
  | argument :: rest =>
    if argument = helpName then ofHelp? rest
    else match Verb.ofName? argument with
      | some verb => ofVerb? verb rest
      | none =>
        match g.addOption? programSwitches (Look.ofArgument argument) with
        | some (.ok (g, none)) => ofArgumentsFrom g rest
        | some (.error .help) => some (help .program)
        | some (.error .version) => some version
        | _ => none

/-- What the arguments ask for, if they are well-formed. -/
def ofArguments? (arguments : List String) : Option Invocation :=
  ofArgumentsFrom .nothing arguments

end Invocation

end Anywhere.CommandLine
