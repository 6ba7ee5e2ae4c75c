import Anywhere.Fault
import Anywhere.Text.Case
import Anywhere.Text.Utf8

/-!
# Connection strings

A connection string names the parameters of a connection: `ServerName=demo;UserID=dba;Idle=0`. It
is read from left to right. Separators may be doubled or stand at the ends, a name is what precedes
the first `=`, a value is what follows it up to the next separator, and neither keeps the white
space around it.

A string that is shown to someone has its passwords masked; the mask can be read like any other
value.
-/

namespace Anywhere

open Text

/-- Parameters in the order in which they were written. -/
structure ConnectionString where
  parameters : List (String × String)
deriving DecidableEq, Repr

namespace ConnectionString

/-! ## Reading -/

/-- What may stand in the name of a parameter. -/
def isNameChar (c : Char) : Bool := c != '=' && c != ';'

/-- What may stand in the value of a parameter. -/
def isValueChar (c : Char) : Bool := c != ';'

/-- The text up to the next separator. -/
def segment (text : List Char) : List Char := text.takeWhile isValueChar

/-- The name and value at the front of a text, as they are written. -/
def pair? (text : List Char) : Option (List Char × List Char) :=
  match text.takeWhile isNameChar, text.dropWhile isNameChar with
  | c :: name, '=' :: rest => some (c :: name, segment rest)
  | _, _ => none

/-- Reads the parameters of a text whose first byte has the given position. -/
def readFrom (position : Nat) (text : List Char) : Except Fault (List (String × String)) :=
  match text with
  | [] => .ok []
  | c :: rest =>
    if c = ';' then readFrom (position + 1) rest
    else match pair? (c :: rest) with
      | none =>
        .error (.parse position (.entryExpected (String.ofList (segment (c :: rest)))))
      | some (name, value) =>
        match stripBlanks name with
        | [] => .error (.parse position .emptyParameterName)
        | name => do
          let next := position + Utf8.size (segment (c :: rest))
          let parameters ← readFrom next (rest.dropWhile isValueChar)
          return (String.ofList name, String.ofList (stripBlanks value)) :: parameters
termination_by text.length
decreasing_by
  · simp
  · have shorter := (List.dropWhile_suffix isValueChar (l := rest)).length_le
    simp only [List.length_cons]
    omega

/-- Reads a connection string. -/
def ofText? (text : String) : Except Fault ConnectionString :=
  (readFrom 0 text.toList).map ConnectionString.mk

/-! ## Looking up and showing -/

/-- The first value of a parameter, whatever the case of its name. -/
def get? (s : ConnectionString) (name : String) : Option String :=
  (s.parameters.find? fun (n, _) => eqIgnoringCase n name).map (·.2)

/-- The character set of the connection. -/
def charset? (s : ConnectionString) : Option String := s.get? "CharSet"

/-- The value of the parameter is a password. -/
def isSecret (name : String) : Bool :=
  eqIgnoringCase name "Password" || eqIgnoringCase name "PWD"

/-- Stands for a password. -/
def mask : String := "********"

/-- A parameter as it is shown to someone. -/
def masked : String × String → String × String
  | (name, value) => (name, if isSecret name then mask else value)

/-- A parameter as text. -/
def entryText : String × String → String
  | (name, value) => name ++ "=" ++ value

/-- The parameters as text. -/
def toText (s : ConnectionString) : String := ";".intercalate (s.parameters.map entryText)

/-- The connection string as it is shown to someone. -/
def maskedText (s : ConnectionString) : String := toText ⟨s.parameters.map masked⟩

@[simp] theorem readFrom_nil (position : Nat) : readFrom position [] = .ok [] := by
  rw [readFrom]

@[simp] theorem readFrom_separator (position : Nat) (rest : List Char) :
    readFrom position (';' :: rest) = readFrom (position + 1) rest := by
  rw [readFrom]
  simp

end ConnectionString

end Anywhere
