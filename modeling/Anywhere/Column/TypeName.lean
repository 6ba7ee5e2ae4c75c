import Anywhere.Fault
import Anywhere.Number.Digits
import Anywhere.Text.Alphanumeric
import Anywhere.Text.Blank
import Anywhere.Text.Utf8

/-!
# Column type names

The catalog names column types by one or more words, which may be followed by a width, or a width
and a scale, in parentheses: `varchar(80)`, `numeric(10, 2)`, `long varchar`.
-/

namespace Anywhere.Column

open Anywhere.Number (ofDigits spanDigits)

/-- A type name with its words in lower case and the numbers in its parentheses. -/
structure TypeName where
  words : String
  width : Option UInt32
  scale : Option UInt32
deriving DecidableEq, Repr

namespace TypeName

/-- A character of a word, or the space between words. -/
def isNameChar (c : Char) : Bool := Text.isAlphanumeric c || c == '_' || c == ' '

/-- White space around the numbers. -/
def isSpace (c : Char) : Bool := c == ' ' || c == '\t' || c == '\r' || c == '\n'

/-- A text without the white space in front of it. -/
def skip (text : List Char) : List Char := text.dropWhile isSpace

/-- A number of 32 bits at the front of a text, and the rest. -/
def number? (text : List Char) : Option (UInt32 × List Char) :=
  match spanDigits text with
  | ([], _) => none
  | (run, rest) =>
    if ofDigits run < UInt32.size then some (UInt32.ofNat (ofDigits run), rest) else none

/-- A comma and the number behind it. -/
def scale? (text : List Char) : Option (UInt32 × List Char) :=
  match skip text with
  | ',' :: rest => number? (skip rest)
  | _ => none

/-- The numbers in parentheses at the front of a text, and the rest. -/
def arguments? : List Char → Option ((UInt32 × Option UInt32) × List Char)
  | '(' :: text => do
    let (width, text) ← number? (skip text)
    let (scale, text) := match scale? text with
      | some (scale, rest) => (some scale, rest)
      | none => (none, text)
    match skip text with
    | ')' :: rest => return ((width, scale), rest)
    | _ => none
  | _ => none

/-- The words of a name with single spaces between them, in lower case. -/
def joinWords (name : List Char) : String :=
  Text.lowercase (String.ofList ([' '].intercalate (Text.words name)))

/-- Reads a type name. What is left over behind the name and its numbers is refused. -/
def ofText? (text : String) : Except Fault TypeName :=
  let trimmed := Text.stripBlanks text.toList
  match trimmed.takeWhile isNameChar with
  | [] => .error (.parse 0 (.invalidTypeName (String.ofList trimmed)))
  | name =>
    let rest := trimmed.dropWhile isNameChar
    let (arguments, rest) := match arguments? rest with
      | some (arguments, rest) => (some arguments, rest)
      | none => (none, rest)
    match skip rest with
    | [] => .ok ⟨joinWords name, arguments.map (·.1), arguments.bind (·.2)⟩
    | rest => .error (.parse (Text.Utf8.size trimmed - Text.Utf8.size rest)
        (.trailingContent (String.ofList trimmed) (String.ofList rest)))

end TypeName

end Anywhere.Column
