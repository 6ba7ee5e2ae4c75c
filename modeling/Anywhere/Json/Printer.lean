import Anywhere.Json.Basic
import Anywhere.Text.Hex

/-!
# Printing documents

Two layouts: everything on one line, and one item per line with an indentation of two spaces. In
strings the quote, the backslash and the control characters are escaped and nothing else is.
-/

namespace Anywhere.Json

/-- A character of a string, escaped if need be. -/
def quotedChar (c : Char) : List Char :=
  match c with
  | '"' => ['\\', '"']
  | '\\' => ['\\', '\\']
  | '\x08' => ['\\', 'b']
  | '\x0C' => ['\\', 'f']
  | '\n' => ['\\', 'n']
  | '\r' => ['\\', 'r']
  | '\t' => ['\\', 't']
  | c =>
    if c.toNat < 0x20 then ['\\', 'u', '0', '0'] ++ Text.Hex.lowerByte (UInt8.ofNat c.toNat)
    else [c]

/-- A string in quotes. A string without a text prints as an empty one. -/
def quoted (text : Option String) : String :=
  String.ofList ('"' :: (text.getD "").toList.flatMap quotedChar ++ ['"'])

/-- The texts of items between brackets, with the layout of a container that is indented by
`indent`; without an indentation everything stays on one line. -/
def enclose (left right : String) (indent : Option Nat) (items : List String) : String :=
  if items.isEmpty then left ++ right
  else match indent with
    | none => left ++ ",".intercalate items ++ right
    | some n =>
      let line := "\n" ++ String.ofList (List.replicate (n + 2) ' ')
      left ++ line ++ ("," ++ line).intercalate items ++ "\n" ++
        String.ofList (List.replicate n ' ') ++ right

mutual

/-- The text of a document that is indented by `indent`, or of one on one line. -/
def print (indent : Option Nat) : Json → String
  | .null => "null"
  | .bool true => "true"
  | .bool false => "false"
  | .number numeral => String.ofList numeral.text
  | .string text => quoted text
  | .array items => enclose "[" "]" indent (printItems (indent.map (· + 2)) items)
  | .object members =>
    enclose "\x7b" "\x7d" indent
      (printMembers (if indent.isSome then ": " else ":") (indent.map (· + 2)) members)

/-- The texts of the items of an array. -/
def printItems (indent : Option Nat) : List Json → List String
  | [] => []
  | item :: rest => print indent item :: printItems indent rest

/-- The texts of the members of an object. -/
def printMembers (colon : String) (indent : Option Nat) : List (Option String × Json) → List String
  | [] => []
  | (key, value) :: rest =>
    (quoted key ++ colon ++ print indent value) :: printMembers colon indent rest

end

/-- The text of a document on one line. -/
def compact (document : Json) : String := document.print none

/-- The text of a document with one item per line. -/
def pretty (document : Json) : String := document.print (some 0)

end Anywhere.Json
