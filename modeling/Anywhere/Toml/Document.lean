import Anywhere.Toml.Scalar

/-!
# Reading TOML documents

A document is a sequence of lines: headers, and members of the table that the last header opened.
The lines are read first, and then put together. Arrays and tables that are written as values nest
less than 80 deep, and a key has fewer than 80 parts.
-/

namespace Anywhere.Toml

open Text

/-- A bound on nesting and on the number of parts of a key. -/
def maxDepth : Nat := 80

/-- The parts of a key in front of the last one, and the last one. -/
structure Key where
  path : List String
  name : String
deriving DecidableEq, Repr

/-- The key with the given parts. -/
def Key.ofParts? (parts : List String) : Option Key :=
  match parts.getLast? with
  | some name => if parts.length < maxDepth then some ⟨parts.dropLast, name⟩ else none
  | none => none

/-- Adds a member. -/
def Members.put (origin : Origin) (members : Members) (key : Key) (value : Toml) :
    Option Members :=
  members.insert key.path key.name value origin

/-- One line of a document. -/
inductive Line where
  | blank
  | header (key : Key)
  | elementHeader (key : Key)
  | member (key : Key) (value : Toml)

namespace Reader

open Text.Reader

/-- A character of a part of a key that stands without quotes. -/
def isBare (c : Char) : Bool := c.isAlphanum || c == '-' || c == '_'

/-- A part of a key, with the white space around it. -/
def part : Reader String := do
  let _ ← run isSpace
  let text ← lineString <|> someRun isBare
  let _ ← run isSpace
  return String.ofList text

/-- A key. -/
def key : Reader Key := do
  let first ← part
  let rest ← many (char '.' *> part)
  match Key.ofParts? (first :: rest) with
  | some key => return key
  | none => failure

/-- A comment. -/
def comment : Reader Unit := char '#' *> (fun _ => ()) <$> run isPrintable

/-- White space, line breaks and comments between the items of an array. -/
def padding : Reader Unit :=
  (fun _ => ()) <$>
    many (((fun _ => ()) <$> someRun isSpace) <|> lineBreak <|> (comment *> lineBreak))

/-- A member whose value is read by `value`. -/
def member (value : Reader Toml) : Reader (Key × Toml) := do
  let key ← key
  char '='
  let _ ← run isSpace
  let value ← value
  let _ ← run isSpace
  return (key, value)

/-- An array whose items are read by `value`. -/
def array (value : Reader Toml) : Reader Toml := do
  char '['
  let items ← separated (padding *> value <* padding) (char ',')
  if !items.isEmpty then
    let _ ← optional (char ',')
  padding
  char ']'
  return .array items

/-- A table whose values are read by `value`. -/
def inlineTable (value : Reader Toml) : Reader Toml := do
  char '\x7b'
  let members ← separated (member value) (char ',')
  let _ ← run isSpace
  char '\x7d'
  match members.foldlM (fun made (key, value) => Members.put .header made key value) [] with
  | some made => return .table .inline made
  | none => failure

/-- A value in which arrays and tables nest at most `depth` deep. -/
def value : (depth : Nat) → Reader Toml
  | 0 => scalar
  | depth + 1 => scalar <|> array (value depth) <|> inlineTable (value depth)

/-- The end of a line. -/
def lineEnd : Reader Unit := do
  let _ ← run isSpace
  let _ ← optional comment
  lineBreak <|> atEnd

/-- A line, which is not the empty end of the document. -/
def line : Reader Line :=
  (lineBreak *> pure .blank) <|> (comment *> (lineBreak <|> atEnd) *> pure .blank) <|>
    (word ['[', '['] *> Line.elementHeader <$> key <* word [']', ']'] <* lineEnd) <|>
    (char '[' *> Line.header <$> key <* char ']' <* lineEnd) <|>
    ((fun (key, value) => Line.member key value) <$> member (value (maxDepth - 1)) <* lineEnd)

/-- All lines of a document. A mark of the byte order may stand in front of it. -/
def lines : Reader (List Line) := do
  let _ ← optional (char '\uFEFF')
  let _ ← run isSpace
  many (line <* run isSpace)

end Reader

/-- The tables that the lines so far made, and where members go. -/
structure Assembly where
  members : Members
  /-- The path of the table that the last header opened. -/
  current : List String

namespace Assembly

/-- Nothing but the document itself. -/
def empty : Assembly := ⟨[], []⟩

/-- Takes one line. -/
def step (a : Assembly) : Line → Option Assembly
  | .blank => some a
  | .header key => do
    let members ← a.members.within .path (fun _ => Members.openTable key.name) key.path .header
    return ⟨members, key.path ++ [key.name]⟩
  | .elementHeader key => do
    let members ← a.members.within .path (fun _ => Members.openElement key.name) key.path .header
    return ⟨members, key.path ++ [key.name]⟩
  | .member key value => do
    let members ← a.members.within .path (fun origin inner => inner.put origin key value)
      a.current .header
    return ⟨members, a.current⟩

end Assembly

/-- The members of the document that a text is. -/
def ofText? (text : String) : Option Members := do
  let lines ← Text.Reader.whole Reader.lines text.toList
  return (← lines.foldlM Assembly.step .empty).members

end Anywhere.Toml
