import Anywhere.Fault
import Anywhere.Text.Split
import Anywhere.Value

/-!
# Names and literals in SQL text

Names stand in double quotes, and the characters that could end them early, the quote and the
backslash, are left out. Character data stands in single quotes with both of its special characters
doubled. Bytes and numbers without a finite value have no literal; they can only be sent as
parameters.
-/

namespace Anywhere

namespace Name

/-- A character that a quoted name cannot hold. -/
def isSpecial (c : Char) : Bool := c == '\\' || c == '"'

/-- A name without the characters that a quoted name cannot hold. -/
def plain (name : List Char) : List Char := name.filter (!isSpecial ·)

/-- A name in double quotes. -/
def quotedChars (name : List Char) : List Char := '"' :: plain name ++ ['"']

/-- A name in double quotes. -/
def quoted (name : String) : String := String.ofList (quotedChars name.toList)

/-- A table name with each part between the dots in double quotes. -/
def quotedPath (name : String) : String :=
  String.ofList (['.'].intercalate ((Text.pieces '.' name.toList).map quotedChars))

end Name

namespace Literal

/-- A character of a text between single quotes. -/
def escapedChar (c : Char) : List Char :=
  if c == '\\' then ['\\', '\\'] else if c == '\'' then ['\'', '\''] else [c]

/-- A text as it stands between single quotes. -/
def escaped (text : List Char) : List Char := text.flatMap escapedChar

/-- A text as it stands between single quotes. -/
def escape (text : String) : String := String.ofList (escaped text.toList)

/-- A text in single quotes. -/
def ofChars (text : List Char) : String := String.ofList ('\'' :: escaped text ++ ['\''])

/-- A text in single quotes. -/
def ofText (text : String) : String := ofChars text.toList

end Literal

namespace Value

/-- The literal of a value, if it has one. Truth values are written as numbers. -/
def literal? : Value → Option String
  | null => some "NULL"
  | bool true => some "1"
  | bool false => some "0"
  | int n => some (Number.ofInt n.toInt)
  | float x => if x.isFinite then some x.toText else none
  | decimal d => some d.toText
  | date d => some (Literal.ofChars d.text)
  | time t => some (Literal.ofChars t.text)
  | dateTime t => some (Literal.ofChars (t.text ' '))
  | text s => some (Literal.ofText s)
  | binary _ => none

/-- The literal of a value; a value without one is refused. -/
def literal (v : Value) : Except Fault String :=
  match v.literal? with
  | some sql => .ok sql
  | none => .error (.argument (.unquotable v.logicalType))

/-- Bytes have no literal. -/
@[simp] theorem literal?_binary (bytes : List UInt8) : (binary bytes).literal? = none := rfl

/-- A value is refused exactly when it has no literal. -/
theorem literal_eq_error_iff {v : Value} {fault : Fault} :
    v.literal = .error fault ↔
      v.literal? = none ∧ fault = .argument (.unquotable v.logicalType) := by
  unfold literal
  split <;> rename_i h <;> simp [h, eq_comm]

end Value

end Anywhere
