import Anywhere.Calendar.Reader
import Anywhere.Json.Record
import Anywhere.LogicalType
import Anywhere.Number.Decimal
import Anywhere.Number.Shortest
import Anywhere.Text.Hex

/-!
# Values

What is bound into a statement or fetched from a row. Equality of values is decided bit by bit;
`Value.same` is the comparison of what they denote, in which decimals are equal when they are the
same number and a double that is no number differs from everything.
-/

namespace Anywhere

open Number Calendar

/-- A typed value. -/
inductive Value where
  | null
  | bool (value : Bool)
  | int (value : Int64)
  | float (value : Double)
  | decimal (value : Decimal)
  | date (value : Date)
  | time (value : Time)
  | dateTime (value : DateTime)
  | text (value : String)
  | binary (bytes : List UInt8)
deriving DecidableEq, Repr

namespace Value

/-- The portable type of a value. Null passes for a string. -/
def logicalType : Value → LogicalType
  | null => .string
  | bool _ => .boolean
  | int _ => .integer
  | float _ => .float
  | decimal _ => .decimal
  | date _ => .date
  | time _ => .time
  | dateTime _ => .dateTime
  | text _ => .text
  | binary _ => .binary

/-- The two denote the same. -/
def same : Value → Value → Bool
  | float x, float y => x.same y
  | decimal x, decimal y => x.same y
  | x, y => decide (x = y)

/-- The value is null. -/
def isNull : Value → Bool
  | null => true
  | _ => false

/-- The text of character data. -/
def text? : Value → Option String
  | text s => some s
  | _ => none

/-- An integer of 64 bits with a sign, if the number is one. -/
def int64? (n : Int) : Option Int64 :=
  if -0x8000000000000000 ≤ n ∧ n < 0x8000000000000000 then some (Int64.ofInt n) else none

/-- The integer that a value stands for: an integer, a truth value as 1 or 0, or a decimal without a
fraction. -/
def integer? : Value → Option Int64
  | int n => some n
  | bool b => some (if b then 1 else 0)
  | decimal d => d.toInt?.bind int64?
  | _ => none

/-- The truth value that a value stands for, the way small integer columns and flags store it. -/
def truth? : Value → Option Bool
  | bool b => some b
  | int n => some (n != 0)
  | text s =>
    if ["1", "t", "true", "TRUE", "Y"].contains s then some true
    else if ["0", "f", "false", "FALSE", "N"].contains s then some false
    else none
  | _ => none

/-- The text shown for a value. -/
def display : Value → String
  | null => "NULL"
  | bool true => "true"
  | bool false => "false"
  | int n => ofInt n.toInt
  | float x => x.toText
  | decimal d => d.toText
  | date d => String.ofList d.text
  | time t => String.ofList t.text
  | dateTime t => String.ofList (t.text ' ')
  | text s => s
  | binary bytes => "0x" ++ Text.Hex.upper bytes

/-! ## Values in documents -/

/-- The name of the type in documents. -/
def kind : Value → String
  | null => "null"
  | bool _ => "bool"
  | int _ => "int"
  | float _ => "float"
  | decimal _ => "decimal"
  | date _ => "date"
  | time _ => "time"
  | dateTime _ => "date_time"
  | text _ => "text"
  | binary _ => "binary"

/-- The content of a value in documents, doubles being written by `float`. -/
def content (float : Double → Json) : Value → Json
  | null => .null
  | bool b => .bool b
  | int n => .int n.toInt
  | .float x => float x
  | decimal d => .text d.toText
  | date d => .text (String.ofList d.text)
  | time t => .text (String.ofList t.text)
  | dateTime t => .text (String.ofList (t.text 'T'))
  | text s => .text s
  | binary bytes => .array (bytes.map fun b => .int b.toNat)

/-- The document of a value, doubles being written by `float`. -/
def toJson (float : Double → Json) : Value → Json
  | null => .obj [("type", .text "null")]
  | v => .obj [("type", .text v.kind), ("value", v.content float)]

/-- The value of the given type that has the given content. -/
def ofContent? (kind : String) (content : Json) : Option Value :=
  match kind with
  | "null" => match content with
    | .null => some null
    | _ => none
  | "bool" => content.bool?.map bool
  | "int" => (content.int?.bind int64?).map int
  | "float" => content.double?.map float
  | "decimal" => (content.text?.bind fun s => Decimal.ofText? s.toList).map decimal
  | "date" => (content.text?.bind (Date.ofText? .spaced)).map date
  | "time" => (content.text?.bind (Time.ofText? .spaced)).map time
  | "date_time" => (content.text?.bind (DateTime.ofText? .spaced)).map dateTime
  | "text" => content.text?.map text
  | "binary" => (content.list? fun item => (item.natBelow? 256).map UInt8.ofNat).map binary
  | _ => none

/-- The value that a document describes: an object with type and content, or an array of the two.
Only null has no content. -/
def ofJson? : Json → Option Value
  | .array items => match items with
    | [kind, content] => do ofContent? (← kind.bareChoice?) content
    | _ => none
  | document => do
    match ← document.fields? ["type", "value"] with
    | [some kind, content] =>
      let kind ← kind.bareChoice?
      match content with
      | some content => ofContent? kind content
      | none => if kind = "null" then some null else none
    | _ => none

end Value

end Anywhere
