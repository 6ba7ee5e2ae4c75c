import Anywhere.Text.Case

/-!
# Logical types

The portable column types. Each has a name under which schema changes ask for it, a name in
documents, and the column type that stands for it when nothing more is known.
-/

namespace Anywhere

/-- A portable column type. -/
inductive LogicalType where
  | primaryKey
  | string
  | text
  | integer
  | float
  | decimal
  | dateTime
  | timestamp
  | time
  | date
  | binary
  | boolean
deriving DecidableEq, Repr

namespace LogicalType

/-- All logical types. -/
def all : List LogicalType :=
  [primaryKey, string, text, integer, float, decimal, dateTime, timestamp, time, date, binary,
    boolean]

theorem mem_all (t : LogicalType) : t ∈ all := by cases t <;> decide

/-- The name by which callers ask for the type. -/
def name : LogicalType → String
  | primaryKey => "primary_key"
  | string => "string"
  | text => "text"
  | integer => "integer"
  | float => "float"
  | decimal => "decimal"
  | dateTime => "datetime"
  | timestamp => "timestamp"
  | time => "time"
  | date => "date"
  | binary => "binary"
  | boolean => "boolean"

/-- The name of the type in documents. -/
def documentName : LogicalType → String
  | dateTime => "date_time"
  | t => t.name

/-- The column type that stands for the type, and the size it has by default. Booleans are stored
as `tinyint` because `bit` columns cannot be null. -/
def defaultColumn : LogicalType → String × Option UInt32
  | primaryKey => ("INTEGER PRIMARY KEY DEFAULT AUTOINCREMENT NOT NULL", none)
  | string => ("varchar", some 255)
  | text => ("long varchar", none)
  | integer => ("integer", some 4)
  | float => ("float", none)
  | decimal => ("decimal", none)
  | dateTime => ("datetime", none)
  | timestamp => ("datetime", none)
  | time => ("time", none)
  | date => ("date", none)
  | binary => ("binary", none)
  | boolean => ("tinyint", some 1)

/-- The type with the given name, the case of its letters aside. -/
def ofName? (text : String) : Option LogicalType :=
  all.find? fun t => Text.eqIgnoringCase t.name text

/-- Every type is found under its name. -/
theorem ofName?_name (t : LogicalType) : ofName? t.name = some t := by
  cases t <;> decide +kernel

end LogicalType

end Anywhere
