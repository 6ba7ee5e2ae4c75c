import Anywhere.Column.TypeName
import Anywhere.LogicalType
import Anywhere.Text.Split

/-!
# Column types and logical types

Both directions of the type mapping: the column type that a schema change writes for a logical type
with its size, and the logical type and size that a column type of the catalog stands for.
-/

namespace Anywhere.Column

/-- A column type in SQL with one number in parentheses. -/
def sized (name : String) (size : UInt32) : String :=
  name ++ " (" ++ Number.ofNat size.toNat ++ ")"

/-- The integer type for a width in bytes. There are no integer columns of other widths. -/
def integerType : Option UInt32 → String
  | some 1 => "tinyint"
  | some 2 => "smallint"
  | some n => if 5 ≤ n ∧ n ≤ 8 then "bigint" else "integer"
  | none => "integer"

/-- The column type that a schema change writes for a logical type. -/
def definition (type : LogicalType) (limit precision scale : Option UInt32) : String :=
  match type with
  | .integer => integerType limit
  | .string => match limit with
    | some n => sized "varchar" n
    | none => "varchar(255)"
  | .boolean => "tinyint"
  | .binary => match limit with
    | some n => sized "binary" n
    | none => "long binary"
  | .decimal => match precision, scale with
    | some p, some s =>
      "decimal(" ++ Number.ofNat p.toNat ++ "," ++ Number.ofNat s.toNat ++ ")"
    | some p, none => "decimal(" ++ Number.ofNat p.toNat ++ ")"
    | none, _ => "decimal"
  | type => type.defaultColumn.1

/-- The logical type of the columns of a type, given by its words in lower case. Types that are not
known by name are told by what their name contains. -/
def logicalType (name : String) : LogicalType :=
  if ["boolean", "tinyint", "bit"].contains name then .boolean
  else if ["char", "varchar", "nchar", "nvarchar", "xml", "uniqueidentifierstr"].contains name then
    .string
  else if ["text", "long varchar", "long nvarchar", "ntext"].contains name then .text
  else if ["binary", "varbinary", "long binary", "image"].contains name then .binary
  else if name = "date" then .date
  else if name = "time" then .time
  else if ["timestamp", "timestamp with time zone"].contains name then .timestamp
  else if ["datetime", "smalldatetime"].contains name then .dateTime
  else if ["decimal", "numeric", "money", "smallmoney"].contains name then .decimal
  else if ["float", "double", "real"].contains name then .float
  else if ["int", "integer", "smallint", "bigint", "unsigned int", "unsigned smallint",
      "unsigned bigint", "uniqueidentifier"].contains name then .integer
  else if Text.occursIn "int".toList name.toList then .integer
  else if Text.occursIn "char".toList name.toList then .string
  else if Text.occursIn "binary".toList name.toList then .binary
  else .string

/-- A text without the occurrences of `part` at its front, at most `limit` of them. -/
def dropRepeated (part : List Char) : (limit : Nat) → List Char → List Char
  | 0, text => text
  | limit + 1, text =>
    if part.isPrefixOf text then dropRepeated part limit (text.drop part.length) else text

/-- The width in bytes that the name of an integer type implies. -/
def impliedWidth (name : String) : Option UInt32 :=
  let lower := (Text.asciiLowercase name).toList
  let base := Text.stripBlanks (dropRepeated "unsigned ".toList lower.length lower)
  if "tinyint".toList.isPrefixOf base || "bit".toList.isPrefixOf base then some 1
  else if "smallint".toList.isPrefixOf base then some 2
  else if "integer".toList.isPrefixOf base || base == "int".toList then some 4
  else if "bigint".toList.isPrefixOf base then some 8
  else none

/-- What is known about the type of a column. -/
structure Metadata where
  sqlType : String
  type : LogicalType
  limit : Option UInt32
  precision : Option UInt32
  scale : Option UInt32
deriving DecidableEq, Repr

/-- The metadata of a type name. Numbers in parentheses are precision and scale for decimals, say
nothing about integers, and limit all other types. -/
def Metadata.ofTypeName (sqlType : String) (name : TypeName) : Metadata :=
  match logicalType name.words with
  | .decimal => ⟨sqlType, .decimal, none, name.width, name.scale⟩
  | .integer => ⟨sqlType, .integer, impliedWidth name.words, none, none⟩
  | .boolean => ⟨sqlType, .boolean, impliedWidth name.words, none, none⟩
  | type => ⟨sqlType, type, name.width, none, none⟩

/-- The metadata of a column type as the catalog writes it. -/
def Metadata.ofText? (text : String) : Except Fault Metadata :=
  (TypeName.ofText? text).map (Metadata.ofTypeName (Text.trim text))

/-- The column type that stands for the metadata. -/
def Metadata.definition (m : Metadata) : String :=
  Column.definition m.type m.limit m.precision m.scale

end Anywhere.Column
