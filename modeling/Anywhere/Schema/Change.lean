import Anywhere.Column.Definition
import Anywhere.Sql.Literal
import Anywhere.Text.Case

/-!
# Schema changes

A change of the schema is one or more statements. Each is a value of its own, so that what a
sequence of them does can be said without reading SQL, and has one text. Defaults are literals:
a value that has none cannot be one.
-/

namespace Anywhere.Schema

/-- One statement that changes the schema, or the rows so that the schema can change. Defaults and
types are SQL text. -/
inductive Statement where
  | renameTable (table newName : String)
  | renameColumn (table column newName : String)
  | setDefault (table column default : String)
  /-- Replaces the nulls of a column. -/
  | fillNulls (table column value : String)
  | setNullable (table column : String) (nullable : Bool)
  | setType (table column type : String) (default : Option String) (nullable : Option Bool)
  | dropColumn (table column : String)
  | dropIndex (table index : String)
deriving DecidableEq, Repr

/-- Whether nulls are allowed, in SQL. -/
def nullability (nullable : Bool) : String := if nullable then "NULL" else "NOT NULL"

namespace Statement

/-- The front of every statement that alters a table. -/
def alter (table : String) : String := "ALTER TABLE " ++ Name.quotedPath table

/-- The front of every statement that alters a column. -/
def alterColumn (table column : String) : String :=
  alter table ++ " ALTER " ++ Name.quoted column

/-- The text of a statement. -/
def sql : Statement → String
  | renameTable table newName => alter table ++ " RENAME " ++ Name.quotedPath newName
  | renameColumn table column newName =>
    alter table ++ " RENAME " ++ Name.quoted column ++ " TO " ++ Name.quoted newName
  | setDefault table column default => alterColumn table column ++ " DEFAULT " ++ default
  | fillNulls table column value =>
    "UPDATE " ++ Name.quotedPath table ++ " SET " ++ Name.quoted column ++ "=" ++ value ++
      " WHERE " ++ Name.quoted column ++ " IS NULL"
  | setNullable table column nullable => alterColumn table column ++ " " ++ nullability nullable
  | setType table column type default nullable =>
    alterColumn table column ++ " " ++ type ++
      (match default with
        | some default => " DEFAULT " ++ default
        | none => "") ++
      (match nullable with
        | some nullable => " " ++ nullability nullable
        | none => "")
  | dropColumn table column => alter table ++ " DROP " ++ Name.quoted column
  | dropIndex table index => "DROP INDEX " ++ Name.quotedPath table ++ "." ++ Name.quoted index

end Statement

/-! ## Changes -/

/-- Behind the new name in the name that a column has for a moment. -/
def temporaryEnding : String := "if_the_only_change_is_case_sqlanywhere_doesnt_rename_the_column"

/-- The name that a column has for a moment on its way to a new one. -/
def temporaryName (newName : String) : String := newName ++ temporaryEnding

/-- Renames a column. The server ignores a new name that differs from the old one in case only, so
such a column gets there by way of a temporary name. -/
def renameColumn (table column newName : String) : List Statement :=
  if Text.lowercase column = Text.lowercase newName then
    [.renameColumn table column (temporaryName newName),
      .renameColumn table (temporaryName newName) newName]
  else [.renameColumn table column newName]

/-- Gives a column a default. -/
def setDefault (table column : String) (default : Value) : Except Fault Statement := do
  return .setDefault table column (← default.literal)

/-- Allows the nulls of a column, or forbids them after replacing those that are there by the
default. -/
def setNullable (table column : String) (nullable : Bool) (default : Option Value) :
    Except Fault (List Statement) :=
  match nullable, default with
  | false, some default => do
    return [.fillNulls table column (← default.literal), .setNullable table column false]
  | nullable, _ => .ok [.setNullable table column nullable]

/-- What a change of type says about the column besides the type. -/
structure ColumnOptions where
  limit : Option UInt32 := none
  precision : Option UInt32 := none
  scale : Option UInt32 := none
  default : Option Value := none
  nullable : Option Bool := none
deriving DecidableEq, Repr

/-- Gives a column another type. -/
def setType (table column : String) (type : LogicalType) (options : ColumnOptions) :
    Except Fault Statement := do
  let definition := Column.definition type options.limit options.precision options.scale
  return .setType table column definition (← options.default.mapM Value.literal) options.nullable

end Anywhere.Schema
