import Anywhere.Schema.Catalog
import Anywhere.Schema.Change
import Anywhere.Session.Query

/-!
# The schema in a session

Questions to the catalog, and schema changes. A change of several statements runs them in order
until one fails.
-/

namespace Anywhere.Session

open Schema

variable {σ κ η : Type} (client : Client σ κ η)

/-! ## Questions -/

/-- The tables of users, views among them. -/
def tables : Step σ κ (List String) := do
  return textsOf (← query client tablesQuery []) "table_name"

/-- The views of users. -/
def views : Step σ κ (List String) := do
  return textsOf (← query client viewsQuery []) "table_name"

/-- There is a table of that name, in whatever case. -/
def tableExists (table : String) : Step σ κ Bool := do
  return (← tables client).any (Text.eqIgnoringCase · table)

/-- The indexes of a table with their columns. -/
def indexes (table : String) : Step σ κ (List Index) := do
  let rows := indexRows (← query client (indexesQuery table) [])
  rows.mapM fun (name, unique) => do
    let columns ← query client (indexColumnsQuery name) []
    return ⟨table, name, unique, textsOf columns "column_name"⟩

/-- The first column of the primary key. -/
def primaryKey (table : String) : Step σ κ (Option String) := do
  return textAt? (← query client (primaryKeyQuery table) []) 0 "cname"

/-- The columns of the primary key in their order. -/
def primaryKeys (table : String) : Step σ κ (List String) := do
  return primaryKeyNames (← query client (primaryKeysQuery table) [])

/-- What the catalog says about the columns of a table. A table without columns does not exist. -/
def tableStructure (table : String) : Step σ κ (List ColumnStructure) := do
  let sql := structureQuery table
  let result ← query client sql []
  if result.isEmpty then
    throw (.statement ⟨0, "Could not find table '" ++ table ++ "'", sql⟩)
  return columnStructures result

/-- The columns of a table with what their types mean. -/
def columns (table : String) : Step σ κ (List TableColumn) := do
  let structures ← tableStructure client table
  Action.ofExcept (structures.mapM (TableColumn.ofStructure table))

/-! ## Changes -/

/-- Runs one statement. -/
def change (statement : Statement) : Step σ κ Unit := do
  let _ ← execute client statement.sql

/-- Runs statements until one fails. -/
def changeAll (statements : List Statement) : Step σ κ Unit := statements.forM (change client)

def renameTable (table newName : String) : Step σ κ Unit :=
  change client (.renameTable table newName)

def renameColumn (table column newName : String) : Step σ κ Unit :=
  changeAll client (Schema.renameColumn table column newName)

def setDefault (table column : String) (default : Value) : Step σ κ Unit := do
  change client (← Action.ofExcept (Schema.setDefault table column default))

def setNullable (table column : String) (nullable : Bool) (default : Option Value) :
    Step σ κ Unit := do
  changeAll client (← Action.ofExcept (Schema.setNullable table column nullable default))

def setType (table column : String) (type : LogicalType) (options : ColumnOptions) :
    Step σ κ Unit := do
  change client (← Action.ofExcept (Schema.setType table column type options))

def removeIndex (table index : String) : Step σ κ Unit := change client (.dropIndex table index)

/-- Removes a column behind the indexes in which it takes part. -/
def removeColumn (table column : String) : Step σ κ Unit := do
  let result ← query client (indexesOfColumn table column) []
  (textsOf result "index_name").forM (removeIndex client table)
  change client (.dropColumn table column)

/-- Removes columns one after the other. -/
def removeColumns (table : String) (columns : List String) : Step σ κ Unit := do
  if columns.isEmpty then throw (.argument .noColumns)
  columns.forM (removeColumn client table)

end Anywhere.Session
