import Anywhere.Column.Definition
import Anywhere.ResultSet
import Anywhere.Sql.Literal
import Anywhere.Text.HexEscape

/-!
# The catalog

What the server knows about the schema is asked for with queries over the system tables. Objects
that users own are those not owned by `SYS` (0), `dbo` (3) or `rs_systabgroup` (5). Each query is
followed by the way in which its rows are read.
-/

namespace Anywhere.Schema

/-! ## Queries -/

/-- A query from its clauses. -/
def query (clauses : List String) : String := " ".intercalate clauses

def tablesQuery : String := "SELECT table_name FROM SYS.SYSTABLE WHERE creator NOT IN (0,3,5)"

def viewsQuery : String :=
  "SELECT table_name FROM SYS.SYSTAB WHERE table_type_str = 'VIEW' AND creator NOT IN (0,3,5)"

/-- The indexes of a table that are not there for a key. -/
def indexesQuery (table : String) : String :=
  query [
    "SELECT DISTINCT index_name, \"unique\" FROM SYS.SYSTABLE",
    "INNER JOIN SYS.SYSIDXCOL ON SYS.SYSTABLE.table_id = SYS.SYSIDXCOL.table_id",
    "INNER JOIN SYS.SYSIDX ON SYS.SYSTABLE.table_id = SYS.SYSIDX.table_id",
    "AND SYS.SYSIDXCOL.index_id = SYS.SYSIDX.index_id",
    "WHERE table_name = " ++ Literal.ofText table,
    "AND index_category > 2"]

/-- The columns of an index, in its order. -/
def indexColumnsQuery (index : String) : String :=
  query [
    "SELECT column_name FROM SYS.SYSIDX",
    "INNER JOIN SYS.SYSIDXCOL ON SYS.SYSIDXCOL.table_id = SYS.SYSIDX.table_id",
    "AND SYS.SYSIDXCOL.index_id = SYS.SYSIDX.index_id",
    "INNER JOIN SYS.SYSCOLUMN ON SYS.SYSCOLUMN.table_id = SYS.SYSIDXCOL.table_id",
    "AND SYS.SYSCOLUMN.column_id = SYS.SYSIDXCOL.column_id",
    "WHERE index_name = " ++ Literal.ofText index,
    "ORDER BY SYS.SYSIDXCOL.sequence"]

/-- The columns of the primary key of a table, one in a row. -/
def primaryKeyQuery (table : String) : String :=
  query [
    "SELECT cname FROM SYS.SYSCOLUMNS",
    "WHERE tname = " ++ Literal.ofText table,
    "AND in_primary_key = 'Y'"]

/-- The columns of the primary key of a table, all in one text. -/
def primaryKeysQuery (table : String) : String :=
  query [
    "SELECT list(c.column_name ORDER BY ixc.sequence) AS pk_columns",
    "FROM SYSIDX ix, SYSTABLE t, SYSIDXCOL ixc, SYSCOLUMN c",
    "WHERE ix.table_id = t.table_id",
    "AND ixc.table_id = t.table_id",
    "AND ixc.index_id = ix.index_id",
    "AND ixc.table_id = c.table_id",
    "AND ixc.column_id = c.column_id",
    "AND ix.index_category IN (1,2)",
    "AND t.table_name = " ++ Literal.ofText table,
    "GROUP BY ix.index_name, ix.index_id, ix.index_category",
    "ORDER BY ix.index_id"]

/-- The columns of a table. A default in quotes comes without them, and one that only says that
the column numbers its rows does not come at all. -/
def structureQuery (table : String) : String :=
  query [
    "SELECT SYS.SYSCOLUMN.column_name AS name,",
    "IF left(\"default\",1)='''' THEN substring(\"default\", 2, length(\"default\")-2)",
    "ELSE NULLIF(SYS.SYSCOLUMN.\"default\", 'autoincrement')",
    "ENDIF AS \"default\",",
    "IF SYS.SYSCOLUMN.domain_id IN (7,8,9,11,33,34,35,3,27) THEN",
    "IF SYS.SYSCOLUMN.domain_id IN (3,27) THEN",
    "SYS.SYSDOMAIN.domain_name || '(' || SYS.SYSCOLUMN.width || ',' ||",
    "SYS.SYSCOLUMN.scale || ')'",
    "ELSE",
    "SYS.SYSDOMAIN.domain_name || '(' || SYS.SYSCOLUMN.width || ')'",
    "ENDIF",
    "ELSE",
    "SYS.SYSDOMAIN.domain_name",
    "ENDIF AS domain,",
    "IF SYS.SYSCOLUMN.nulls = 'Y' THEN 1 ELSE 0 ENDIF AS nulls",
    "FROM SYS.SYSCOLUMN",
    "INNER JOIN SYS.SYSTABLE ON SYS.SYSCOLUMN.table_id = SYS.SYSTABLE.table_id",
    "INNER JOIN SYS.SYSDOMAIN ON SYS.SYSCOLUMN.domain_id = SYS.SYSDOMAIN.domain_id",
    "WHERE table_name = " ++ Literal.ofText table]

/-- The indexes in which a column takes part. -/
def indexesOfColumn (table column : String) : String :=
  query [
    "SELECT \"index_name\"",
    "FROM SYS.SYSTAB join SYS.SYSTABCOL join SYS.SYSIDXCOL join SYS.SYSIDX",
    "WHERE \"column_name\" = " ++ Literal.ofText column,
    "AND \"table_name\" = " ++ Literal.ofText table]

/-! ## Rows -/

/-- The text of a cell, unless it is null. -/
def textOfCell : Value → Option String
  | .null => none
  | .text s => some s
  | v => some v.display

/-- The texts of a column. -/
def textsOf (r : ResultSet) (column : String) : List String :=
  (r.column column).filterMap textOfCell

/-- The text of a cell of a row, if there is one and it is not null. -/
def textAt? (r : ResultSet) (row : Nat) (column : String) : Option String :=
  (r.get? row column).bind textOfCell

/-- A cell of a row is the number 1. -/
def isOneAt (r : ResultSet) (row : Nat) (column : String) : Bool :=
  (r.get? row column).bind Value.integer? == some 1

/-- An index with its columns in order. -/
structure Index where
  table : String
  name : String
  unique : Bool
  columns : List String
deriving DecidableEq, Repr

/-- The names in the rows of an index query and whether the index is unique. A row without a name
is passed over. -/
def indexRows (r : ResultSet) : List (String × Bool) :=
  (List.range r.size).filterMap fun row =>
    (textAt? r row "index_name").map fun name => (name, isOneAt r row "unique")

/-- The names in a list with commas between them. -/
def namesIn (list : String) : List String :=
  (Text.pieces ',' list.toList).map fun piece => String.ofList (Text.stripBlanks piece)

/-- The columns of a primary key, of which there are none without a row. -/
def primaryKeyNames (r : ResultSet) : List String :=
  match textAt? r 0 "pk_columns" with
  | some list => namesIn list
  | none => []

/-- What the catalog says about a column. -/
structure ColumnStructure where
  name : String
  default : Option String
  /-- The type with its numbers in parentheses. -/
  domain : String
  nullable : Bool
deriving DecidableEq, Repr

/-- A row of the structure query. -/
def columnStructure (r : ResultSet) (row : Nat) : ColumnStructure :=
  { name := (textAt? r row "name").getD ""
    default := (textAt? r row "default").map Text.HexEscape.decode
    domain := (textAt? r row "domain").getD ""
    nullable := isOneAt r row "nulls" }

/-- The rows of the structure query. -/
def columnStructures (r : ResultSet) : List ColumnStructure :=
  (List.range r.size).map (columnStructure r)

/-- A column of a table with what its type means. -/
structure TableColumn where
  table : String
  name : String
  default : Option String
  metadata : Column.Metadata
  nullable : Bool
deriving DecidableEq, Repr

/-- A column of a table from what the catalog says about it. -/
def TableColumn.ofStructure (table : String) (s : ColumnStructure) : Except Fault TableColumn := do
  return ⟨table, s.name, s.default, ← Column.Metadata.ofText? s.domain, s.nullable⟩

end Anywhere.Schema
