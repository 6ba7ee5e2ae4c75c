import Anywhere.Sql.Select

/-!
# Writing queries

SQL text is written from left to right, and a value that cannot stand in the text is put down as a
parameter at the moment at which its place is written. The order in which the parts of a query are
written is therefore the order of its parameters, and whoever writes a part in front of another one
must also put the two texts together in that order.

Writing expects a query in normal form; `Query.render` brings it there first.
-/

namespace Anywhere

/-- Something that is written while the parameters are collected. -/
abbrev Writer := StateM (List Parameter)

namespace Writer

/-- Writes the place of a parameter. -/
def place (p : Parameter) : Writer String := do
  modify (· ++ [p])
  return Fragment.placeholder

/-- Writes a literal, or the place of a parameter for a value without one. -/
def value (value : Value) : Writer String :=
  match value.literal? with
  | some sql => return sql
  | none => place (.ofValue value.logicalType.name value)

/-- Raw SQL in parentheses: it may contain an `OR`, which must not reach its neighbours. -/
def isolate (e : Expr) (sql : String) : String :=
  match e with
  | .raw _ => "(" ++ sql ++ ")"
  | _ => sql

/-- What was written for predicates that all have to hold, put together. -/
def conjunction (items : List Expr) (sqls : List String) : String :=
  String.intercalate " AND " (if 1 < items.length then List.zipWith isolate items sqls else sqls)

/-- A clause of a select, left out when nothing was written for it. -/
def clause (keyword : String) (sqls : List String) (sql : String) : String :=
  if sqls.isEmpty then "" else keyword ++ sql

/-- The operator of a membership test. -/
def membership (negated : Bool) : String := if negated then " NOT IN " else " IN "

end Writer

mutual

/-- Writes an expression. -/
def Expr.write : Expr → Writer String
  | .star => return "*"
  | .tableStar table => return Name.quotedPath table ++ ".*"
  | .column (some table) name => return Name.quotedPath table ++ "." ++ Name.quoted name
  | .column none name => return Name.quoted name
  | .literal value => Writer.value value
  | .bind name value => Writer.place (.ofValue name value)
  | .always => return "1=1"
  | .never => return "1=0"
  | .raw sql => return sql
  | .binary left op right => do
    let l ← left.write
    let r ← right.write
    return l ++ " " ++ op.symbol ++ " " ++ r
  | .conj items => do
    let sqls ← Expr.writeAll items
    return Writer.conjunction items sqls
  | .disj items => do
    let sqls ← Expr.writeAll items
    return "(" ++ String.intercalate " OR " sqls ++ ")"
  | .negation inner => do
    let sql ← inner.write
    return "NOT (" ++ sql ++ ")"
  | .isNull inner => do
    let sql ← inner.write
    return sql ++ " IS NULL"
  | .isNotNull inner => do
    let sql ← inner.write
    return sql ++ " IS NOT NULL"
  -- nothing is a member of an empty list, whatever stands on the left
  | .inList _ [] negated => return if negated then "1=1" else "1=0"
  | .inList inner (item :: rest) negated => do
    let sql ← inner.write
    let first ← item.write
    let others ← Expr.writeAll rest
    return sql ++ Writer.membership negated ++ "(" ++ String.intercalate ", " (first :: others) ++
      ")"
  | .inQuery inner query negated => do
    let sql ← inner.write
    let select ← query.write
    return sql ++ Writer.membership negated ++ "(" ++ select ++ ")"
  | .hasRows query => do
    let select ← query.write
    return "EXISTS (" ++ select ++ ")"
  | .subquery query => do
    let select ← query.write
    return "(" ++ select ++ ")"
  | .call name args distinct => do
    let sqls ← Expr.writeAll args
    return Text.uppercase name ++ "(" ++ (if distinct then "DISTINCT " else "") ++
      String.intercalate ", " sqls ++ ")"
  | .named inner name => do
    let sql ← inner.write
    return sql ++ " AS " ++ Name.quoted name
  | .grouping inner => do
    let sql ← inner.write
    return "(" ++ sql ++ ")"

/-- Writes expressions, one after the other. -/
def Expr.writeAll : List Expr → Writer (List String)
  | [] => return []
  | e :: rest => do
    let sql ← e.write
    let sqls ← Expr.writeAll rest
    return sql :: sqls

/-- Writes a query as it is. -/
def Query.write : Query → Writer String
  | ⟨first, rest, order, limit, offset, lock⟩ => do
    let sql ← first.write (Query.cap limit offset)
    let operands ← Operand.writeAll rest
    let keys ← SortKey.writeAll order
    return sql ++ operands ++ Writer.clause " ORDER BY " keys (String.intercalate ", " keys) ++
      Lock.suffix lock

/-- Writes a select with the given row cap. -/
def Select.write (cap : String) : Select → Writer String
  | ⟨quantifier, projections, source, joins, wheres, groups, havings⟩ => do
    let columns ← Expr.writeAll projections
    let origin ← Source.writeFrom source
    let joined ← Join.writeAll joins
    let conditions ← Expr.writeAll wheres
    let keys ← Expr.writeAll groups
    let filters ← Expr.writeAll havings
    return "SELECT" ++ Quantifier.clause quantifier ++ cap ++ " " ++
      (if columns.isEmpty then "*" else String.intercalate ", " columns) ++ origin ++ joined ++
      Writer.clause " WHERE " conditions (Writer.conjunction wheres conditions) ++
      Writer.clause " GROUP BY " keys (String.intercalate ", " keys) ++
      Writer.clause " HAVING " filters (Writer.conjunction havings filters)

/-- Writes further selects with their set operations. -/
def Operand.writeAll : List Operand → Writer String
  | [] => return ""
  | ⟨op, select⟩ :: rest => do
    let sql ← select.write ""
    let operands ← Operand.writeAll rest
    return " " ++ op.symbol ++ " " ++ sql ++ operands

/-- Writes sort keys, one after the other. -/
def SortKey.writeAll : List SortKey → Writer (List String)
  | [] => return []
  | ⟨expr, direction, nulls⟩ :: rest => do
    let sql ← expr.write
    let sqls ← SortKey.writeAll rest
    return (sql ++ SortKey.suffix direction nulls) :: sqls

/-- Writes a source. -/
def Source.write : Source → Writer String
  | .table name (some label) => return Name.quotedPath name ++ " " ++ Name.quoted label
  | .table name none => return Name.quotedPath name
  | .subquery query label => do
    let select ← query.write
    return "(" ++ select ++ ")" ++ " " ++ Name.quoted label
  | .raw sql => return sql

/-- Writes what a select reads from first, if it reads from anything. -/
def Source.writeFrom : Option Source → Writer String
  | none => return ""
  | some source => do
    let sql ← source.write
    return " FROM " ++ sql

/-- Writes joins. -/
def Join.writeAll : List Join → Writer String
  | [] => return ""
  | ⟨kind, source, on⟩ :: rest => do
    let sql ← source.write
    let condition ← Expr.writeOn on
    let joins ← Join.writeAll rest
    return " " ++ kind.symbol ++ " " ++ sql ++ condition ++ joins

/-- Writes the condition of a join, if there is one. -/
def Expr.writeOn : Option Expr → Writer String
  | none => return ""
  | some e => do
    let sql ← e.write
    return " ON " ++ sql

end

/-! ## Whole queries -/

/-- What was written, with all parameters that were collected on the way. -/
def Writer.rendering (w : Writer String) : Rendering :=
  let (sql, parameters) := w.run []
  ⟨sql, parameters⟩

/-- The text of an expression as it is, with its parameters. -/
def Expr.render (e : Expr) : Rendering := e.write.rendering

/-- The text of a query as it is, with its parameters. -/
def Query.renderAsIs (q : Query) : Rendering := q.write.rendering

/-- The text of a query, with its parameters. -/
def Query.render (q : Query) : Rendering := q.normalize.renderAsIs

/-- The text of a query. -/
def Query.toSql (q : Query) : String := q.render.sql

end Anywhere
