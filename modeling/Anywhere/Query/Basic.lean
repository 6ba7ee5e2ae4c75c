import Anywhere.Value

/-!
# Query trees

The portable form of a `SELECT` statement. Expressions, queries, selects and the sources they read
from contain each other, so their types are defined together: a *query* is a first *select*, any
number of further selects combined with it, an order, a row cap and a lock.
-/

namespace Anywhere

/-- Comparison, pattern and arithmetic operators. -/
inductive BinaryOp where
  | eq
  | notEq
  | lt
  | ltEq
  | gt
  | gtEq
  | like
  | notLike
  | add
  | sub
  | mul
  | div
  | concat
deriving DecidableEq, Repr

/-- The operator in SQL. -/
def BinaryOp.symbol : BinaryOp → String
  | eq => "="
  | notEq => "<>"
  | lt => "<"
  | ltEq => "<="
  | gt => ">"
  | gtEq => ">="
  | like => "LIKE"
  | notLike => "NOT LIKE"
  | add => "+"
  | sub => "-"
  | mul => "*"
  | div => "/"
  | concat => "||"

/-- Whether a select removes duplicates. -/
inductive Quantifier where
  | distinct
  | all
deriving DecidableEq, Repr

/-- How a further select is combined with what stands in front of it. -/
inductive SetOp where
  | union
  | unionAll
  | intersect
  | except
deriving DecidableEq, Repr

/-- The set operation in SQL. -/
def SetOp.symbol : SetOp → String
  | union => "UNION"
  | unionAll => "UNION ALL"
  | intersect => "INTERSECT"
  | except => "EXCEPT"

/-- The row locks that a query asks for. -/
inductive Lock where
  | forUpdate
  /-- The clause as it is to appear, white space at its ends aside. -/
  | clause (text : String)
deriving DecidableEq, Repr

/-- The direction of a sort key. -/
inductive Direction where
  | ascending
  | descending
deriving DecidableEq, Repr

/-- Where nulls are put among the values of a sort key. -/
inductive NullPlacement where
  | first
  | last
deriving DecidableEq, Repr

/-- The kinds of join. -/
inductive JoinKind where
  | inner
  | left
  | right
  | full
  | cross
deriving DecidableEq, Repr

/-- The join in SQL. -/
def JoinKind.symbol : JoinKind → String
  | inner => "INNER JOIN"
  | left => "LEFT OUTER JOIN"
  | right => "RIGHT OUTER JOIN"
  | full => "FULL OUTER JOIN"
  | cross => "CROSS JOIN"

mutual

/-- What stands in a projection, a predicate or a sort key. -/
inductive Expr where
  /-- All columns. -/
  | star
  /-- All columns of a table. -/
  | tableStar (table : String)
  /-- A column, with or without its table. -/
  | column (table : Option String) (name : String)
  /-- A value that is written into the SQL text. -/
  | literal (value : Value)
  /-- A value that is sent as a parameter. -/
  | bind (name : String) (value : Value)
  /-- The predicate that always holds. -/
  | always
  /-- The predicate that never holds. -/
  | never
  /-- SQL text as it is. -/
  | raw (sql : String)
  | binary (left : Expr) (op : BinaryOp) (right : Expr)
  | conj (items : List Expr)
  | disj (items : List Expr)
  | negation (inner : Expr)
  | isNull (inner : Expr)
  | isNotNull (inner : Expr)
  /-- Membership in a list, or its negation. -/
  | inList (inner : Expr) (items : List Expr) (negated : Bool)
  /-- Membership in the rows of a query, or its negation. -/
  | inQuery (inner : Expr) (query : Query) (negated : Bool)
  /-- The query has a row. -/
  | hasRows (query : Query)
  /-- The value of a query. -/
  | subquery (query : Query)
  /-- A function call; a set function may drop duplicate arguments. -/
  | call (name : String) (args : List Expr) (distinct : Bool)
  /-- Under a name. -/
  | named (inner : Expr) (name : String)
  /-- Parentheses. -/
  | grouping (inner : Expr)

/-- A complete query. The row cap counts the rows of everything in front of the order. -/
structure Query where
  first : Select
  rest : List Operand
  order : List SortKey
  limit : Option UInt64
  offset : Option UInt64
  lock : Option Lock

/-- One unit of projections, sources and predicates. -/
structure Select where
  quantifier : Option Quantifier
  projections : List Expr
  source : Option Source
  joins : List Join
  wheres : List Expr
  groups : List Expr
  havings : List Expr

/-- A further select and how it is combined with what stands in front of it. -/
structure Operand where
  op : SetOp
  select : Select

/-- One key of an order. -/
structure SortKey where
  expr : Expr
  direction : Direction
  nulls : Option NullPlacement

/-- What a select reads from. -/
inductive Source where
  | table (name : String) (label : Option String)
  | subquery (query : Query) (label : String)
  /-- SQL text as it is. -/
  | raw (sql : String)

/-- A source that is joined to those in front of it. -/
structure Join where
  kind : JoinKind
  source : Source
  on : Option Expr

end

instance : Inhabited Expr := ⟨.star⟩

/-- A select of nothing in particular. -/
def Select.empty : Select := ⟨none, [], none, [], [], [], []⟩

instance : Inhabited Select := ⟨.empty⟩

/-- A query that consists of one select. -/
def Query.ofSelect (first : Select) : Query := ⟨first, [], [], none, none, none⟩

instance : Inhabited Query := ⟨.ofSelect .empty⟩

namespace Query

/-- The selects of a query in the order in which they are written. -/
def selects (q : Query) : List Select := q.first :: q.rest.map (·.select)

/-- The query with `f` applied to each of its selects. -/
def mapSelects (f : Select → Select) (q : Query) : Query :=
  { q with first := f q.first, rest := q.rest.map fun o => { o with select := f o.select } }

@[simp] theorem selects_mapSelects (f : Select → Select) (q : Query) :
    (q.mapSelects f).selects = q.selects.map f := by
  simp [selects, mapSelects, Function.comp_def]

end Query

end Anywhere
