import Anywhere.Query.Basic

/-!
# Building queries

Short ways to write the common shapes of a tree. Conjunctions and disjunctions grow to the right:
adding a predicate to a conjunction makes it longer instead of nesting it.
-/

namespace Anywhere

namespace Expr

/-- A column without its table. -/
def col (name : String) : Expr := column none name

/-- A column of a table. -/
def tableCol (table name : String) : Expr := column (some table) name

/-- The number of rows. -/
def countStar : Expr := call "COUNT" [star] false

/-- Both predicates hold. -/
def andAlso (left right : Expr) : Expr :=
  match left with
  | conj items => conj (items ++ [right])
  | left => conj [left, right]

/-- One of the predicates holds. -/
def orElse (left right : Expr) : Expr :=
  match left with
  | disj items => disj (items ++ [right])
  | left => disj [left, right]

end Expr

/-- A table under its own name. -/
def Source.ofTable (name : String) : Source := .table name none

namespace Select

/-- A select that reads from a table. -/
def ofTable (name : String) : Select := { empty with source := some (.ofTable name) }

/-- Adds a projection. -/
def project (s : Select) (e : Expr) : Select := { s with projections := s.projections ++ [e] }

/-- Adds a predicate on the rows. -/
def filter (s : Select) (e : Expr) : Select := { s with wheres := s.wheres ++ [e] }

/-- Adds a grouping key. -/
def groupBy (s : Select) (e : Expr) : Select := { s with groups := s.groups ++ [e] }

/-- Adds a predicate on the groups. -/
def having (s : Select) (e : Expr) : Select := { s with havings := s.havings ++ [e] }

/-- Joins a source. -/
def join (s : Select) (j : Join) : Select := { s with joins := s.joins ++ [j] }

/-- Removes duplicates. -/
def distinct (s : Select) : Select := { s with quantifier := some .distinct }

end Select

namespace SortKey

/-- Smallest values first. -/
def ascending (e : Expr) : SortKey := ⟨e, .ascending, none⟩

/-- Largest values first. -/
def descending (e : Expr) : SortKey := ⟨e, .descending, none⟩

/-- Places the nulls. -/
def withNulls (k : SortKey) (nulls : NullPlacement) : SortKey := { k with nulls := some nulls }

end SortKey

namespace Query

/-- All columns of a table. -/
def ofTable (name : String) : Query := ofSelect ((Select.ofTable name).project .star)

/-- Keeps at most `n` rows. -/
def take (q : Query) (n : UInt64) : Query := { q with limit := some n }

/-- Passes over the first `n` rows. -/
def skip (q : Query) (n : UInt64) : Query := { q with offset := some n }

/-- Adds a sort key. -/
def orderBy (q : Query) (k : SortKey) : Query := { q with order := q.order ++ [k] }

/-- Asks for row locks. -/
def withLock (q : Query) (lock : Lock) : Query := { q with lock := some lock }

/-- Combines the query with a further select. -/
def combine (q : Query) (op : SetOp) (s : Select) : Query := { q with rest := q.rest ++ [⟨op, s⟩] }

/-- Adds a predicate on the rows of the first select. -/
def filter (q : Query) (e : Expr) : Query := { q with first := q.first.filter e }

/-- Adds a predicate on the rows of every select. -/
def filterAll (q : Query) (e : Expr) : Query := q.mapSelects (·.filter e)

end Query

end Anywhere
