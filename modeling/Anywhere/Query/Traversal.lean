import Anywhere.Query.Basic

/-!
# Walking through a query tree

An expression is visited node by node without entering the queries nested in it. Queries are
reached in two ways: `Expr.mapQueries` applies a function to the outermost queries of an expression
and leaves what is inside them to that function, and `Query.everywhere` applies one to every query
of a tree, inner queries before those that contain them.
-/

namespace Anywhere

/-! ## The nodes of an expression -/

mutual

/-- The nodes of an expression outside nested queries, each in front of its children. -/
def Expr.nodes : Expr → List Expr
  | .binary left op right => .binary left op right :: left.nodes ++ right.nodes
  | .conj items => .conj items :: Expr.nodesOfList items
  | .disj items => .disj items :: Expr.nodesOfList items
  | .negation inner => .negation inner :: inner.nodes
  | .isNull inner => .isNull inner :: inner.nodes
  | .isNotNull inner => .isNotNull inner :: inner.nodes
  | .inList inner items negated =>
    .inList inner items negated :: inner.nodes ++ Expr.nodesOfList items
  | .inQuery inner query negated => .inQuery inner query negated :: inner.nodes
  | .call name args distinct => .call name args distinct :: Expr.nodesOfList args
  | .named inner name => .named inner name :: inner.nodes
  | .grouping inner => .grouping inner :: inner.nodes
  | e => [e]

/-- The nodes of expressions, one expression after the other. -/
def Expr.nodesOfList : List Expr → List Expr
  | [] => []
  | e :: rest => e.nodes ++ Expr.nodesOfList rest

end

/-- An expression without the names given to it. -/
def Expr.unaliased : Expr → Expr
  | .named inner _ => inner.unaliased
  | e => e

/-! ## The outermost queries of an expression -/

mutual

/-- The expression with `f` applied to its outermost queries. -/
def Expr.mapQueries (f : Query → Query) : Expr → Expr
  | .subquery query => .subquery (f query)
  | .hasRows query => .hasRows (f query)
  | .inQuery inner query negated => .inQuery (inner.mapQueries f) (f query) negated
  | .binary left op right => .binary (left.mapQueries f) op (right.mapQueries f)
  | .conj items => .conj (Expr.mapQueriesOfList f items)
  | .disj items => .disj (Expr.mapQueriesOfList f items)
  | .negation inner => .negation (inner.mapQueries f)
  | .isNull inner => .isNull (inner.mapQueries f)
  | .isNotNull inner => .isNotNull (inner.mapQueries f)
  | .inList inner items negated =>
    .inList (inner.mapQueries f) (Expr.mapQueriesOfList f items) negated
  | .call name args distinct => .call name (Expr.mapQueriesOfList f args) distinct
  | .named inner name => .named (inner.mapQueries f) name
  | .grouping inner => .grouping (inner.mapQueries f)
  | .star => .star
  | .tableStar table => .tableStar table
  | .column table name => .column table name
  | .literal value => .literal value
  | .bind name value => .bind name value
  | .always => .always
  | .never => .never
  | .raw sql => .raw sql

/-- The expressions with `f` applied to their outermost queries. -/
def Expr.mapQueriesOfList (f : Query → Query) : List Expr → List Expr
  | [] => []
  | e :: rest => e.mapQueries f :: Expr.mapQueriesOfList f rest

end

/-! ## All queries of a tree -/

mutual

/-- The expression with `f` applied to all queries in it. -/
def Expr.everywhere (f : Query → Query) : Expr → Expr
  | .subquery query => .subquery (query.everywhere f)
  | .hasRows query => .hasRows (query.everywhere f)
  | .inQuery inner query negated => .inQuery (inner.everywhere f) (query.everywhere f) negated
  | .binary left op right => .binary (left.everywhere f) op (right.everywhere f)
  | .conj items => .conj (Expr.everywhereOfList f items)
  | .disj items => .disj (Expr.everywhereOfList f items)
  | .negation inner => .negation (inner.everywhere f)
  | .isNull inner => .isNull (inner.everywhere f)
  | .isNotNull inner => .isNotNull (inner.everywhere f)
  | .inList inner items negated =>
    .inList (inner.everywhere f) (Expr.everywhereOfList f items) negated
  | .call name args distinct => .call name (Expr.everywhereOfList f args) distinct
  | .named inner name => .named (inner.everywhere f) name
  | .grouping inner => .grouping (inner.everywhere f)
  | .star => .star
  | .tableStar table => .tableStar table
  | .column table name => .column table name
  | .literal value => .literal value
  | .bind name value => .bind name value
  | .always => .always
  | .never => .never
  | .raw sql => .raw sql

/-- The expressions with `f` applied to all queries in them. -/
def Expr.everywhereOfList (f : Query → Query) : List Expr → List Expr
  | [] => []
  | e :: rest => e.everywhere f :: Expr.everywhereOfList f rest

/-- The query with `f` applied to all queries in it, and then to itself. -/
def Query.everywhere (f : Query → Query) : Query → Query
  | ⟨first, rest, order, limit, offset, lock⟩ =>
    f ⟨first.everywhere f, Operand.everywhereOfList f rest, SortKey.everywhereOfList f order, limit,
      offset, lock⟩

/-- The select with `f` applied to all queries in it. -/
def Select.everywhere (f : Query → Query) : Select → Select
  | ⟨quantifier, projections, source, joins, wheres, groups, havings⟩ =>
    ⟨quantifier, Expr.everywhereOfList f projections,
      match source with
      | none => none
      | some source => some (source.everywhere f),
      Join.everywhereOfList f joins, Expr.everywhereOfList f wheres,
      Expr.everywhereOfList f groups, Expr.everywhereOfList f havings⟩

/-- The operands with `f` applied to all queries in them. -/
def Operand.everywhereOfList (f : Query → Query) : List Operand → List Operand
  | [] => []
  | ⟨op, select⟩ :: rest => ⟨op, select.everywhere f⟩ :: Operand.everywhereOfList f rest

/-- The sort keys with `f` applied to all queries in them. -/
def SortKey.everywhereOfList (f : Query → Query) : List SortKey → List SortKey
  | [] => []
  | ⟨expr, direction, nulls⟩ :: rest =>
    ⟨expr.everywhere f, direction, nulls⟩ :: SortKey.everywhereOfList f rest

/-- The source with `f` applied to all queries in it. -/
def Source.everywhere (f : Query → Query) : Source → Source
  | .subquery query label => .subquery (query.everywhere f) label
  | .table name label => .table name label
  | .raw sql => .raw sql

/-- The joins with `f` applied to all queries in them. -/
def Join.everywhereOfList (f : Query → Query) : List Join → List Join
  | [] => []
  | ⟨kind, source, on⟩ :: rest =>
    ⟨kind, source.everywhere f,
      match on with
      | none => none
      | some e => some (e.everywhere f)⟩ :: Join.everywhereOfList f rest

end

/-! ## The list functions are maps -/

theorem Expr.mapQueriesOfList_eq_map (f : Query → Query) (es : List Expr) :
    Expr.mapQueriesOfList f es = es.map (·.mapQueries f) := by
  induction es with
  | nil => rfl
  | cons e es ih => rw [Expr.mapQueriesOfList, ih, List.map_cons]

theorem Expr.everywhereOfList_eq_map (f : Query → Query) (es : List Expr) :
    Expr.everywhereOfList f es = es.map (·.everywhere f) := by
  induction es with
  | nil => rfl
  | cons e es ih => rw [Expr.everywhereOfList, ih, List.map_cons]

theorem Operand.everywhereOfList_eq_map (f : Query → Query) (os : List Operand) :
    Operand.everywhereOfList f os = os.map fun o => ⟨o.op, o.select.everywhere f⟩ := by
  induction os with
  | nil => rfl
  | cons o os ih => cases o; rw [Operand.everywhereOfList, ih, List.map_cons]

theorem SortKey.everywhereOfList_eq_map (f : Query → Query) (ks : List SortKey) :
    SortKey.everywhereOfList f ks =
      ks.map fun k => ⟨k.expr.everywhere f, k.direction, k.nulls⟩ := by
  induction ks with
  | nil => rfl
  | cons k ks ih => cases k; rw [SortKey.everywhereOfList, ih, List.map_cons]

mutual

/-- Reaching all queries of an expression is applying the same to its outermost ones. -/
theorem Expr.everywhere_eq_mapQueries (f : Query → Query) (e : Expr) :
    e.everywhere f = e.mapQueries (·.everywhere f) := by
  cases e with
  | binary left op right =>
    rw [Expr.everywhere, Expr.mapQueries, left.everywhere_eq_mapQueries f,
      right.everywhere_eq_mapQueries f]
  | conj items => rw [Expr.everywhere, Expr.mapQueries, Expr.everywhereOfList_eq f items]
  | disj items => rw [Expr.everywhere, Expr.mapQueries, Expr.everywhereOfList_eq f items]
  | negation inner => rw [Expr.everywhere, Expr.mapQueries, inner.everywhere_eq_mapQueries f]
  | isNull inner => rw [Expr.everywhere, Expr.mapQueries, inner.everywhere_eq_mapQueries f]
  | isNotNull inner => rw [Expr.everywhere, Expr.mapQueries, inner.everywhere_eq_mapQueries f]
  | inList inner items negated =>
    rw [Expr.everywhere, Expr.mapQueries, inner.everywhere_eq_mapQueries f,
      Expr.everywhereOfList_eq f items]
  | inQuery inner query negated =>
    rw [Expr.everywhere, Expr.mapQueries, inner.everywhere_eq_mapQueries f]
  | call name args distinct =>
    rw [Expr.everywhere, Expr.mapQueries, Expr.everywhereOfList_eq f args]
  | named inner name => rw [Expr.everywhere, Expr.mapQueries, inner.everywhere_eq_mapQueries f]
  | grouping inner => rw [Expr.everywhere, Expr.mapQueries, inner.everywhere_eq_mapQueries f]
  | _ => rw [Expr.everywhere, Expr.mapQueries]

/-- The same for a list of expressions. -/
theorem Expr.everywhereOfList_eq (f : Query → Query) (es : List Expr) :
    Expr.everywhereOfList f es = Expr.mapQueriesOfList (·.everywhere f) es := by
  cases es with
  | nil => rfl
  | cons e es =>
    rw [Expr.everywhereOfList, Expr.mapQueriesOfList, e.everywhere_eq_mapQueries f,
      Expr.everywhereOfList_eq f es]

end

end Anywhere
