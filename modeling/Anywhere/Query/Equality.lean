import Anywhere.Query.Basic

/-!
# Equality of query trees

Two trees are the same when they have the same shape and the values in them denote the same: a
decimal literal may have other decimal places, and a tree that contains a double that is no number
differs even from itself.
-/

namespace Anywhere

mutual

/-- The two expressions are the same. -/
def Expr.same : Expr → Expr → Bool
  | .star, .star => true
  | .tableStar table, .tableStar table' => table == table'
  | .column table name, .column table' name' => table == table' && name == name'
  | .literal value, .literal value' => value.same value'
  | .bind name value, .bind name' value' => name == name' && value.same value'
  | .always, .always => true
  | .never, .never => true
  | .raw sql, .raw sql' => sql == sql'
  | .binary left op right, .binary left' op' right' =>
    left.same left' && op == op' && right.same right'
  | .conj items, .conj items' => Expr.sameList items items'
  | .disj items, .disj items' => Expr.sameList items items'
  | .negation inner, .negation inner' => inner.same inner'
  | .isNull inner, .isNull inner' => inner.same inner'
  | .isNotNull inner, .isNotNull inner' => inner.same inner'
  | .inList inner items negated, .inList inner' items' negated' =>
    inner.same inner' && Expr.sameList items items' && negated == negated'
  | .inQuery inner query negated, .inQuery inner' query' negated' =>
    inner.same inner' && query.same query' && negated == negated'
  | .hasRows query, .hasRows query' => query.same query'
  | .subquery query, .subquery query' => query.same query'
  | .call name args distinct, .call name' args' distinct' =>
    name == name' && Expr.sameList args args' && distinct == distinct'
  | .named inner name, .named inner' name' => inner.same inner' && name == name'
  | .grouping inner, .grouping inner' => inner.same inner'
  | _, _ => false

/-- The two lists have the same expressions. -/
def Expr.sameList : List Expr → List Expr → Bool
  | [], [] => true
  | e :: es, e' :: es' => e.same e' && Expr.sameList es es'
  | _, _ => false

/-- The two queries are the same. -/
def Query.same : Query → Query → Bool
  | ⟨first, rest, order, limit, offset, lock⟩, ⟨first', rest', order', limit', offset', lock'⟩ =>
    first.same first' && Operand.sameList rest rest' && SortKey.sameList order order' &&
      limit == limit' && offset == offset' && lock == lock'

/-- The two selects are the same. -/
def Select.same : Select → Select → Bool
  | ⟨quantifier, projections, source, joins, wheres, groups, havings⟩,
    ⟨quantifier', projections', source', joins', wheres', groups', havings'⟩ =>
    quantifier == quantifier' && Expr.sameList projections projections' &&
      (match source, source' with
        | none, none => true
        | some s, some s' => s.same s'
        | _, _ => false) &&
      Join.sameList joins joins' && Expr.sameList wheres wheres' && Expr.sameList groups groups' &&
      Expr.sameList havings havings'

/-- The two lists have the same operands. -/
def Operand.sameList : List Operand → List Operand → Bool
  | [], [] => true
  | ⟨op, select⟩ :: rest, ⟨op', select'⟩ :: rest' =>
    op == op' && select.same select' && Operand.sameList rest rest'
  | _, _ => false

/-- The two lists have the same sort keys. -/
def SortKey.sameList : List SortKey → List SortKey → Bool
  | [], [] => true
  | ⟨expr, direction, nulls⟩ :: rest, ⟨expr', direction', nulls'⟩ :: rest' =>
    expr.same expr' && direction == direction' && nulls == nulls' && SortKey.sameList rest rest'
  | _, _ => false

/-- The two sources are the same. -/
def Source.same : Source → Source → Bool
  | .table name label, .table name' label' => name == name' && label == label'
  | .subquery query label, .subquery query' label' => query.same query' && label == label'
  | .raw sql, .raw sql' => sql == sql'
  | _, _ => false

/-- The two lists have the same joins. -/
def Join.sameList : List Join → List Join → Bool
  | [], [] => true
  | ⟨kind, source, on⟩ :: rest, ⟨kind', source', on'⟩ :: rest' =>
    kind == kind' && source.same source' &&
      (match on, on' with
        | none, none => true
        | some e, some e' => e.same e'
        | _, _ => false) &&
      Join.sameList rest rest'
  | _, _ => false

end

end Anywhere
