import Anywhere.Query.Equality
import Anywhere.Query.Traversal

/-!
# Sort keys of a distinct query

The server wants every sort key of a distinct query among its projections. A query that does not
have them all gets each key as one more projection under a name of its own.
-/

namespace Anywhere

/-- The name under which the sort key with the given number is projected. -/
def SortKey.projectedName (number : Nat) : String := "alias_" ++ Number.ofNat number

/-- The projections followed by the sort keys, direction and null placement aside. -/
def Query.withSortKeys (projections : List Expr) (order : List SortKey) : List Expr :=
  projections ++ order.zipIdx.map fun (k, i) => .named k.expr.unaliased (SortKey.projectedName i)

/-- The expression is among the projections, or all columns are. -/
def Select.projects (s : Select) (e : Expr) : Bool :=
  s.projections.any fun p => p.same .star || p.unaliased.same e.unaliased

/-- Projects the sort keys if the first select is distinct and does not project them all. -/
def Query.projectSortKeys (q : Query) : Query :=
  if q.first.quantifier = some .distinct ∧ !q.order.all (q.first.projects ·.expr) then
    { q with
      first := { q.first with projections := withSortKeys q.first.projections q.order } }
  else q

end Anywhere
