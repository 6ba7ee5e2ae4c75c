import Anywhere.Query.Normal
import Anywhere.Proofs.Nesting

/-!
# The outermost queries of an expression

A function on queries gets into an expression through its outermost queries, those that are in no
other query of the expression. `Expr.mapQueries` applies it to them and leaves whatever is inside
them to the function, which is how a rule for queries reaches the expressions of a tree. A child
that was left out there would keep its queries as they are, and one that was taken twice would have
the rule applied twice.

What comes of a function does not show how often it was applied. So `Expr.mapQueriesM` takes an
action in its place, and the action may note the queries that it is handed. The notes are the
outermost queries one by one, and these are the queries of the nodes that a walk comes by.
-/

namespace Anywhere

/-! ## Outermost queries -/

mutual

/-- The queries of an expression that are in no other query of it, in the order in which they are
mapped. -/
def Expr.outermost : Expr → List Query
  | .subquery query => [query]
  | .hasRows query => [query]
  | .inQuery inner query _ => inner.outermost ++ [query]
  | .binary left _ right => left.outermost ++ right.outermost
  | .conj items => Expr.outermostOfList items
  | .disj items => Expr.outermostOfList items
  | .negation inner => inner.outermost
  | .isNull inner => inner.outermost
  | .isNotNull inner => inner.outermost
  | .inList inner items _ => inner.outermost ++ Expr.outermostOfList items
  | .call _ args _ => Expr.outermostOfList args
  | .named inner _ => inner.outermost
  | .grouping inner => inner.outermost
  | .star => []
  | .tableStar _ => []
  | .column _ _ => []
  | .literal _ => []
  | .bind _ _ => []
  | .always => []
  | .never => []
  | .raw _ => []

/-- The outermost queries of expressions. -/
def Expr.outermostOfList : List Expr → List Query
  | [] => []
  | e :: rest => e.outermost ++ Expr.outermostOfList rest

end

namespace Expr

/-- The query that a node holds. -/
def query? : Expr → Option Query
  | subquery query => some query
  | hasRows query => some query
  | inQuery _ query _ => some query
  | _ => none

/-- Which of its variants an expression is, by the number of the constructor. -/
def variant (e : Expr) : Nat := e.ctorIdx

end Expr

mutual

/-- The queries in an expression are the outermost ones, each with those in it. -/
theorem Expr.queries_eq_flatMap_outermost (e : Expr) :
    e.queries = e.outermost.flatMap Query.all := by
  cases e with
  | subquery query | hasRows query =>
    rw [Expr.queries, Expr.outermost, List.flatMap_singleton]
  | inQuery inner query _ =>
    rw [Expr.queries, Expr.outermost, List.flatMap_append, List.flatMap_singleton,
      inner.queries_eq_flatMap_outermost]
  | binary left _ right =>
    rw [Expr.queries, Expr.outermost, List.flatMap_append, left.queries_eq_flatMap_outermost,
      right.queries_eq_flatMap_outermost]
  | inList inner items _ =>
    rw [Expr.queries, Expr.outermost, List.flatMap_append, inner.queries_eq_flatMap_outermost,
      Expr.queriesOfList_eq_flatMap_outermost items]
  | conj items | disj items | call _ items _ =>
    rw [Expr.queries, Expr.outermost, Expr.queriesOfList_eq_flatMap_outermost items]
  | negation inner | isNull inner | isNotNull inner | named inner _ | grouping inner =>
    rw [Expr.queries, Expr.outermost, inner.queries_eq_flatMap_outermost]
  | _ => rfl

theorem Expr.queriesOfList_eq_flatMap_outermost (es : List Expr) :
    Expr.queriesOfList es = (Expr.outermostOfList es).flatMap Query.all := by
  cases es with
  | nil => rfl
  | cons e rest =>
    rw [Expr.queriesOfList, Expr.outermostOfList, List.flatMap_append,
      e.queries_eq_flatMap_outermost, Expr.queriesOfList_eq_flatMap_outermost rest]

end

mutual

/-- The nodes of an expression hold its outermost queries. -/
theorem Expr.outermost_perm_nodes (e : Expr) :
    e.outermost.Perm (e.nodes.filterMap Expr.query?) := by
  cases e with
  | inQuery inner query negated =>
    -- a walk comes by the membership test before what stands to the left of it
    rw [Expr.outermost, Expr.nodes, List.filterMap_cons_some (f := Expr.query?) rfl]
    exact (List.perm_append_singleton query _).trans (.cons query inner.outermost_perm_nodes)
  | binary left op right =>
    rw [Expr.outermost, Expr.nodes, List.cons_append, List.filterMap_cons_none rfl,
      List.filterMap_append]
    exact left.outermost_perm_nodes.append right.outermost_perm_nodes
  | inList inner items negated =>
    rw [Expr.outermost, Expr.nodes, List.cons_append, List.filterMap_cons_none rfl,
      List.filterMap_append]
    exact inner.outermost_perm_nodes.append (Expr.outermostOfList_perm_nodes items)
  | conj items | disj items | call _ items _ =>
    rw [Expr.outermost, Expr.nodes, List.filterMap_cons_none rfl]
    exact Expr.outermostOfList_perm_nodes items
  | negation inner | isNull inner | isNotNull inner | named inner _ | grouping inner =>
    rw [Expr.outermost, Expr.nodes, List.filterMap_cons_none rfl]
    exact inner.outermost_perm_nodes
  | _ => exact .refl _

theorem Expr.outermostOfList_perm_nodes (es : List Expr) :
    (Expr.outermostOfList es).Perm ((Expr.nodesOfList es).filterMap Expr.query?) := by
  cases es with
  | nil => exact .refl _
  | cons e rest =>
    rw [Expr.outermostOfList, Expr.nodesOfList, List.filterMap_append]
    exact e.outermost_perm_nodes.append (Expr.outermostOfList_perm_nodes rest)

end

/-! ## Nodes -/

section Nodes

variable (f : Query → Query)

mutual

/-- The nodes behind a mapping are those in front of it, one by one. -/
theorem Expr.nodes_mapQueries (e : Expr) :
    (e.mapQueries f).nodes = e.nodes.map (·.mapQueries f) := by
  cases e with
  | binary left op right =>
    rw [Expr.mapQueries, Expr.nodes, Expr.nodes, left.nodes_mapQueries, right.nodes_mapQueries,
      List.cons_append, List.cons_append, List.map_cons, List.map_append, Expr.mapQueries]
  | inList inner items negated =>
    rw [Expr.mapQueries, Expr.nodes, Expr.nodes, inner.nodes_mapQueries,
      Expr.nodesOfList_mapQueries items, List.cons_append, List.cons_append, List.map_cons,
      List.map_append, Expr.mapQueries]
  | conj items | disj items | call _ items _ =>
    rw [Expr.mapQueries, Expr.nodes, Expr.nodes, Expr.nodesOfList_mapQueries items, List.map_cons,
      Expr.mapQueries]
  | negation inner | isNull inner | isNotNull inner | inQuery inner _ _ | named inner _
  | grouping inner =>
    rw [Expr.mapQueries, Expr.nodes, Expr.nodes, inner.nodes_mapQueries, List.map_cons,
      Expr.mapQueries]
  | _ => rfl

theorem Expr.nodesOfList_mapQueries (es : List Expr) :
    Expr.nodesOfList (Expr.mapQueriesOfList f es) =
      (Expr.nodesOfList es).map (·.mapQueries f) := by
  cases es with
  | nil => rfl
  | cons e rest =>
    rw [Expr.mapQueriesOfList, Expr.nodesOfList, Expr.nodesOfList, e.nodes_mapQueries,
      Expr.nodesOfList_mapQueries rest, List.map_append]

end

namespace Expr

theorem variant_mapQueries (e : Expr) : (e.mapQueries f).variant = e.variant := by
  cases e <;> rfl

theorem query?_mapQueries (e : Expr) : (e.mapQueries f).query? = e.query?.map f := by
  cases e <;> rfl

/-- The nodes of an expression behind a function that reaches all its queries. -/
theorem nodes_everywhere (e : Expr) : (e.everywhere f).nodes = e.nodes.map (·.everywhere f) := by
  rw [e.everywhere_eq_mapQueries, nodes_mapQueries]
  exact List.map_congr_left fun node _ => (node.everywhere_eq_mapQueries f).symm

end Expr

end Nodes

/-! ## Actions on queries -/

mutual

/-- The expression with an action done on its outermost queries, one after the other. -/
def Expr.mapQueriesM {m : Type → Type} [Monad m] (f : Query → m Query) : Expr → m Expr
  | .subquery query => return .subquery (← f query)
  | .hasRows query => return .hasRows (← f query)
  | .inQuery inner query negated => return .inQuery (← inner.mapQueriesM f) (← f query) negated
  | .binary left op right => return .binary (← left.mapQueriesM f) op (← right.mapQueriesM f)
  | .conj items => return .conj (← Expr.mapQueriesOfListM f items)
  | .disj items => return .disj (← Expr.mapQueriesOfListM f items)
  | .negation inner => return .negation (← inner.mapQueriesM f)
  | .isNull inner => return .isNull (← inner.mapQueriesM f)
  | .isNotNull inner => return .isNotNull (← inner.mapQueriesM f)
  | .inList inner items negated =>
    return .inList (← inner.mapQueriesM f) (← Expr.mapQueriesOfListM f items) negated
  | .call name args distinct => return .call name (← Expr.mapQueriesOfListM f args) distinct
  | .named inner name => return .named (← inner.mapQueriesM f) name
  | .grouping inner => return .grouping (← inner.mapQueriesM f)
  | .star => return .star
  | .tableStar table => return .tableStar table
  | .column table name => return .column table name
  | .literal value => return .literal value
  | .bind name value => return .bind name value
  | .always => return .always
  | .never => return .never
  | .raw sql => return .raw sql

/-- The expressions with an action done on their outermost queries, one after the other. -/
def Expr.mapQueriesOfListM {m : Type → Type} [Monad m] (f : Query → m Query) :
    List Expr → m (List Expr)
  | [] => return []
  | e :: rest => return (← e.mapQueriesM f) :: (← Expr.mapQueriesOfListM f rest)

end

/-- Something that is done while notes are taken of queries. -/
abbrev Noting (α : Type) := StateM (List Query) α

namespace Noting

theorem bind_apply {α β : Type} (x : Noting α) (k : α → Noting β) (notes : List Query) :
    (x >>= k) notes = k (x notes).1 (x notes).2 := rfl

theorem pure_apply {α : Type} (a : α) (notes : List Query) :
    (pure a : Noting α) notes = (a, notes) := rfl

end Noting

/-- Applies the function to a query and makes a note of the query. -/
def Query.noted (f : Query → Query) (q : Query) : Noting Query := do
  modify (· ++ [q])
  return f q

theorem Query.noted_apply (f : Query → Query) (q : Query) (notes : List Query) :
    noted f q notes = (f q, notes ++ [q]) := rfl

section Noted

open Noting

variable (f : Query → Query)

mutual

/-- The function is applied to the outermost queries one by one, and to nothing else. -/
theorem Expr.mapQueriesM_noted (e : Expr) (notes : List Query) :
    e.mapQueriesM (Query.noted f) notes = (e.mapQueries f, notes ++ e.outermost) := by
  cases e with
  | subquery query | hasRows query => rfl
  | inQuery inner query negated =>
    simp only [Expr.mapQueriesM, bind_apply, pure_apply, inner.mapQueriesM_noted,
      Query.noted_apply, Expr.mapQueries, Expr.outermost, List.append_assoc]
  | binary left op right =>
    simp only [Expr.mapQueriesM, bind_apply, pure_apply, left.mapQueriesM_noted,
      right.mapQueriesM_noted, Expr.mapQueries, Expr.outermost, List.append_assoc]
  | inList inner items negated =>
    simp only [Expr.mapQueriesM, bind_apply, pure_apply, inner.mapQueriesM_noted,
      Expr.mapQueriesOfListM_noted items, Expr.mapQueries, Expr.outermost, List.append_assoc]
  | conj items | disj items | call _ items _ =>
    simp only [Expr.mapQueriesM, bind_apply, pure_apply, Expr.mapQueriesOfListM_noted items,
      Expr.mapQueries, Expr.outermost]
  | negation inner | isNull inner | isNotNull inner | named inner _ | grouping inner =>
    simp only [Expr.mapQueriesM, bind_apply, pure_apply, inner.mapQueriesM_noted, Expr.mapQueries,
      Expr.outermost]
  | _ =>
    simp only [Expr.mapQueriesM, pure_apply, Expr.mapQueries, Expr.outermost, List.append_nil]

theorem Expr.mapQueriesOfListM_noted (es : List Expr) (notes : List Query) :
    Expr.mapQueriesOfListM (Query.noted f) es notes =
      (Expr.mapQueriesOfList f es, notes ++ Expr.outermostOfList es) := by
  cases es with
  | nil =>
    simp only [Expr.mapQueriesOfListM, pure_apply, Expr.mapQueriesOfList, Expr.outermostOfList,
      List.append_nil]
  | cons e rest =>
    simp only [Expr.mapQueriesOfListM, bind_apply, pure_apply, e.mapQueriesM_noted,
      Expr.mapQueriesOfListM_noted rest, Expr.mapQueriesOfList, Expr.outermostOfList,
      List.append_assoc]

end

end Noted

/-! ## Laws -/

section Laws

mutual

theorem Expr.mapQueries_id (e : Expr) : e.mapQueries id = e := by
  cases e with
  | subquery query | hasRows query => rw [Expr.mapQueries, id_eq]
  | inQuery inner query _ => rw [Expr.mapQueries, inner.mapQueries_id, id_eq]
  | binary left op right => rw [Expr.mapQueries, left.mapQueries_id, right.mapQueries_id]
  | inList inner items negated =>
    rw [Expr.mapQueries, inner.mapQueries_id, Expr.mapQueriesOfList_id items]
  | conj items | disj items | call _ items _ =>
    rw [Expr.mapQueries, Expr.mapQueriesOfList_id items]
  | negation inner | isNull inner | isNotNull inner | named inner _ | grouping inner =>
    rw [Expr.mapQueries, inner.mapQueries_id]
  | _ => rfl

theorem Expr.mapQueriesOfList_id (es : List Expr) : Expr.mapQueriesOfList id es = es := by
  cases es with
  | nil => rfl
  | cons e rest => rw [Expr.mapQueriesOfList, e.mapQueries_id, Expr.mapQueriesOfList_id rest]

end

variable (f g : Query → Query)

mutual

theorem Expr.mapQueries_mapQueries (e : Expr) :
    (e.mapQueries g).mapQueries f = e.mapQueries (f ∘ g) := by
  cases e with
  | subquery query | hasRows query => rfl
  | inQuery inner query _ =>
    rw [Expr.mapQueries, Expr.mapQueries, Expr.mapQueries, inner.mapQueries_mapQueries,
      Function.comp_apply]
  | binary left op right =>
    rw [Expr.mapQueries, Expr.mapQueries, Expr.mapQueries, left.mapQueries_mapQueries,
      right.mapQueries_mapQueries]
  | inList inner items negated =>
    rw [Expr.mapQueries, Expr.mapQueries, Expr.mapQueries, inner.mapQueries_mapQueries,
      Expr.mapQueriesOfList_mapQueriesOfList items]
  | conj items | disj items | call _ items _ =>
    rw [Expr.mapQueries, Expr.mapQueries, Expr.mapQueries,
      Expr.mapQueriesOfList_mapQueriesOfList items]
  | negation inner | isNull inner | isNotNull inner | named inner _ | grouping inner =>
    rw [Expr.mapQueries, Expr.mapQueries, Expr.mapQueries, inner.mapQueries_mapQueries]
  | _ => rfl

theorem Expr.mapQueriesOfList_mapQueriesOfList (es : List Expr) :
    Expr.mapQueriesOfList f (Expr.mapQueriesOfList g es) = Expr.mapQueriesOfList (f ∘ g) es := by
  cases es with
  | nil => rfl
  | cons e rest =>
    rw [Expr.mapQueriesOfList, Expr.mapQueriesOfList, Expr.mapQueriesOfList,
      e.mapQueries_mapQueries, Expr.mapQueriesOfList_mapQueriesOfList rest]

end

/-- **Mapping reaches each outermost query once and changes nothing else.** The identity changes
nothing, and two functions in a row are one. A walk comes by the same variants as before, and where
it came by a query, it now comes by what the function makes of that query. The queries that the
function was applied to, as they were noted, are the outermost ones: those of the nodes of a walk,
from which all queries at any depth are reached. -/
theorem Expr.mapQueries_lawful (e : Expr) :
    e.mapQueries id = e ∧
    (e.mapQueries g).mapQueries f = e.mapQueries (f ∘ g) ∧
    (e.mapQueries f).nodes.map Expr.variant = e.nodes.map Expr.variant ∧
    (e.mapQueries f).nodes.map Expr.query? = e.nodes.map (·.query?.map f) ∧
    e.mapQueriesM (Query.noted f) [] = (e.mapQueries f, e.outermost) ∧
    e.outermost.Perm (e.nodes.filterMap Expr.query?) ∧
    e.queries = e.outermost.flatMap Query.all := by
  have hnodes := e.nodes_mapQueries f
  -- what is said of the walk holds of every node on its own
  refine ⟨e.mapQueries_id, e.mapQueries_mapQueries f g, ?_, ?_, e.mapQueriesM_noted f [],
    e.outermost_perm_nodes, e.queries_eq_flatMap_outermost⟩
  · rw [hnodes, List.map_map]
    exact List.map_congr_left fun node _ => node.variant_mapQueries f
  · rw [hnodes, List.map_map]
    exact List.map_congr_left fun node _ => node.query?_mapQueries f

end Laws

/-- An expression is normalized by normalizing its outermost queries. -/
theorem Expr.normalize_eq_mapQueries (e : Expr) : e.normalize = e.mapQueries Query.normalize :=
  e.everywhere_eq_mapQueries Query.settle

end Anywhere
