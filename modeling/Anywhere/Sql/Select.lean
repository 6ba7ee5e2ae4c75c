import Anywhere.Query.Normal
import Anywhere.Sql.Fragment
import Anywhere.Sql.Literal

/-!
# The fragments of a query

A query is walked through from left to right: `SELECT [DISTINCT] [TOP n] [START AT m]`, projections,
sources, predicates and groups of the first select, then the other selects with their set
operations, then order and lock. The row cap stands in the first select only. The walk yields
fragments, so text and parameters are kept together; `Sql/Writer.lean` takes the same walk and
writes the two apart from each other.
-/

namespace Anywhere

/-! ## Pieces without recursion -/

namespace Fragments

/-- A literal, or the place of a parameter for a value without one. -/
def ofValue (value : Value) : Fragments :=
  match value.literal? with
  | some sql => [.text sql]
  | none => [.place (.ofValue value.logicalType.name value)]

/-- A column, with or without its table. -/
def ofColumn (table : Option String) (name : String) : Fragments :=
  match table with
  | some table => [.text (Name.quotedPath table ++ "." ++ Name.quoted name)]
  | none => [.text (Name.quoted name)]

/-- Raw SQL in parentheses: it may contain an `OR`, which must not reach its neighbours. -/
def isolate (e : Expr) (fs : Fragments) : Fragments :=
  match e with
  | .raw _ => parenthesized fs
  | _ => fs

/-- Predicates that all have to hold, given with what they are rendered as. -/
def conjunction (items : List Expr) (rendered : List Fragments) : Fragments :=
  joinWith " AND " (if 1 < items.length then List.zipWith isolate items rendered else rendered)

/-- A clause of a select, left out when it has no items. -/
def clause (keyword : String) (rendered : List Fragments) : Fragments :=
  if rendered.isEmpty then [] else .text keyword :: joinWith ", " rendered

/-- A clause of a select whose items all have to hold. -/
def conjunctionClause (keyword : String) (items : List Expr) (rendered : List Fragments) :
    Fragments :=
  if rendered.isEmpty then [] else .text keyword :: conjunction items rendered

/-- What a select asks for: all columns, when nothing is said about it. -/
def columns (rendered : List Fragments) : Fragments :=
  if rendered.isEmpty then [.text "*"] else joinWith ", " rendered

/-- The membership test, or its negation. -/
def membership (negated : Bool) : Fragment := .text (if negated then " NOT IN " else " IN ")

end Fragments

/-- The quantifier in SQL. Only `DISTINCT` is written. -/
def Quantifier.clause (quantifier : Option Quantifier) : String :=
  if quantifier = some .distinct then " DISTINCT" else ""

/-- The row cap in SQL. Rows are counted from one, in 64 bits like the offset, so that behind the
largest offset the count begins again. -/
def Query.cap (limit offset : Option UInt64) : String :=
  (match limit with
    | some n => " TOP " ++ Number.ofNat n.toNat
    | none => "") ++
  (match offset with
    | some m => " START AT " ++ Number.ofNat (m + 1).toNat
    | none => "")

/-- The end of a sort key. -/
def SortKey.suffix (direction : Direction) (nulls : Option NullPlacement) : String :=
  (if direction = .descending then " DESC" else "") ++
  (match nulls with
    | some .first => " NULLS FIRST"
    | some .last => " NULLS LAST"
    | none => "")

/-- The lock in SQL. -/
def Lock.suffix : Option Lock → String
  | some .forUpdate => " FOR UPDATE"
  | some (.clause text) => " " ++ Text.trim text
  | none => ""

/-! ## The tree -/

mutual

/-- The fragments of an expression. -/
def Expr.fragments : Expr → Fragments
  | .star => [.text "*"]
  | .tableStar table => [.text (Name.quotedPath table ++ ".*")]
  | .column table name => Fragments.ofColumn table name
  | .literal value => Fragments.ofValue value
  | .bind name value => [.place (.ofValue name value)]
  | .always => [.text "1=1"]
  | .never => [.text "1=0"]
  | .raw sql => [.text sql]
  | .binary left op right => left.fragments ++ .text (" " ++ op.symbol ++ " ") :: right.fragments
  | .conj items => Fragments.conjunction items (Expr.fragmentsOfList items)
  | .disj items => Fragments.parenthesized (Fragments.joinWith " OR " (Expr.fragmentsOfList items))
  | .negation inner => .text "NOT " :: Fragments.parenthesized inner.fragments
  | .isNull inner => inner.fragments ++ [.text " IS NULL"]
  | .isNotNull inner => inner.fragments ++ [.text " IS NOT NULL"]
  | .inList _ [] negated => [.text (if negated then "1=1" else "1=0")]
  | .inList inner (item :: rest) negated =>
    inner.fragments ++ Fragments.membership negated ::
      Fragments.parenthesized
        (Fragments.joinWith ", " (item.fragments :: Expr.fragmentsOfList rest))
  | .inQuery inner query negated =>
    inner.fragments ++ Fragments.membership negated :: Fragments.parenthesized query.fragments
  | .hasRows query => .text "EXISTS " :: Fragments.parenthesized query.fragments
  | .subquery query => Fragments.parenthesized query.fragments
  | .call name args distinct =>
    .text (Text.uppercase name) ::
      Fragments.parenthesized
        ((if distinct then [.text "DISTINCT "] else []) ++
          Fragments.joinWith ", " (Expr.fragmentsOfList args))
  | .named inner name => inner.fragments ++ [.text (" AS " ++ Name.quoted name)]
  | .grouping inner => Fragments.parenthesized inner.fragments

/-- The fragments of each expression of a list. -/
def Expr.fragmentsOfList : List Expr → List Fragments
  | [] => []
  | e :: rest => e.fragments :: Expr.fragmentsOfList rest

/-- The fragments of a query as it is. -/
def Query.fragments : Query → Fragments
  | ⟨first, rest, order, limit, offset, lock⟩ =>
    first.fragments (Query.cap limit offset) ++ Operand.fragmentsOfList rest ++
      Fragments.clause " ORDER BY " (SortKey.fragmentsOfList order) ++ [.text (Lock.suffix lock)]

/-- The fragments of a select with the given row cap. -/
def Select.fragments (cap : String) : Select → Fragments
  | ⟨quantifier, projections, source, joins, wheres, groups, havings⟩ =>
    .text ("SELECT" ++ Quantifier.clause quantifier ++ cap ++ " ") ::
      Fragments.columns (Expr.fragmentsOfList projections) ++
      Source.fragmentsFrom source ++
      Join.fragmentsOfList joins ++
      Fragments.conjunctionClause " WHERE " wheres (Expr.fragmentsOfList wheres) ++
      Fragments.clause " GROUP BY " (Expr.fragmentsOfList groups) ++
      Fragments.conjunctionClause " HAVING " havings (Expr.fragmentsOfList havings)

/-- The fragments of further selects with their set operations. -/
def Operand.fragmentsOfList : List Operand → Fragments
  | [] => []
  | ⟨op, select⟩ :: rest =>
    .text (" " ++ op.symbol ++ " ") :: select.fragments "" ++ Operand.fragmentsOfList rest

/-- The fragments of each sort key of a list. -/
def SortKey.fragmentsOfList : List SortKey → List Fragments
  | [] => []
  | ⟨expr, direction, nulls⟩ :: rest =>
    (expr.fragments ++ [.text (SortKey.suffix direction nulls)]) :: SortKey.fragmentsOfList rest

/-- The fragments of a source. -/
def Source.fragments : Source → Fragments
  | .table name (some label) => [.text (Name.quotedPath name ++ " " ++ Name.quoted label)]
  | .table name none => [.text (Name.quotedPath name)]
  | .subquery query label =>
    Fragments.parenthesized query.fragments ++ [.text (" " ++ Name.quoted label)]
  | .raw sql => [.text sql]

/-- The fragments of joins. -/
def Join.fragmentsOfList : List Join → Fragments
  | [] => []
  | ⟨kind, source, on⟩ :: rest =>
    .text (" " ++ kind.symbol ++ " ") :: source.fragments ++
      Expr.fragmentsOn on ++
      Join.fragmentsOfList rest

/-- The fragments of what a select reads from first. -/
def Source.fragmentsFrom : Option Source → Fragments
  | none => []
  | some source => .text " FROM " :: source.fragments

/-- The fragments of the condition of a join. -/
def Expr.fragmentsOn : Option Expr → Fragments
  | none => []
  | some e => .text " ON " :: e.fragments

end

theorem Expr.fragmentsOfList_eq_map (es : List Expr) :
    Expr.fragmentsOfList es = es.map Expr.fragments := by
  induction es with
  | nil => rfl
  | cons e es ih => rw [Expr.fragmentsOfList, ih, List.map_cons]

theorem SortKey.fragmentsOfList_eq_map (ks : List SortKey) :
    SortKey.fragmentsOfList ks =
      ks.map fun k => k.expr.fragments ++ [.text (SortKey.suffix k.direction k.nulls)] := by
  induction ks with
  | nil => rfl
  | cons k ks ih => cases k; rw [SortKey.fragmentsOfList, ih, List.map_cons]

end Anywhere
