import Anywhere.Proofs.Isolation
import Anywhere.Proofs.SortKeys
import Anywhere.Proofs.Subqueries
import Anywhere.Query.Builder

/-!
# Where a row cap is written

The rules decide what becomes of limit, offset, quantifiers and order, and writing decides where it
stands. This file puts the two together and says of the text of a query, in terms of the query
before the rules were applied, what stands in front of the projections of each of its selects and
what stands at its end (`Query.toSql_capped`).

Everything hangs on one fact about the rules, namely that they deal with the selects of a query one
by one and leave the set operations between them as they are: `Query.rest_normalize` is for the
operands what `Query.first_normalize` is for the first select.
-/

namespace Anywhere

/-! ## The parts of a text -/

namespace Select

/-- What a select asks for. -/
def columnsSql (s : Select) : String :=
  if s.projections.isEmpty then "*"
  else String.intercalate ", " (s.projections.map (·.render.sql))

/-- What a select reads from. -/
def sourcesSql (s : Select) : String :=
  Fragments.sql (Source.fragmentsFrom s.source ++ s.joins.flatMap Join.fragments)

/-- The predicates on the rows. -/
def whereSql (s : Select) : String :=
  if s.wheres.isEmpty then "" else " WHERE " ++ (Expr.conj s.wheres).render.sql

/-- The groups of a select with the predicates on them. -/
def groupsSql (s : Select) : String :=
  Fragments.sql (Fragments.clause " GROUP BY " (s.groups.map Expr.fragments) ++
    Fragments.conjunctionClause " HAVING " s.havings (Expr.fragmentsOfList s.havings))

/-- The text of a select from its projections on. -/
def body (s : Select) : String := s.columnsSql ++ s.sourcesSql ++ s.whereSql ++ s.groupsSql

theorem sql_fragments (s : Select) (cap : String) :
    Fragments.sql (s.fragments cap) =
      "SELECT" ++ Quantifier.clause s.quantifier ++ cap ++ " " ++ s.body := by
  have hmap (es : List Expr) : es.map (fun e => Fragments.sql e.fragments) =
      es.map (·.render.sql) := by
    simp only [Expr.render_eq_fragments]
    rfl
  have hcolumns : Fragments.sql (Fragments.columns (s.projections.map Expr.fragments)) =
      s.columnsSql := by
    rw [Fragments.sql_columns, List.map_map, List.isEmpty_map, columnsSql, ← hmap]
    rfl
  have hwhere : Fragments.sql (Fragments.conjunctionClause " WHERE " s.wheres
      (Expr.fragmentsOfList s.wheres)) = s.whereSql := by
    rw [Fragments.sql_conjunctionClause, Expr.fragmentsOfList_eq_map, List.map_map, Writer.clause,
      List.isEmpty_map, whereSql, Expr.render_conj, ← hmap]
    rfl
  simp only [fragments_eq, List.cons_append, Fragments.sql_cons, Fragment.sql_text,
    Fragments.sql_append, hcolumns, hwhere, body, sourcesSql, groupsSql, String.append_assoc]

end Select

namespace Query

/-- The sort keys of a query. -/
def orderSql (q : Query) : String :=
  Fragments.sql (Fragments.clause " ORDER BY "
    (q.order.map fun k => k.expr.fragments ++ [.text (SortKey.suffix k.direction k.nulls)]))

/-! ## The selects of a query behind the rules -/

/-- What the rules make of a select of the query. -/
def settled (q : Query) (s : Select) : Select :=
  settledSelect q.limit q.normalize.limit (s.everywhere settle)

theorem ops_settle (q : Query) : q.settle.rest.map (·.op) = q.rest.map (·.op) := by
  have hmap (f : Select → Select) (q : Query) :
      (q.mapSelects f).rest.map (·.op) = q.rest.map (·.op) := by
    simp [mapSelects, Function.comp_def]
  have hclose (q : Query) : q.closeZeroLimit.rest.map (·.op) = q.rest.map (·.op) := by
    unfold closeZeroLimit
    split
    · exact hmap (fun s => { s with wheres := s.wheres ++ [.never] }) q
    · rfl
  have hbound (q : Query) : q.boundOffset.rest = q.rest := by
    unfold boundOffset
    split <;> rfl
  have horder (q : Query) : q.orderCapped.rest = q.rest := by
    unfold orderCapped
    split <;> rfl
  have hdrop (q : Query) : q.dropQuantifiers.rest.map (·.op) = q.rest.map (·.op) := by
    unfold dropQuantifiers
    split
    · exact hmap _ q
    · rfl
  rw [settle, hdrop, horder, hbound, hclose, hmap]

theorem rest_eq_zipWith (q : Query) :
    q.rest = List.zipWith Operand.mk (q.rest.map (·.op)) q.selects.tail := by
  rw [selects, List.tail_cons, List.zipWith_map, List.zipWith_self]
  exact (List.map_id'' (fun o => by cases o; rfl) q.rest).symm

/-- The rules leave the set operations alone. -/
theorem rest_normalize (q : Query) :
    q.normalize.rest = q.rest.map fun o => ⟨o.op, q.settled o.select⟩ := by
  have hops : q.normalize.rest.map (·.op) = q.rest.map (·.op) := by
    rw [normalize, everywhere_eq, ops_settle, inside, Operand.everywhereOfList_eq_map,
      List.map_map]
    rfl
  rw [rest_eq_zipWith, hops, selects_normalize, selects, List.map_cons, List.tail_cons,
    List.map_map, List.zipWith_map, List.zipWith_self]
  rfl

theorem lock_normalize (q : Query) : q.normalize.lock = q.lock := by
  rw [normalize, everywhere_eq, lock_settle]
  rfl

theorem limit_normalize (q : Query) :
    q.normalize.limit =
      if q.limit = some 0 then none
      else if q.offset.isSome ∧ q.limit = none then some unboundedLimit else q.limit := by
  rw [normalize, everywhere_eq, limit_settle]
  rfl

theorem offset_normalize (q : Query) :
    q.normalize.offset = if q.limit = some 0 then none else q.offset := by
  rw [normalize, everywhere_eq, offset_settle]
  rfl

theorem wheres_settled (q : Query) (s : Select) :
    (q.settled s).wheres =
      s.wheres.map Expr.normalize ++ if q.limit = some 0 then [.never] else [] := by
  have hwheres : (s.everywhere settle).wheres = s.wheres.map Expr.normalize := by
    rw [Select.everywhere_eq]
    rfl
  change (if q.limit = some 0 then _ else _) = _
  rw [hwheres]
  split
  · rfl
  · rw [List.append_nil]

/-! ## Row cap, order and quantifiers in the text -/

/-- The select is distinct, and the query does not ask for a single row. -/
def KeepsDistinct (q : Query) (s : Select) : Prop := q.limit ≠ some 1 ∧ s.isDistinct = true

instance (q : Query) (s : Select) : Decidable (q.KeepsDistinct s) :=
  inferInstanceAs (Decidable (_ ∧ _))

/-- The quantifier of a select of the query. -/
def distinctSql (q : Query) (s : Select) : String := if q.KeepsDistinct s then " DISTINCT" else ""

/-- How many rows are asked for. -/
def topSql (q : Query) : String :=
  match q.limit, q.offset with
  | some n, _ => if n = 0 then "" else " TOP " ++ Number.ofNat n.toNat
  | none, some _ => " TOP 2147483647"
  | none, none => ""

/-- With which row the server starts, counted from one. -/
def startSql (q : Query) : String :=
  match q.offset with
  | some m => if q.limit = some 0 then "" else " START AT " ++ Number.ofNat (m.toNat + 1)
  | none => ""

/-- A further select of the query, with its set operation in front of it. -/
def operandSql (q : Query) (o : Operand) : String :=
  " " ++ o.op.symbol ++ " SELECT" ++ q.distinctSql o.select ++ " " ++ (q.settled o.select).body

/-- The offset leaves room for a row behind it. -/
def OffsetFits (q : Query) : Prop := ∀ m, q.offset = some m → m.toNat + 1 < UInt64.size

/-- The query asks for some of its rows. -/
def Capped (q : Query) : Prop :=
  (q.limit.isSome ∧ q.limit ≠ some 0) ∨ (q.offset.isSome ∧ q.limit = none)

theorem clause_quantifier_settled (q : Query) (s : Select) :
    Quantifier.clause (q.settled s).quantifier = q.distinctSql s := by
  rw [settled, quantifier_settledSelect_normalize, distinctSql, Quantifier.clause]
  by_cases hone : q.limit = some 1
  · simp [KeepsDistinct, hone]
  · by_cases hmarks : s.projections.any Marker.marks = true
    · simp [KeepsDistinct, Select.isDistinct, hone, hmarks]
    · simp [KeepsDistinct, Select.isDistinct, hone, hmarks]

/-- An offset that leaves room for a row behind it is counted on without a carry. -/
theorem OffsetFits.toNat_add_one {q : Query} (h : q.OffsetFits) {m : UInt64}
    (hoffset : q.offset = some m) : (m + 1).toNat = m.toNat + 1 := by
  have hone : (1 : UInt64).toNat = 1 := rfl
  rw [UInt64.toNat_add, hone]
  exact Nat.mod_eq_of_lt (h m hoffset)

/-- The first row is the one that the writer counts. -/
theorem startSql_eq {q : Query} (h : q.OffsetFits) :
    q.startSql =
      match q.offset with
      | some m => if q.limit = some 0 then "" else " START AT " ++ Number.ofNat (m + 1).toNat
      | none => "" := by
  rw [startSql]
  cases hoffset : q.offset with
  | none => rfl
  | some m => simp only [h.toNat_add_one hoffset]

theorem cap_normalize {q : Query} (h : q.OffsetFits) :
    cap q.normalize.limit q.normalize.offset = q.topSql ++ q.startSql := by
  rw [limit_normalize, offset_normalize, topSql, startSql_eq h]
  have hunbounded : " TOP 2147483647" = " TOP " ++ Number.ofNat unboundedLimit.toNat := by decide
  cases q.limit with
  | none => cases q.offset <;> simp [cap, hunbounded]
  | some n => by_cases hn : n = 0 <;> cases q.offset <;> simp [cap, hn]

theorem capped_iff (q : Query) : q.Capped ↔ q.normalize.limit.isSome := by
  rw [limit_normalize, Capped]
  cases q.limit with
  | none => cases q.offset <;> simp
  | some n => by_cases hn : n = 0 <;> simp [hn]

theorem orderSql_normalize {q : Query} (hcapped : q.Capped) (horder : q.order = []) :
    q.normalize.orderSql = " ORDER BY 1" := by
  have hinside : (q.inside settle).order = [] := by
    rw [inside, horder]
    rfl
  have hkeys : q.normalize.order = [⟨.raw "1", .ascending, none⟩] := by
    have hlimit := q.capped_iff.mp hcapped
    rw [normalize, everywhere_eq] at hlimit ⊢
    rw [order_settle, if_pos ⟨hlimit, by rw [hinside]; rfl⟩]
  rw [orderSql, hkeys]
  decide

/-- A predicate that never holds makes no other one lose its parentheses. -/
theorem render_conj_never (es : List Expr) :
    (Expr.conj (es ++ [.never])).render.sql =
      String.intercalate " AND " (es.map Expr.isolatedSql ++ ["1=0"]) := by
  have hjoined : Expr.joinedSql (es ++ [.never]) =
      String.intercalate " AND " (es.map Expr.isolatedSql ++ ["1=0"]) := by
    rw [Expr.joinedSql, List.map_append]
    rfl
  cases es with
  | nil => rfl
  | cons e es => rw [Expr.render_conj_of_many (by simp), hjoined]

theorem whereSql_settled {q : Query} (h : q.limit = some 0) (s : Select) :
    (q.settled s).whereSql = " WHERE " ++ String.intercalate " AND "
      (s.wheres.map (fun e => e.normalize.isolatedSql) ++ ["1=0"]) := by
  rw [Select.whereSql, wheres_settled, if_pos h, if_neg (by simp), render_conj_never, List.map_map]
  rfl

theorem sql_operands (q : Query) :
    Fragments.sql (q.normalize.rest.flatMap Operand.fragments) =
      String.join (q.rest.map q.operandSql) := by
  rw [rest_normalize]
  induction q.rest with
  | nil => rfl
  | cons o rest ih =>
    rw [List.map_cons, List.flatMap_cons, Fragments.sql_append, ih, List.map_cons,
      String.join_cons, Operand.fragments, Fragments.sql_cons, Fragment.sql_text,
      Select.sql_fragments, clause_quantifier_settled, operandSql]
    simp only [String.append_assoc, String.append_empty]
    rfl

theorem toSql_eq {q : Query} (h : q.OffsetFits) :
    q.toSql = "SELECT" ++ q.distinctSql q.first ++ q.topSql ++ q.startSql ++ " " ++
      (q.settled q.first).body ++ String.join (q.rest.map q.operandSql) ++ q.normalize.orderSql ++
      Lock.suffix q.lock := by
  have hfirst : q.normalize.first = q.settled q.first := q.first_normalize
  rw [toSql_eq_fragments, fragments_eq, Fragments.sql_append, Fragments.sql_append,
    Fragments.sql_append, Select.sql_fragments, hfirst, clause_quantifier_settled, cap_normalize h,
    sql_operands, lock_normalize, orderSql]
  simp [String.append_assoc]

/-- **The row cap is written where the dialect wants it,** behind the quantifier of the first select
and nowhere else. A capped query that has no end of its own ends with an order by its first column,
and instead of a limit of zero a predicate that never holds stands last in every select. -/
theorem toSql_capped (q : Query) (h : q.OffsetFits) :
    q.toSql = "SELECT" ++ q.distinctSql q.first ++ q.topSql ++ q.startSql ++ " " ++
      (q.settled q.first).body ++ String.join (q.rest.map q.operandSql) ++ q.normalize.orderSql ++
      Lock.suffix q.lock ∧
    (q.Capped → q.order = [] → q.lock = none → ∃ front, q.toSql = front ++ " ORDER BY 1") ∧
    (q.limit = some 0 → q.topSql = "" ∧ q.startSql = "" ∧
      ∀ s ∈ q.selects, (q.settled s).whereSql = " WHERE " ++ String.intercalate " AND "
        (s.wheres.map (fun e => e.normalize.isolatedSql) ++ ["1=0"])) := by
  refine ⟨toSql_eq h, fun hcapped horder hlock => ?_, fun hzero => ⟨?_, ?_, fun s _ => ?_⟩⟩
  · rw [toSql_eq h, orderSql_normalize hcapped horder, hlock, Lock.suffix, String.append_empty]
    exact ⟨_, rfl⟩
  · simp [topSql, hzero]
  · cases hoffset : q.offset <;> simp [startSql, hzero, hoffset]
  · exact whereSql_settled hzero s

/-- Two selects without an order, from which the first rows are left out. -/
def laterOrders : Query :=
  ((ofTable "orders").skip 20).combine .union (Select.ofTable "returns").distinct

/-- The cap of two selects stands in the first one, and the order behind the last one. -/
theorem toSql_capped_laterOrders :
    laterOrders.OffsetFits ∧
      laterOrders.toSql = "SELECT TOP 2147483647 START AT 21 * FROM \"orders\" " ++
        "UNION SELECT DISTINCT * FROM \"returns\" ORDER BY 1" ∧
      ∃ front, laterOrders.toSql = front ++ " ORDER BY 1" := by
  have hfits : laterOrders.OffsetFits := by
    intro m hm
    obtain rfl : 20 = m := Option.some.inj hm
    decide
  have hcapped : laterOrders.Capped := .inr ⟨rfl, rfl⟩
  obtain ⟨htext, hend, -⟩ := toSql_capped laterOrders hfits
  exact ⟨hfits, htext.trans (by decide +kernel), hend hcapped rfl rfl⟩

end Query

end Anywhere
