import Anywhere.Proofs.RowCap

/-!
# Queries that are written

Not every query of a tree gets into the text: membership in an empty list is decided without looking
at what stands to the left of the list, and so are no queries written that stand there.
`Query.written` lists the others, each in front of those in it, in the order in which they are
written.

The rules treat them like all queries of a tree: the written queries of a normal form are the normal
forms of the written queries.
-/

namespace Anywhere

mutual

/-- The queries that are written for an expression. -/
def Expr.written : Expr → List Query
  | .subquery query => query.written
  | .hasRows query => query.written
  | .inQuery inner query _ => inner.written ++ query.written
  | .binary left _ right => left.written ++ right.written
  | .conj items => Expr.writtenOfList items
  | .disj items => Expr.writtenOfList items
  | .negation inner => inner.written
  | .isNull inner => inner.written
  | .isNotNull inner => inner.written
  | .inList _ [] _ => []
  | .inList inner (item :: rest) _ => inner.written ++ item.written ++ Expr.writtenOfList rest
  | .call _ args _ => Expr.writtenOfList args
  | .named inner _ => inner.written
  | .grouping inner => inner.written
  | .star => []
  | .tableStar _ => []
  | .column _ _ => []
  | .literal _ => []
  | .bind _ _ => []
  | .always => []
  | .never => []
  | .raw _ => []

/-- The queries that are written for expressions. -/
def Expr.writtenOfList : List Expr → List Query
  | [] => []
  | e :: rest => e.written ++ Expr.writtenOfList rest

/-- The query and the queries that are written in it. -/
def Query.written : Query → List Query
  | ⟨first, rest, order, limit, offset, lock⟩ =>
    ⟨first, rest, order, limit, offset, lock⟩ ::
      first.written ++ Operand.writtenOfList rest ++ SortKey.writtenOfList order

/-- The queries that are written for a select. -/
def Select.written : Select → List Query
  | ⟨_, projections, source, joins, wheres, groups, havings⟩ =>
    Expr.writtenOfList projections ++ Source.writtenFrom source ++ Join.writtenOfList joins ++
      Expr.writtenOfList wheres ++ Expr.writtenOfList groups ++ Expr.writtenOfList havings

/-- The queries that are written for further selects. -/
def Operand.writtenOfList : List Operand → List Query
  | [] => []
  | ⟨_, select⟩ :: rest => select.written ++ Operand.writtenOfList rest

/-- The queries that are written for sort keys. -/
def SortKey.writtenOfList : List SortKey → List Query
  | [] => []
  | ⟨expr, _, _⟩ :: rest => expr.written ++ SortKey.writtenOfList rest

/-- The queries that are written for a source. -/
def Source.written : Source → List Query
  | .subquery query _ => query.written
  | .table _ _ => []
  | .raw _ => []

/-- The queries that are written for what a select reads from first. -/
def Source.writtenFrom : Option Source → List Query
  | none => []
  | some source => source.written

/-- The queries that are written for joins. -/
def Join.writtenOfList : List Join → List Query
  | [] => []
  | ⟨_, source, on⟩ :: rest => source.written ++ Expr.writtenOn on ++ Join.writtenOfList rest

/-- The queries that are written for the condition of a join. -/
def Expr.writtenOn : Option Expr → List Query
  | none => []
  | some e => e.written

end

theorem Expr.writtenOfList_eq_flatMap (es : List Expr) :
    Expr.writtenOfList es = es.flatMap Expr.written := by
  induction es with
  | nil => rfl
  | cons e es ih => rw [Expr.writtenOfList, ih, List.flatMap_cons]

theorem Operand.writtenOfList_eq_flatMap (os : List Operand) :
    Operand.writtenOfList os = os.flatMap (·.select.written) := by
  induction os with
  | nil => rfl
  | cons o os ih => cases o; rw [Operand.writtenOfList, ih, List.flatMap_cons]

theorem SortKey.writtenOfList_eq_flatMap (ks : List SortKey) :
    SortKey.writtenOfList ks = ks.flatMap (·.expr.written) := by
  induction ks with
  | nil => rfl
  | cons k ks ih => cases k; rw [SortKey.writtenOfList, ih, List.flatMap_cons]

namespace Query

/-- The queries that are written in a query, without itself. -/
def writtenInside (q : Query) : List Query :=
  q.first.written ++ Operand.writtenOfList q.rest ++ SortKey.writtenOfList q.order

theorem written_eq (q : Query) : q.written = q :: q.writtenInside := by
  cases q
  rw [written, writtenInside, List.cons_append, List.cons_append]

theorem writtenInside_eq (q : Query) :
    q.writtenInside = q.selects.flatMap Select.written ++ SortKey.writtenOfList q.order := by
  rw [writtenInside, Operand.writtenOfList_eq_flatMap, selects, List.flatMap_cons, List.flatMap_map]

end Query

/-! ## A function is applied to all queries -/

section Everywhere

variable {f : Query → Query}

mutual

theorem Expr.written_everywhere (hf : ∀ q, (f q).writtenInside = q.writtenInside) (e : Expr) :
    (e.everywhere f).written = e.written.map (·.everywhere f) := by
  cases e with
  | subquery query => rw [Expr.everywhere, Expr.written, Expr.written, query.written_everywhere hf]
  | hasRows query => rw [Expr.everywhere, Expr.written, Expr.written, query.written_everywhere hf]
  | inQuery inner query negated =>
    rw [Expr.everywhere, Expr.written, Expr.written, inner.written_everywhere hf,
      query.written_everywhere hf, List.map_append]
  | binary left op right =>
    rw [Expr.everywhere, Expr.written, Expr.written, left.written_everywhere hf,
      right.written_everywhere hf, List.map_append]
  | conj items | disj items =>
    rw [Expr.everywhere, Expr.written, Expr.written, Expr.writtenOfList_everywhere hf items]
  | inList inner items negated =>
    -- an empty list stays empty
    cases items with
    | nil => rfl
    | cons item rest =>
      rw [Expr.everywhere, Expr.everywhereOfList, Expr.written, Expr.written,
        inner.written_everywhere hf, item.written_everywhere hf,
        Expr.writtenOfList_everywhere hf rest, List.map_append, List.map_append]
  | call name args distinct =>
    rw [Expr.everywhere, Expr.written, Expr.written, Expr.writtenOfList_everywhere hf args]
  | negation inner | isNull inner | isNotNull inner | named inner _ | grouping inner =>
    rw [Expr.everywhere, Expr.written, Expr.written, inner.written_everywhere hf]
  | _ => rfl

theorem Expr.writtenOfList_everywhere (hf : ∀ q, (f q).writtenInside = q.writtenInside)
    (es : List Expr) :
    Expr.writtenOfList (Expr.everywhereOfList f es) =
      (Expr.writtenOfList es).map (·.everywhere f) := by
  cases es with
  | nil => rfl
  | cons e rest =>
    rw [Expr.everywhereOfList, Expr.writtenOfList, Expr.writtenOfList, e.written_everywhere hf,
      Expr.writtenOfList_everywhere hf rest, List.map_append]

/-- **The written queries of the result are those of the tree, one by one.** -/
theorem Query.written_everywhere (hf : ∀ q, (f q).writtenInside = q.writtenInside) (q : Query) :
    (q.everywhere f).written = q.written.map (·.everywhere f) := by
  obtain ⟨first, rest, order, limit, offset, lock⟩ := q
  rw [Query.written_eq, Query.everywhere_eq, hf, Query.written_eq, List.map_cons,
    Query.everywhere_eq]
  refine congrArg (_ :: ·) ?_
  simp [Query.writtenInside, Query.inside, first.written_everywhere hf,
    Operand.writtenOfList_everywhere hf rest, SortKey.writtenOfList_everywhere hf order]

theorem Select.written_everywhere (hf : ∀ q, (f q).writtenInside = q.writtenInside) (s : Select) :
    (s.everywhere f).written = s.written.map (·.everywhere f) := by
  obtain ⟨quantifier, projections, source, joins, wheres, groups, havings⟩ := s
  rw [Select.everywhere.eq_def]
  cases source with
  | none =>
    simp [Select.written, Source.writtenFrom, Expr.writtenOfList_everywhere hf projections,
      Join.writtenOfList_everywhere hf joins, Expr.writtenOfList_everywhere hf wheres,
      Expr.writtenOfList_everywhere hf groups, Expr.writtenOfList_everywhere hf havings]
  | some source =>
    simp [Select.written, Source.writtenFrom, Expr.writtenOfList_everywhere hf projections,
      source.written_everywhere hf, Join.writtenOfList_everywhere hf joins,
      Expr.writtenOfList_everywhere hf wheres, Expr.writtenOfList_everywhere hf groups,
      Expr.writtenOfList_everywhere hf havings]

theorem Operand.writtenOfList_everywhere (hf : ∀ q, (f q).writtenInside = q.writtenInside)
    (os : List Operand) :
    Operand.writtenOfList (Operand.everywhereOfList f os) =
      (Operand.writtenOfList os).map (·.everywhere f) := by
  cases os with
  | nil => rfl
  | cons o rest =>
    obtain ⟨op, select⟩ := o
    rw [Operand.everywhereOfList, Operand.writtenOfList, Operand.writtenOfList,
      select.written_everywhere hf, Operand.writtenOfList_everywhere hf rest, List.map_append]

theorem SortKey.writtenOfList_everywhere (hf : ∀ q, (f q).writtenInside = q.writtenInside)
    (ks : List SortKey) :
    SortKey.writtenOfList (SortKey.everywhereOfList f ks) =
      (SortKey.writtenOfList ks).map (·.everywhere f) := by
  cases ks with
  | nil => rfl
  | cons k rest =>
    obtain ⟨expr, direction, nulls⟩ := k
    rw [SortKey.everywhereOfList, SortKey.writtenOfList, SortKey.writtenOfList,
      expr.written_everywhere hf, SortKey.writtenOfList_everywhere hf rest, List.map_append]

theorem Source.written_everywhere (hf : ∀ q, (f q).writtenInside = q.writtenInside) (s : Source) :
    (s.everywhere f).written = s.written.map (·.everywhere f) := by
  cases s with
  | subquery query label =>
    rw [Source.everywhere, Source.written, Source.written, query.written_everywhere hf]
  | _ => rfl

theorem Join.writtenOfList_everywhere (hf : ∀ q, (f q).writtenInside = q.writtenInside)
    (js : List Join) :
    Join.writtenOfList (Join.everywhereOfList f js) =
      (Join.writtenOfList js).map (·.everywhere f) := by
  cases js with
  | nil => rfl
  | cons j rest =>
    obtain ⟨kind, source, on⟩ := j
    rw [Join.everywhereOfList.eq_def]
    cases on with
    | none =>
      simp [Join.writtenOfList, Expr.writtenOn, source.written_everywhere hf,
        Join.writtenOfList_everywhere hf rest]
    | some e =>
      simp [Join.writtenOfList, Expr.writtenOn, source.written_everywhere hf,
        e.written_everywhere hf, Join.writtenOfList_everywhere hf rest]

end

end Everywhere

/-! ## The rules leave alone what is nested -/

namespace Query

/-- A projection that is left out has no queries in it, and one that is changed has the same. -/
theorem written_strip (p : Expr) : (Marker.strip p).elim [] Expr.written = p.written := by
  cases p with
  | raw sql =>
    rw [Marker.strip_raw]
    split <;> rfl
  | _ => rfl

theorem writtenOfList_strip (projections : List Expr) :
    Expr.writtenOfList (projections.filterMap Marker.strip) = Expr.writtenOfList projections := by
  induction projections with
  | nil => rfl
  | cons p rest ih =>
    have hp := written_strip p
    rw [List.filterMap_cons, Expr.writtenOfList, ← hp, ← ih]
    cases Marker.strip p with
    | none => rfl
    | some p' => rw [Expr.writtenOfList]; rfl

theorem written_settledSelect (limit cap : Option UInt64) (s : Select) :
    (settledSelect limit cap s).written = s.written := by
  obtain ⟨quantifier, projections, source, joins, wheres, groups, havings⟩ := s
  unfold settledSelect Select.resolveMarkers
  simp only [Select.written, writtenOfList_strip]
  split
  · simp [Expr.writtenOfList_eq_flatMap, Expr.written]
  · rfl

theorem writtenInside_settle (q : Query) : q.settle.writtenInside = q.writtenInside := by
  rw [writtenInside_eq, writtenInside_eq, selects_settle, List.flatMap_map, order_settle]
  -- the sort key that may be added is raw SQL
  congr 1
  · exact congrArg (q.selects.flatMap ·) (funext fun s => written_settledSelect _ _ s)
  · split
    · next h => rw [List.isEmpty_iff.mp h.2]; rfl
    · rfl

theorem written_normalize (q : Query) : q.normalize.written = q.written.map normalize :=
  q.written_everywhere writtenInside_settle

end Query

end Anywhere
