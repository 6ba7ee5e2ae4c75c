import Anywhere.Query.Traversal

/-!
# Queries inside a query

`Query.all` lists a query and all queries in it, at any depth and in every place where one can
stand: in projections, predicates, groups, join conditions and sort keys, whatever expression it is
wrapped in, and as a source. It is what "every query of a tree" means in all that follows.

`Query.everywhere` applies a function from the inside out. As long as that function leaves alone
what is nested in a query, the queries of the result are those of the tree one by one, and this is
why a rule for single queries becomes a statement about all queries of a tree.
-/

namespace Anywhere

mutual

/-- The queries in an expression. -/
def Expr.queries : Expr → List Query
  | .subquery query => query.all
  | .hasRows query => query.all
  | .inQuery inner query _ => inner.queries ++ query.all
  | .binary left _ right => left.queries ++ right.queries
  | .conj items => Expr.queriesOfList items
  | .disj items => Expr.queriesOfList items
  | .negation inner => inner.queries
  | .isNull inner => inner.queries
  | .isNotNull inner => inner.queries
  | .inList inner items _ => inner.queries ++ Expr.queriesOfList items
  | .call _ args _ => Expr.queriesOfList args
  | .named inner _ => inner.queries
  | .grouping inner => inner.queries
  | .star => []
  | .tableStar _ => []
  | .column _ _ => []
  | .literal _ => []
  | .bind _ _ => []
  | .always => []
  | .never => []
  | .raw _ => []

/-- The queries in expressions. -/
def Expr.queriesOfList : List Expr → List Query
  | [] => []
  | e :: rest => e.queries ++ Expr.queriesOfList rest

/-- The query and all queries in it. -/
def Query.all : Query → List Query
  | ⟨first, rest, order, limit, offset, lock⟩ =>
    ⟨first, rest, order, limit, offset, lock⟩ ::
      first.queries ++ Operand.queriesOfList rest ++ SortKey.queriesOfList order

/-- The queries in a select. -/
def Select.queries : Select → List Query
  | ⟨_, projections, source, joins, wheres, groups, havings⟩ =>
    Expr.queriesOfList projections ++ Source.queriesFrom source ++ Join.queriesOfList joins ++
      Expr.queriesOfList wheres ++ Expr.queriesOfList groups ++ Expr.queriesOfList havings

/-- The queries in further selects. -/
def Operand.queriesOfList : List Operand → List Query
  | [] => []
  | ⟨_, select⟩ :: rest => select.queries ++ Operand.queriesOfList rest

/-- The queries in sort keys. -/
def SortKey.queriesOfList : List SortKey → List Query
  | [] => []
  | ⟨expr, _, _⟩ :: rest => expr.queries ++ SortKey.queriesOfList rest

/-- The queries in a source. -/
def Source.queries : Source → List Query
  | .subquery query _ => query.all
  | .table _ _ => []
  | .raw _ => []

/-- The queries in what a select reads from first. -/
def Source.queriesFrom : Option Source → List Query
  | none => []
  | some source => source.queries

/-- The queries in joins. -/
def Join.queriesOfList : List Join → List Query
  | [] => []
  | ⟨_, source, on⟩ :: rest => source.queries ++ Expr.queriesOn on ++ Join.queriesOfList rest

/-- The queries in the condition of a join. -/
def Expr.queriesOn : Option Expr → List Query
  | none => []
  | some e => e.queries

end

theorem Expr.queriesOfList_eq_flatMap (es : List Expr) :
    Expr.queriesOfList es = es.flatMap Expr.queries := by
  induction es with
  | nil => rfl
  | cons e es ih => rw [Expr.queriesOfList, ih, List.flatMap_cons]

theorem Operand.queriesOfList_eq_flatMap (os : List Operand) :
    Operand.queriesOfList os = os.flatMap (·.select.queries) := by
  induction os with
  | nil => rfl
  | cons o os ih => cases o; rw [Operand.queriesOfList, ih, List.flatMap_cons]

theorem SortKey.queriesOfList_eq_flatMap (ks : List SortKey) :
    SortKey.queriesOfList ks = ks.flatMap (·.expr.queries) := by
  induction ks with
  | nil => rfl
  | cons k ks ih => cases k; rw [SortKey.queriesOfList, ih, List.flatMap_cons]

/-- The queries in a join. -/
def Join.queries (j : Join) : List Query := j.source.queries ++ Expr.queriesOn j.on

theorem Join.queriesOfList_eq_flatMap (js : List Join) :
    Join.queriesOfList js = js.flatMap Join.queries := by
  induction js with
  | nil => rfl
  | cons j js ih => cases j; rw [Join.queriesOfList, ih, List.flatMap_cons, Join.queries]

namespace Query

/-- The queries in a query, without itself. -/
def inner (q : Query) : List Query :=
  q.first.queries ++ Operand.queriesOfList q.rest ++ SortKey.queriesOfList q.order

theorem all_eq (q : Query) : q.all = q :: q.inner := by
  cases q
  rw [all, inner, List.cons_append, List.cons_append]

theorem inner_eq (q : Query) :
    q.inner = q.selects.flatMap Select.queries ++ SortKey.queriesOfList q.order := by
  rw [inner, Operand.queriesOfList_eq_flatMap, selects, List.flatMap_cons, List.flatMap_map]

/-- The query with `f` applied to all queries in it, but not to itself. -/
def inside (f : Query → Query) (q : Query) : Query :=
  { q with
    first := q.first.everywhere f
    rest := Operand.everywhereOfList f q.rest
    order := SortKey.everywhereOfList f q.order }

theorem everywhere_eq (f : Query → Query) (q : Query) : q.everywhere f = f (q.inside f) := by
  cases q
  rw [everywhere, inside]

theorem selects_inside (f : Query → Query) (q : Query) :
    (q.inside f).selects = q.selects.map (·.everywhere f) := by
  simp [selects, inside, Operand.everywhereOfList_eq_map, Function.comp_def]

end Query

/-- The join with `f` applied to all queries in it. -/
def Join.everywhere (f : Query → Query) (j : Join) : Join :=
  ⟨j.kind, j.source.everywhere f, j.on.map (·.everywhere f)⟩

theorem Join.everywhereOfList_eq_map (f : Query → Query) (js : List Join) :
    Join.everywhereOfList f js = js.map (·.everywhere f) := by
  induction js with
  | nil => rfl
  | cons j js ih =>
    obtain ⟨kind, source, on⟩ := j
    rw [Join.everywhereOfList.eq_def]
    dsimp only
    rw [ih]
    cases on with
    | none => rfl
    | some e => rfl

theorem Select.everywhere_eq (f : Query → Query) (s : Select) :
    s.everywhere f =
      ⟨s.quantifier, s.projections.map (·.everywhere f), s.source.map (·.everywhere f),
        s.joins.map (·.everywhere f), s.wheres.map (·.everywhere f), s.groups.map (·.everywhere f),
        s.havings.map (·.everywhere f)⟩ := by
  obtain ⟨quantifier, projections, source, joins, wheres, groups, havings⟩ := s
  simp only [Select.everywhere.eq_def, Expr.everywhereOfList_eq_map, Join.everywhereOfList_eq_map]
  cases source with
  | none => rfl
  | some source => rfl

theorem Select.projections_everywhere (f : Query → Query) (s : Select) :
    (s.everywhere f).projections = s.projections.map (·.everywhere f) := by
  rw [Select.everywhere_eq]

/-! ## A function is applied to all queries -/

section Everywhere

variable {f : Query → Query}

mutual

theorem Expr.queries_everywhere (hf : ∀ q, (f q).inner = q.inner) (e : Expr) :
    (e.everywhere f).queries = e.queries.map (·.everywhere f) := by
  cases e with
  | subquery query => rw [Expr.everywhere, Expr.queries, Expr.queries, query.all_everywhere hf]
  | hasRows query => rw [Expr.everywhere, Expr.queries, Expr.queries, query.all_everywhere hf]
  | inQuery inner query negated =>
    rw [Expr.everywhere, Expr.queries, Expr.queries, inner.queries_everywhere hf,
      query.all_everywhere hf, List.map_append]
  | binary left op right =>
    rw [Expr.everywhere, Expr.queries, Expr.queries, left.queries_everywhere hf,
      right.queries_everywhere hf, List.map_append]
  | conj items | disj items =>
    rw [Expr.everywhere, Expr.queries, Expr.queries, Expr.queriesOfList_everywhere hf items]
  | inList inner items negated =>
    rw [Expr.everywhere, Expr.queries, Expr.queries, inner.queries_everywhere hf,
      Expr.queriesOfList_everywhere hf items, List.map_append]
  | call name args distinct =>
    rw [Expr.everywhere, Expr.queries, Expr.queries, Expr.queriesOfList_everywhere hf args]
  | negation inner | isNull inner | isNotNull inner | named inner _ | grouping inner =>
    rw [Expr.everywhere, Expr.queries, Expr.queries, inner.queries_everywhere hf]
  | _ => rfl

theorem Expr.queriesOfList_everywhere (hf : ∀ q, (f q).inner = q.inner) (es : List Expr) :
    Expr.queriesOfList (Expr.everywhereOfList f es) =
      (Expr.queriesOfList es).map (·.everywhere f) := by
  cases es with
  | nil => rfl
  | cons e rest =>
    rw [Expr.everywhereOfList, Expr.queriesOfList, Expr.queriesOfList, e.queries_everywhere hf,
      Expr.queriesOfList_everywhere hf rest, List.map_append]

/-- **The queries of the result are those of the tree, one by one.** -/
theorem Query.all_everywhere (hf : ∀ q, (f q).inner = q.inner) (q : Query) :
    (q.everywhere f).all = q.all.map (·.everywhere f) := by
  obtain ⟨first, rest, order, limit, offset, lock⟩ := q
  -- `f` comes last and leaves alone what is nested, so the rest is what was done inside
  rw [Query.all_eq, Query.everywhere_eq, hf, Query.all_eq, List.map_cons, Query.everywhere_eq]
  refine congrArg (_ :: ·) ?_
  simp [Query.inner, Query.inside, first.queries_everywhere hf,
    Operand.queriesOfList_everywhere hf rest, SortKey.queriesOfList_everywhere hf order]

theorem Select.queries_everywhere (hf : ∀ q, (f q).inner = q.inner) (s : Select) :
    (s.everywhere f).queries = s.queries.map (·.everywhere f) := by
  obtain ⟨quantifier, projections, source, joins, wheres, groups, havings⟩ := s
  rw [Select.everywhere.eq_def]
  cases source with
  | none =>
    simp [Select.queries, Source.queriesFrom, Expr.queriesOfList_everywhere hf projections,
      Join.queriesOfList_everywhere hf joins, Expr.queriesOfList_everywhere hf wheres,
      Expr.queriesOfList_everywhere hf groups, Expr.queriesOfList_everywhere hf havings]
  | some source =>
    simp [Select.queries, Source.queriesFrom, Expr.queriesOfList_everywhere hf projections,
      source.queries_everywhere hf, Join.queriesOfList_everywhere hf joins,
      Expr.queriesOfList_everywhere hf wheres, Expr.queriesOfList_everywhere hf groups,
      Expr.queriesOfList_everywhere hf havings]

theorem Operand.queriesOfList_everywhere (hf : ∀ q, (f q).inner = q.inner) (os : List Operand) :
    Operand.queriesOfList (Operand.everywhereOfList f os) =
      (Operand.queriesOfList os).map (·.everywhere f) := by
  cases os with
  | nil => rfl
  | cons o rest =>
    obtain ⟨op, select⟩ := o
    rw [Operand.everywhereOfList, Operand.queriesOfList, Operand.queriesOfList,
      select.queries_everywhere hf, Operand.queriesOfList_everywhere hf rest, List.map_append]

theorem SortKey.queriesOfList_everywhere (hf : ∀ q, (f q).inner = q.inner) (ks : List SortKey) :
    SortKey.queriesOfList (SortKey.everywhereOfList f ks) =
      (SortKey.queriesOfList ks).map (·.everywhere f) := by
  cases ks with
  | nil => rfl
  | cons k rest =>
    obtain ⟨expr, direction, nulls⟩ := k
    rw [SortKey.everywhereOfList, SortKey.queriesOfList, SortKey.queriesOfList,
      expr.queries_everywhere hf, SortKey.queriesOfList_everywhere hf rest, List.map_append]

theorem Source.queries_everywhere (hf : ∀ q, (f q).inner = q.inner) (s : Source) :
    (s.everywhere f).queries = s.queries.map (·.everywhere f) := by
  cases s with
  | subquery query label =>
    rw [Source.everywhere, Source.queries, Source.queries, query.all_everywhere hf]
  | _ => rfl

theorem Join.queriesOfList_everywhere (hf : ∀ q, (f q).inner = q.inner) (js : List Join) :
    Join.queriesOfList (Join.everywhereOfList f js) =
      (Join.queriesOfList js).map (·.everywhere f) := by
  cases js with
  | nil => rfl
  | cons j rest =>
    obtain ⟨kind, source, on⟩ := j
    rw [Join.everywhereOfList.eq_def]
    cases on with
    | none =>
      simp [Join.queriesOfList, Expr.queriesOn, source.queries_everywhere hf,
        Join.queriesOfList_everywhere hf rest]
    | some e =>
      simp [Join.queriesOfList, Expr.queriesOn, source.queries_everywhere hf,
        e.queries_everywhere hf, Join.queriesOfList_everywhere hf rest]

end

/-! ## A tree is left alone when all its queries are -/

mutual

theorem Expr.everywhere_eq_self (e : Expr) (h : ∀ t ∈ e.queries, f t = t) : e.everywhere f = e := by
  cases e with
  | subquery query => rw [Expr.everywhere, query.everywhere_eq_self h]
  | hasRows query => rw [Expr.everywhere, query.everywhere_eq_self h]
  | inQuery inner query negated =>
    rw [Expr.queries, List.forall_mem_append] at h
    rw [Expr.everywhere, inner.everywhere_eq_self h.1, query.everywhere_eq_self h.2]
  | binary left op right =>
    rw [Expr.queries, List.forall_mem_append] at h
    rw [Expr.everywhere, left.everywhere_eq_self h.1, right.everywhere_eq_self h.2]
  | conj items | disj items => rw [Expr.everywhere, Expr.everywhereOfList_eq_self items h]
  | inList inner items negated =>
    rw [Expr.queries, List.forall_mem_append] at h
    rw [Expr.everywhere, inner.everywhere_eq_self h.1, Expr.everywhereOfList_eq_self items h.2]
  | call name args distinct => rw [Expr.everywhere, Expr.everywhereOfList_eq_self args h]
  | negation inner | isNull inner | isNotNull inner | named inner _ | grouping inner =>
    rw [Expr.everywhere, inner.everywhere_eq_self h]
  | _ => rfl

theorem Expr.everywhereOfList_eq_self (es : List Expr)
    (h : ∀ t ∈ Expr.queriesOfList es, f t = t) : Expr.everywhereOfList f es = es := by
  cases es with
  | nil => rfl
  | cons e rest =>
    rw [Expr.queriesOfList, List.forall_mem_append] at h
    rw [Expr.everywhereOfList, e.everywhere_eq_self h.1, Expr.everywhereOfList_eq_self rest h.2]

theorem Query.everywhere_eq_self (q : Query) (h : ∀ t ∈ q.all, f t = t) : q.everywhere f = q := by
  obtain ⟨first, rest, order, limit, offset, lock⟩ := q
  rw [Query.all, List.cons_append, List.cons_append, List.forall_mem_cons, List.forall_mem_append,
    List.forall_mem_append] at h
  obtain ⟨hq, ⟨hfirst, hrest⟩, horder⟩ := h
  rw [Query.everywhere, first.everywhere_eq_self hfirst,
    Operand.everywhereOfList_eq_self rest hrest, SortKey.everywhereOfList_eq_self order horder]
  exact hq

theorem Select.everywhere_eq_self (s : Select) (h : ∀ t ∈ s.queries, f t = t) :
    s.everywhere f = s := by
  obtain ⟨quantifier, projections, source, joins, wheres, groups, havings⟩ := s
  simp only [Select.queries, List.forall_mem_append] at h
  obtain ⟨⟨⟨⟨⟨hprojections, hsource⟩, hjoins⟩, hwheres⟩, hgroups⟩, hhavings⟩ := h
  rw [Select.everywhere.eq_def]
  dsimp only
  rw [Expr.everywhereOfList_eq_self projections hprojections,
    Join.everywhereOfList_eq_self joins hjoins, Expr.everywhereOfList_eq_self wheres hwheres,
    Expr.everywhereOfList_eq_self groups hgroups, Expr.everywhereOfList_eq_self havings hhavings]
  cases source with
  | none => rfl
  | some source =>
    dsimp only
    rw [source.everywhere_eq_self hsource]

theorem Operand.everywhereOfList_eq_self (os : List Operand)
    (h : ∀ t ∈ Operand.queriesOfList os, f t = t) : Operand.everywhereOfList f os = os := by
  cases os with
  | nil => rfl
  | cons o rest =>
    obtain ⟨op, select⟩ := o
    rw [Operand.queriesOfList, List.forall_mem_append] at h
    rw [Operand.everywhereOfList, select.everywhere_eq_self h.1,
      Operand.everywhereOfList_eq_self rest h.2]

theorem SortKey.everywhereOfList_eq_self (ks : List SortKey)
    (h : ∀ t ∈ SortKey.queriesOfList ks, f t = t) : SortKey.everywhereOfList f ks = ks := by
  cases ks with
  | nil => rfl
  | cons k rest =>
    obtain ⟨expr, direction, nulls⟩ := k
    rw [SortKey.queriesOfList, List.forall_mem_append] at h
    rw [SortKey.everywhereOfList, expr.everywhere_eq_self h.1,
      SortKey.everywhereOfList_eq_self rest h.2]

theorem Source.everywhere_eq_self (s : Source) (h : ∀ t ∈ s.queries, f t = t) :
    s.everywhere f = s := by
  cases s with
  | subquery query label => rw [Source.everywhere, query.everywhere_eq_self h]
  | _ => rfl

theorem Join.everywhereOfList_eq_self (js : List Join)
    (h : ∀ t ∈ Join.queriesOfList js, f t = t) : Join.everywhereOfList f js = js := by
  cases js with
  | nil => rfl
  | cons j rest =>
    obtain ⟨kind, source, on⟩ := j
    simp only [Join.queriesOfList, List.forall_mem_append] at h
    obtain ⟨⟨hsource, hon⟩, hrest⟩ := h
    rw [Join.everywhereOfList.eq_def]
    dsimp only
    rw [source.everywhere_eq_self hsource, Join.everywhereOfList_eq_self rest hrest]
    cases on with
    | none => rfl
    | some e =>
      dsimp only
      rw [e.everywhere_eq_self hon]

end

end Everywhere

end Anywhere
