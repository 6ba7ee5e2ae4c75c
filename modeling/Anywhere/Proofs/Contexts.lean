import Anywhere.Proofs.Nesting
import Mathlib.Data.List.Basic

/-!
# The places where a query is nested

`Query.inner` lists the queries in a query and does not tell where they stand. A *frame* is a query
with one of its outermost queries left out, wherever that one stood, and filling the frame puts a
query there. A *context* is a frame, or a frame with a context inside, so it leaves out one query at
any depth. The queries in a query are exactly those that can be left out, which is what makes a
statement about all contexts one about all nested queries, each at its place.

There is one place in which a query is nested and not written: to the left of an empty list, since
nothing is a member of it whatever it is.
-/

namespace Anywhere

/-! ## Frames -/

/-- An expression with one of its outermost queries left out. -/
inductive Expr.Frame where
  | subquery
  | hasRows
  /-- The query of a membership test, -/
  | inQuery (inner : Expr) (negated : Bool)
  /-- and what stands to the left of one. -/
  | inQueryLeft (F : Frame) (query : Query) (negated : Bool)
  | binaryLeft (F : Frame) (op : BinaryOp) (right : Expr)
  | binaryRight (left : Expr) (op : BinaryOp) (F : Frame)
  | conj (before : List Expr) (F : Frame) (after : List Expr)
  | disj (before : List Expr) (F : Frame) (after : List Expr)
  | negation (F : Frame)
  | isNull (F : Frame)
  | isNotNull (F : Frame)
  /-- What stands to the left of a list, -/
  | listLeft (F : Frame) (items : List Expr) (negated : Bool)
  /-- and an item of one. -/
  | item (inner : Expr) (before : List Expr) (F : Frame) (after : List Expr) (negated : Bool)
  | arg (name : String) (before : List Expr) (F : Frame) (after : List Expr) (distinct : Bool)
  | named (F : Frame) (name : String)
  | grouping (F : Frame)

/-- A join with one of its outermost queries left out. -/
inductive Join.Frame where
  | subquery (kind : JoinKind) (label : String) (on : Option Expr)
  | condition (kind : JoinKind) (source : Source) (F : Expr.Frame)

/-- A select with one of its outermost queries left out. Of `s` all counts but the clause in which
the query stood. -/
inductive Select.Frame where
  | projection (s : Select) (before : List Expr) (F : Expr.Frame) (after : List Expr)
  | source (s : Select) (label : String)
  | join (s : Select) (before : List Join) (F : Join.Frame) (after : List Join)
  | condition (s : Select) (before : List Expr) (F : Expr.Frame) (after : List Expr)
  | group (s : Select) (before : List Expr) (F : Expr.Frame) (after : List Expr)
  | having (s : Select) (before : List Expr) (F : Expr.Frame) (after : List Expr)

/-- A query with one of its outermost queries left out. Of `q` all counts but the part in which the
query stood. -/
inductive Query.Frame where
  | first (q : Query) (F : Select.Frame)
  | operand (q : Query) (before : List Operand) (op : SetOp) (F : Select.Frame)
      (after : List Operand)
  | key (q : Query) (before : List SortKey) (F : Expr.Frame) (direction : Direction)
      (nulls : Option NullPlacement) (after : List SortKey)

/-- A query with one of the queries in it left out, at any depth. -/
inductive Query.Context where
  /-- An outermost one, -/
  | outermost (F : Query.Frame)
  /-- or one inside an outermost one. -/
  | within (F : Query.Frame) (C : Context)

/-! ## Filling -/

/-- The expression with `q` in the place of the query that was left out. -/
def Expr.Frame.fill (q : Query) : Expr.Frame → Expr
  | .subquery => .subquery q
  | .hasRows => .hasRows q
  | .inQuery inner negated => .inQuery inner q negated
  | .inQueryLeft F query negated => .inQuery (F.fill q) query negated
  | .binaryLeft F op right => .binary (F.fill q) op right
  | .binaryRight left op F => .binary left op (F.fill q)
  | .conj before F after => .conj (before ++ F.fill q :: after)
  | .disj before F after => .disj (before ++ F.fill q :: after)
  | .negation F => .negation (F.fill q)
  | .isNull F => .isNull (F.fill q)
  | .isNotNull F => .isNotNull (F.fill q)
  | .listLeft F items negated => .inList (F.fill q) items negated
  | .item inner before F after negated => .inList inner (before ++ F.fill q :: after) negated
  | .arg name before F after distinct => .call name (before ++ F.fill q :: after) distinct
  | .named F name => .named (F.fill q) name
  | .grouping F => .grouping (F.fill q)

/-- The join with `q` in the place of the query that was left out. -/
def Join.Frame.fill (q : Query) : Join.Frame → Join
  | .subquery kind label on => ⟨kind, .subquery q label, on⟩
  | .condition kind source F => ⟨kind, source, some (F.fill q)⟩

/-- The select with `q` in the place of the query that was left out. -/
def Select.Frame.fill (q : Query) : Select.Frame → Select
  | .projection s before F after => { s with projections := before ++ F.fill q :: after }
  | .source s label => { s with source := some (.subquery q label) }
  | .join s before F after => { s with joins := before ++ F.fill q :: after }
  | .condition s before F after => { s with wheres := before ++ F.fill q :: after }
  | .group s before F after => { s with groups := before ++ F.fill q :: after }
  | .having s before F after => { s with havings := before ++ F.fill q :: after }

/-- The query with `t` in the place of the query that was left out. -/
def Query.Frame.fill (t : Query) : Query.Frame → Query
  | .first q F => { q with first := F.fill t }
  | .operand q before op F after => { q with rest := before ++ ⟨op, F.fill t⟩ :: after }
  | .key q before F direction nulls after =>
    { q with order := before ++ ⟨F.fill t, direction, nulls⟩ :: after }

/-- The query with `t` in the place of the query that was left out. -/
def Query.Context.fill (t : Query) : Query.Context → Query
  | .outermost F => F.fill t
  | .within F C => F.fill (C.fill t)

/-! ## What is written -/

/-- The query that was left out is not to the left of an empty list. -/
def Expr.Frame.written : Expr.Frame → Bool
  | .subquery => true
  | .hasRows => true
  | .inQuery _ _ => true
  | .inQueryLeft F _ _ => F.written
  | .binaryLeft F _ _ => F.written
  | .binaryRight _ _ F => F.written
  | .conj _ F _ => F.written
  | .disj _ F _ => F.written
  | .negation F => F.written
  | .isNull F => F.written
  | .isNotNull F => F.written
  | .listLeft F items _ => !items.isEmpty && F.written
  | .item _ _ F _ _ => F.written
  | .arg _ _ F _ _ => F.written
  | .named F _ => F.written
  | .grouping F => F.written

@[inherit_doc Expr.Frame.written]
def Join.Frame.written : Join.Frame → Bool
  | .subquery _ _ _ => true
  | .condition _ _ F => F.written

@[inherit_doc Expr.Frame.written]
def Select.Frame.written : Select.Frame → Bool
  | .projection _ _ F _ => F.written
  | .source _ _ => true
  | .join _ _ F _ => F.written
  | .condition _ _ F _ => F.written
  | .group _ _ F _ => F.written
  | .having _ _ F _ => F.written

@[inherit_doc Expr.Frame.written]
def Query.Frame.written : Query.Frame → Bool
  | .first _ F => F.written
  | .operand _ _ _ F _ => F.written
  | .key _ _ F _ _ _ => F.written

/-- Neither the query that was left out nor a query around it is to the left of an empty list. -/
def Query.Context.written : Query.Context → Bool
  | .outermost F => F.written
  | .within F C => F.written && C.written

/-! ## What fills a frame is in what was filled -/

theorem infix_flatMap {α : Type} {f : α → List Query} {l : List Query} {a : α} (h : l <:+: f a)
    (before after : List α) : l <:+: (before ++ a :: after).flatMap f := by
  rw [List.flatMap_append, List.flatMap_cons]
  exact (h.trans (List.prefix_append _ _).isInfix).trans (List.suffix_append _ _).isInfix

theorem Expr.Frame.infix_queries_fill (q : Query) (F : Expr.Frame) :
    q.all <:+: (F.fill q).queries := by
  induction F with
  | subquery | hasRows =>
    simp only [fill, Expr.queries, List.infix_rfl]
  | inQuery inner negated =>
    rw [fill, Expr.queries]
    exact (List.suffix_append _ _).isInfix
  | inQueryLeft F _ _ ih | binaryLeft F _ _ ih | listLeft F _ _ ih =>
    rw [fill, Expr.queries]
    exact ih.trans (List.prefix_append _ _).isInfix
  | binaryRight _ _ F ih =>
    rw [fill, Expr.queries]
    exact ih.trans (List.suffix_append _ _).isInfix
  | conj before F after ih | disj before F after ih | arg _ before F after _ ih =>
    rw [fill, Expr.queries, Expr.queriesOfList_eq_flatMap]
    exact infix_flatMap ih before after
  | item _ before F after _ ih =>
    rw [fill, Expr.queries, Expr.queriesOfList_eq_flatMap]
    exact (infix_flatMap ih before after).trans (List.suffix_append _ _).isInfix
  | negation F ih | isNull F ih | isNotNull F ih | named F _ ih | grouping F ih =>
    rw [fill, Expr.queries]
    exact ih

theorem Join.Frame.infix_queries_fill (q : Query) (F : Join.Frame) :
    q.all <:+: (F.fill q).queries := by
  cases F with
  | subquery kind label on =>
    rw [fill, Join.queries, Source.queries]
    exact (List.prefix_append _ _).isInfix
  | condition kind source F =>
    rw [fill, Join.queries, Expr.queriesOn]
    exact (F.infix_queries_fill q).trans (List.suffix_append _ _).isInfix

theorem Select.queries_eq (s : Select) :
    s.queries =
      s.projections.flatMap Expr.queries ++ (Source.queriesFrom s.source ++
        (s.joins.flatMap Join.queries ++ (s.wheres.flatMap Expr.queries ++
          (s.groups.flatMap Expr.queries ++ s.havings.flatMap Expr.queries)))) := by
  cases s
  simp only [Select.queries, Expr.queriesOfList_eq_flatMap, Join.queriesOfList_eq_flatMap,
    List.append_assoc]

theorem Select.Frame.infix_queries_fill (q : Query) (F : Select.Frame) :
    q.all <:+: (F.fill q).queries := by
  rw [Select.queries_eq]
  -- the clause in which the query stands, and the clauses in front of it one by one
  have behind {l a : List Query} (b : List Query) (h : l <:+: a) : l <:+: a ++ b :=
    h.trans (List.prefix_append _ _).isInfix
  have past {l b : List Query} (a : List Query) (h : l <:+: b) : l <:+: a ++ b :=
    h.trans (List.suffix_append _ _).isInfix
  cases F with
  | projection s before F after =>
    exact behind _ (infix_flatMap (F.infix_queries_fill q) before after)
  | source s label => exact past _ (behind _ List.infix_rfl)
  | join s before F after =>
    exact past _ (past _ (behind _ (infix_flatMap (F.infix_queries_fill q) before after)))
  | condition s before F after =>
    exact past _ (past _ (past _ (behind _ (infix_flatMap (F.infix_queries_fill q) before after))))
  | group s before F after =>
    exact past _ (past _ (past _ (past _ (behind _
      (infix_flatMap (F.infix_queries_fill q) before after)))))
  | having s before F after =>
    exact past _ (past _ (past _ (past _ (past _
      (infix_flatMap (F.infix_queries_fill q) before after)))))

theorem Query.Frame.infix_inner_fill (t : Query) (F : Query.Frame) :
    t.all <:+: (F.fill t).inner := by
  rw [inner, Operand.queriesOfList_eq_flatMap, SortKey.queriesOfList_eq_flatMap]
  cases F with
  | first q F =>
    exact ((F.infix_queries_fill t).trans (List.prefix_append _ _).isInfix).trans
      (List.prefix_append _ _).isInfix
  | operand q before op F after =>
    have hrest := infix_flatMap (f := fun o : Operand => o.select.queries) (a := ⟨op, F.fill t⟩)
      (F.infix_queries_fill t) before after
    exact (hrest.trans (List.suffix_append _ _).isInfix).trans (List.prefix_append _ _).isInfix
  | key q before F direction nulls after =>
    have hkeys := infix_flatMap (f := fun k : SortKey => k.expr.queries)
      (a := ⟨F.fill t, direction, nulls⟩) (F.infix_queries_fill t) before after
    exact hkeys.trans (List.suffix_append _ _).isInfix

/-! ## Whatever is in a query can be left out of it -/

mutual

theorem Expr.exists_fill {t : Query} (e : Expr) (h : t ∈ e.queries) :
    ∃ (F : Expr.Frame) (q : Query), F.fill q = e ∧ t ∈ q.all := by
  cases e with
  | subquery query => exact ⟨.subquery, query, rfl, by rwa [Expr.queries] at h⟩
  | hasRows query => exact ⟨.hasRows, query, rfl, by rwa [Expr.queries] at h⟩
  | inQuery inner query negated =>
    rw [Expr.queries, List.mem_append] at h
    rcases h with h | h
    · obtain ⟨F, q, rfl, hq⟩ := inner.exists_fill h
      exact ⟨.inQueryLeft F query negated, q, rfl, hq⟩
    · exact ⟨.inQuery inner negated, query, rfl, h⟩
  | binary left op right =>
    rw [Expr.queries, List.mem_append] at h
    rcases h with h | h
    · obtain ⟨F, q, rfl, hq⟩ := left.exists_fill h
      exact ⟨.binaryLeft F op right, q, rfl, hq⟩
    · obtain ⟨F, q, rfl, hq⟩ := right.exists_fill h
      exact ⟨.binaryRight left op F, q, rfl, hq⟩
  | conj items =>
    rw [Expr.queries] at h
    obtain ⟨before, F, after, q, rfl, hq⟩ := Expr.exists_fill_of_mem items h
    exact ⟨.conj before F after, q, rfl, hq⟩
  | disj items =>
    rw [Expr.queries] at h
    obtain ⟨before, F, after, q, rfl, hq⟩ := Expr.exists_fill_of_mem items h
    exact ⟨.disj before F after, q, rfl, hq⟩
  | negation inner =>
    obtain ⟨F, q, rfl, hq⟩ := inner.exists_fill (by rwa [Expr.queries] at h)
    exact ⟨.negation F, q, rfl, hq⟩
  | isNull inner =>
    obtain ⟨F, q, rfl, hq⟩ := inner.exists_fill (by rwa [Expr.queries] at h)
    exact ⟨.isNull F, q, rfl, hq⟩
  | isNotNull inner =>
    obtain ⟨F, q, rfl, hq⟩ := inner.exists_fill (by rwa [Expr.queries] at h)
    exact ⟨.isNotNull F, q, rfl, hq⟩
  | inList inner items negated =>
    rw [Expr.queries, List.mem_append] at h
    rcases h with h | h
    · obtain ⟨F, q, rfl, hq⟩ := inner.exists_fill h
      exact ⟨.listLeft F items negated, q, rfl, hq⟩
    · obtain ⟨before, F, after, q, rfl, hq⟩ := Expr.exists_fill_of_mem items h
      exact ⟨.item inner before F after negated, q, rfl, hq⟩
  | call name args distinct =>
    rw [Expr.queries] at h
    obtain ⟨before, F, after, q, rfl, hq⟩ := Expr.exists_fill_of_mem args h
    exact ⟨.arg name before F after distinct, q, rfl, hq⟩
  | named inner name =>
    obtain ⟨F, q, rfl, hq⟩ := inner.exists_fill (by rwa [Expr.queries] at h)
    exact ⟨.named F name, q, rfl, hq⟩
  | grouping inner =>
    obtain ⟨F, q, rfl, hq⟩ := inner.exists_fill (by rwa [Expr.queries] at h)
    exact ⟨.grouping F, q, rfl, hq⟩
  | _ =>
    rw [Expr.queries] at h
    exact nomatch h

theorem Expr.exists_fill_of_mem {t : Query} (es : List Expr) (h : t ∈ Expr.queriesOfList es) :
    ∃ (before : List Expr) (F : Expr.Frame) (after : List Expr) (q : Query),
      before ++ F.fill q :: after = es ∧ t ∈ q.all := by
  cases es with
  | nil =>
    rw [Expr.queriesOfList] at h
    exact nomatch h
  | cons e rest =>
    rw [Expr.queriesOfList, List.mem_append] at h
    rcases h with h | h
    · obtain ⟨F, q, rfl, hq⟩ := e.exists_fill h
      exact ⟨[], F, rest, q, rfl, hq⟩
    · obtain ⟨before, F, after, q, rfl, hq⟩ := Expr.exists_fill_of_mem rest h
      exact ⟨e :: before, F, after, q, rfl, hq⟩

end

theorem Source.exists_eq_subquery {t : Query} {source : Source} (h : t ∈ source.queries) :
    ∃ q label, source = .subquery q label ∧ t ∈ q.all := by
  cases source with
  | subquery q label => exact ⟨q, label, rfl, by rwa [Source.queries] at h⟩
  | _ =>
    rw [Source.queries] at h
    exact nomatch h

theorem Join.exists_fill {t : Query} (j : Join) (h : t ∈ j.queries) :
    ∃ (F : Join.Frame) (q : Query), F.fill q = j ∧ t ∈ q.all := by
  obtain ⟨kind, source, on⟩ := j
  rcases List.mem_append.mp h with h | h
  · obtain ⟨q, label, rfl, hq⟩ := Source.exists_eq_subquery h
    exact ⟨.subquery kind label on, q, rfl, hq⟩
  · cases on with
    | none =>
      rw [Expr.queriesOn] at h
      exact nomatch h
    | some e =>
      rw [Expr.queriesOn] at h
      obtain ⟨F, q, rfl, hq⟩ := e.exists_fill h
      exact ⟨.condition kind source F, q, rfl, hq⟩

theorem Select.exists_fill {t : Query} (s : Select) (h : t ∈ s.queries) :
    ∃ (F : Select.Frame) (q : Query), F.fill q = s ∧ t ∈ q.all := by
  obtain ⟨quantifier, projections, source, joins, wheres, groups, havings⟩ := s
  simp only [Select.queries, List.mem_append] at h
  rcases h with ((((h | h) | h) | h) | h) | h
  · obtain ⟨before, F, after, q, rfl, hq⟩ := Expr.exists_fill_of_mem projections h
    exact ⟨.projection ⟨quantifier, [], source, joins, wheres, groups, havings⟩ before F after, q,
      rfl, hq⟩
  · cases source with
    | none =>
      rw [Source.queriesFrom] at h
      exact nomatch h
    | some source =>
      rw [Source.queriesFrom] at h
      obtain ⟨q, label, rfl, hq⟩ := Source.exists_eq_subquery h
      exact ⟨.source ⟨quantifier, projections, none, joins, wheres, groups, havings⟩ label, q, rfl,
        hq⟩
  · rw [Join.queriesOfList_eq_flatMap, List.mem_flatMap] at h
    obtain ⟨j, hj, h⟩ := h
    obtain ⟨before, after, rfl⟩ := List.append_of_mem hj
    obtain ⟨F, q, rfl, hq⟩ := j.exists_fill h
    exact ⟨.join ⟨quantifier, projections, source, [], wheres, groups, havings⟩ before F after, q,
      rfl, hq⟩
  · obtain ⟨before, F, after, q, rfl, hq⟩ := Expr.exists_fill_of_mem wheres h
    exact ⟨.condition ⟨quantifier, projections, source, joins, [], groups, havings⟩ before F after,
      q, rfl, hq⟩
  · obtain ⟨before, F, after, q, rfl, hq⟩ := Expr.exists_fill_of_mem groups h
    exact ⟨.group ⟨quantifier, projections, source, joins, wheres, [], havings⟩ before F after, q,
      rfl, hq⟩
  · obtain ⟨before, F, after, q, rfl, hq⟩ := Expr.exists_fill_of_mem havings h
    exact ⟨.having ⟨quantifier, projections, source, joins, wheres, groups, []⟩ before F after, q,
      rfl, hq⟩

namespace Query

theorem exists_fill {s t : Query} (h : t ∈ s.inner) :
    ∃ (F : Frame) (q : Query), F.fill q = s ∧ t ∈ q.all := by
  obtain ⟨first, rest, order, limit, offset, lock⟩ := s
  rw [inner, Operand.queriesOfList_eq_flatMap, SortKey.queriesOfList_eq_flatMap] at h
  simp only [List.mem_append, List.mem_flatMap] at h
  rcases h with (h | ⟨o, ho, h⟩) | ⟨k, hk, h⟩
  · obtain ⟨F, q, rfl, hq⟩ := first.exists_fill h
    exact ⟨.first ⟨.empty, rest, order, limit, offset, lock⟩ F, q, rfl, hq⟩
  · obtain ⟨before, after, rfl⟩ := List.append_of_mem ho
    obtain ⟨op, select⟩ := o
    obtain ⟨F, q, rfl, hq⟩ := select.exists_fill h
    exact ⟨.operand ⟨first, [], order, limit, offset, lock⟩ before op F after, q, rfl, hq⟩
  · obtain ⟨before, after, rfl⟩ := List.append_of_mem hk
    obtain ⟨expr, direction, nulls⟩ := k
    obtain ⟨F, q, rfl, hq⟩ := expr.exists_fill h
    exact ⟨.key ⟨first, rest, [], limit, offset, lock⟩ before F direction nulls after, q, rfl, hq⟩

theorem Context.all_subset_inner_fill (t : Query) (C : Context) : t.all ⊆ (C.fill t).inner := by
  induction C with
  | outermost F => exact (F.infix_inner_fill t).subset
  | within F C ih =>
    have hall : (C.fill t).inner ⊆ (C.fill t).all := by
      rw [all_eq (C.fill t)]
      exact List.subset_cons_self _ _
    exact List.Subset.trans (List.Subset.trans ih hall) (F.infix_inner_fill (C.fill t)).subset

/-- A query inside a query is what fills a context of it. -/
theorem exists_context {s t : Query} (h : t ∈ s.inner) : ∃ C : Context, C.fill t = s := by
  -- what fills a frame has fewer queries than what was filled
  induction hn : s.inner.length using Nat.strongRecOn generalizing s with
  | ind n ih =>
    obtain ⟨F, q, rfl, hq⟩ := exists_fill h
    rw [all_eq, List.mem_cons] at hq
    rcases hq with rfl | hq
    · exact ⟨.outermost F, rfl⟩
    · have hfewer := (F.infix_inner_fill q).length_le
      rw [all_eq, List.length_cons] at hfewer
      obtain ⟨C, rfl⟩ := ih q.inner.length (by omega) hq rfl
      exact ⟨.within F C, rfl⟩

/-- **The queries in a query are those that can be left out of it.** -/
theorem mem_inner_iff {s t : Query} : t ∈ s.inner ↔ ∃ C : Context, C.fill t = s := by
  refine ⟨exists_context, ?_⟩
  rintro ⟨C, rfl⟩
  refine C.all_subset_inner_fill t ?_
  rw [all_eq]
  exact List.mem_cons_self

end Query

end Anywhere
