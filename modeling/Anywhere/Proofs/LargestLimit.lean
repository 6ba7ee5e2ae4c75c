import Anywhere.Proofs.Payload
import Anywhere.Proofs.TopNumbers
import Anywhere.Proofs.WrittenCaps
import Anywhere.Proofs.WrittenQueries

/-!
# The largest limit

The largest number that the server accepts behind `TOP` is `Query.unboundedLimit`, and that is what
an offset without a limit gets. A limit of the query itself is passed on whatever it is, so one that
is too large gets into the text: `Query.largestLimit_iff` says that there is one in the normal form
of a tree exactly if there was one in the tree, and a number that is too large behind a `TOP` of the
text exactly if there was one in a query that is written.

For the text the induction goes through the tree along the fragments of its parts: the numbers that
are found in the fragments of a part are the limits of the queries that are written for it, one by
one.
-/

namespace Anywhere

open Sql

/-- The limits of the queries that have one. -/
def Query.limits (queries : List Query) : List Nat :=
  queries.filterMap fun t => t.limit.map UInt64.toNat

namespace Query

@[simp] theorem limits_append (queries others : List Query) :
    limits (queries ++ others) = limits queries ++ limits others :=
  List.filterMap_append

theorem limits_cons (q : Query) (queries : List Query) :
    limits (q :: queries) = (q.limit.map UInt64.toNat).toList ++ limits queries := by
  rw [limits, List.filterMap_cons]
  cases q.limit <;> rfl

theorem limits_flatMap (xs : List α) (f : α → List Query) :
    limits (xs.flatMap f) = xs.flatMap fun x => limits (f x) :=
  List.filterMap_flatMap

theorem limits_writtenOfList (es : List Expr) :
    limits (Expr.writtenOfList es) = es.flatMap fun e => limits e.written := by
  rw [Expr.writtenOfList_eq_flatMap, limits_flatMap]

end Query

open Query (limits)

/-! ## Fragments and their limits -/

namespace Fragments

/-- These limits are found in the text. -/
def Limits (fs : Fragments) (ns : List Nat) : Prop := Tops fs.sql.toList ns

/-- They are found in it behind anything else, too: no string or word goes on with the text. -/
structure LimitsBehind (fs : Fragments) (ns : List Nat) : Prop where
  found : Limits fs ns
  bounded : Bounded fs.sql.toList

namespace Limits

variable {a b fs : Fragments} {ns ms : List Nat} {sql : String}

theorem nil : Limits [] [] := Tops.nil

theorem append (ha : Limits a ns) (hb : LimitsBehind b ms) : Limits (a ++ b) (ns ++ ms) := by
  rw [Limits, sql_append, String.toList_append]
  exact Tops.append ha hb.found hb.bounded

theorem lead (h : LeadsTops sql.toList ns) (hfs : Limits fs ms) :
    Limits (.text sql :: fs) (ns ++ ms) := by
  rw [Limits, sql_cons, Fragment.sql_text, String.toList_append]
  exact .lead h hfs

/-- Keywords behind which anything can follow. -/
theorem front (h : Front sql) (hfs : Limits fs ns) : Limits (.text sql :: fs) ns := lead h.leads hfs

theorem text (h : Tops sql.toList ns) : Limits [.text sql] ns := by
  rwa [Limits, sql_cons, sql_nil, String.append_empty]

theorem topless (h : Topless sql.toList) : Limits [.text sql] [] := text h.tops

theorem value (v : Value) : Limits (ofValue v) [] := Tops.value v

theorem place (p : Parameter) : Limits [.place p] [] := Tops.place p

end Limits

namespace LimitsBehind

variable {a b fs : Fragments} {ns ms : List Nat} {sql : String}

theorem nil : LimitsBehind [] [] := ⟨Tops.nil, nofun⟩

theorem append (ha : LimitsBehind a ns) (hb : LimitsBehind b ms) :
    LimitsBehind (a ++ b) (ns ++ ms) := by
  refine ⟨ha.found.append hb, ?_⟩
  rw [sql_append, String.toList_append]
  exact ha.bounded.append hb.bounded

theorem divider (h : Divider sql) (hfs : Limits fs ns) : LimitsBehind (.text sql :: fs) ns := by
  refine ⟨.front h.toFront hfs, ?_⟩
  rw [sql_cons, Fragment.sql_text, String.toList_append]
  exact h.bounded.followed h.nonempty _

theorem topless (h : Topless sql.toList) (hbounded : Bounded sql.toList) :
    LimitsBehind [.text sql] [] := by
  refine ⟨.topless h, ?_⟩
  rwa [sql_cons, sql_nil, String.append_empty]

/-- A name behind a divider. -/
theorem name (h : Divider sql) (name : String) :
    LimitsBehind [.text (sql ++ Name.quoted name)] [] := by
  have htext : (Fragments.sql [.text (sql ++ Name.quoted name)]).toList =
      sql.toList ++ (Name.quoted name).toList := by simp
  refine ⟨?_, ?_⟩
  · rw [Limits, htext]
    exact .lead h.leads (.name name)
  · rw [htext]
    exact h.bounded.followed h.nonempty _

theorem parenthesized (h : Limits fs ns) : LimitsBehind (parenthesized fs) ns := by
  have htext : (sql (Fragments.parenthesized fs)).toList = '(' :: (sql fs).toList ++ [')'] := by
    simp
  refine ⟨?_, ?_⟩
  · rw [Limits, htext]
    exact (Tops.parenthesized h).tops
  · rw [htext]
    intro c hc
    cases hc
    decide

theorem membership (negated : Bool) (h : Limits fs ns) :
    LimitsBehind (membership negated :: fs) ns := by
  cases negated with
  | false => exact divider (by decide) h
  | true => exact divider (by decide) h

end LimitsBehind

namespace Limits

variable {fs : Fragments} {ns : List Nat} {sql : String}

/-- Keywords behind something else. -/
theorem followedBy (h : Limits fs ns) (htopless : Topless sql.toList)
    (hbounded : Bounded sql.toList) : Limits (fs ++ [.text sql]) ns := by
  have hlimits := h.append (.topless htopless hbounded)
  rwa [List.append_nil] at hlimits

theorem parenthesized (h : Limits fs ns) : Limits (parenthesized fs) ns :=
  (LimitsBehind.parenthesized h).found

theorem joinWith {separator : String} (hseparator : Divider separator) {xs : List α}
    {f : α → Fragments} {g : α → List Nat} (h : ∀ x ∈ xs, Limits (f x) (g x)) :
    Limits (joinWith separator (xs.map f)) (xs.flatMap g) := by
  induction xs with
  | nil => exact nil
  | cons x xs ih =>
    have hx := h x List.mem_cons_self
    have hrest := ih fun y hy => h y (List.mem_cons_of_mem x hy)
    cases xs with
    | nil => simpa [Fragments.joinWith] using hx
    | cons y xs => exact hx.append (.divider hseparator hrest)

theorem isolate (e : Expr) (h : Limits fs ns) : Limits (isolate e fs) ns := by
  unfold Fragments.isolate
  split
  · exact h.parenthesized
  · exact h

variable {es : List Expr}

theorem listed {separator : String} (hseparator : Divider separator)
    (h : ∀ e ∈ es, e.fragments.Limits (limits e.written)) :
    Limits (Fragments.joinWith separator (Expr.fragmentsOfList es))
      (limits (Expr.writtenOfList es)) := by
  rw [Expr.fragmentsOfList_eq_map, Query.limits_writtenOfList]
  exact joinWith hseparator h

theorem conjunction (h : ∀ e ∈ es, e.fragments.Limits (limits e.written)) :
    Limits (conjunction es (Expr.fragmentsOfList es)) (limits (Expr.writtenOfList es)) := by
  rw [conjunction_fragmentsOfList, Query.limits_writtenOfList]
  refine joinWith (by decide) fun e he => ?_
  split
  · exact (h e he).isolate e
  · exact h e he

theorem columns (h : ∀ e ∈ es, e.fragments.Limits (limits e.written)) :
    Limits (columns (Expr.fragmentsOfList es)) (limits (Expr.writtenOfList es)) := by
  cases es with
  | nil => exact topless (by decide)
  | cons e es => exact listed (by decide) h

end Limits

namespace LimitsBehind

theorem clause {keyword : String} (hkeyword : Divider keyword) {xs : List α} {f : α → Fragments}
    {g : α → List Nat} (h : ∀ x ∈ xs, Limits (f x) (g x)) :
    LimitsBehind (clause keyword (xs.map f)) (xs.flatMap g) := by
  cases xs with
  | nil => exact nil
  | cons x xs => exact divider hkeyword (.joinWith (by decide) h)

theorem conjunctionClause {keyword : String} (hkeyword : Divider keyword) {es : List Expr}
    (h : ∀ e ∈ es, e.fragments.Limits (limits e.written)) :
    LimitsBehind (conjunctionClause keyword es (Expr.fragmentsOfList es))
      (limits (Expr.writtenOfList es)) := by
  cases es with
  | nil => exact nil
  | cons e es => exact divider hkeyword (.conjunction h)

end LimitsBehind

end Fragments

/-! ## Every part of a tree shows its limits -/

/-- The text that the query hands on as it is has neither quotes nor parentheses and does not say
`TOP`. -/
def Query.HandsOnCapFree (q : Query) : Prop := ∀ text ∈ q.verbatim, CapFree text.toList

instance (q : Query) : Decidable q.HandsOnCapFree := List.decidableBAll _ q.verbatim

/-- The texts are free of row caps, and so are those that the queries hand on. -/
structure AllCapFree (texts : List String) (queries : List Query) : Prop where
  texts : ∀ text ∈ texts, CapFree text.toList
  queries : ∀ t ∈ queries, t.HandsOnCapFree

theorem AllCapFree.append_iff {texts more : List String} {queries others : List Query} :
    AllCapFree (texts ++ more) (queries ++ others) ↔
      AllCapFree texts queries ∧ AllCapFree more others := by
  constructor
  · rintro ⟨hfree, hqueries⟩
    rw [List.forall_mem_append] at hfree hqueries
    exact ⟨⟨hfree.1, hqueries.1⟩, hfree.2, hqueries.2⟩
  · rintro ⟨⟨hfree, hqueries⟩, hfree', hqueries'⟩
    exact ⟨List.forall_mem_append.mpr ⟨hfree, hfree'⟩,
      List.forall_mem_append.mpr ⟨hqueries, hqueries'⟩⟩

/-! The texts of clauses that depend on what a query says. -/

theorem Query.tops_cap (limit offset : Option UInt64) :
    Tops (Query.cap limit offset).toList (limit.map UInt64.toNat).toList ∧
      Bounded (Query.cap limit offset).toList := by
  have hstart : Front " START AT " := by decide
  have hlimit : ∀ limit : Option UInt64, Tops (Query.cap limit none).toList
      (limit.map UInt64.toNat).toList ∧ Bounded (Query.cap limit none).toList := by
    rintro (_ | n)
    · exact ⟨.nil, nofun⟩
    · refine ⟨?_, ?_⟩
      · simpa [Query.cap] using Tops.top n.toNat
      · simp [Query.cap, Bounded]
        decide
  have hoffset : Tops (Query.cap none offset).toList [] ∧
      Bounded (Query.cap none offset).toList := by
    cases offset with
    | none => exact ⟨.nil, nofun⟩
    | some m =>
      have htext : (Query.cap none (some m)).toList =
          " START AT ".toList ++ (Number.ofNat (m + 1).toNat).toList := by simp [Query.cap]
      rw [htext]
      refine ⟨hstart.number _, ?_⟩
      simp [Bounded]
      decide
  have hboth : (Query.cap limit offset).toList =
      (Query.cap limit none).toList ++ (Query.cap none offset).toList := by
    simp [Query.cap]
  rw [hboth]
  have hall := (hlimit limit).1.append hoffset.1 hoffset.2
  rw [List.append_nil] at hall
  exact ⟨hall, (hlimit limit).2.append hoffset.2⟩

theorem Quantifier.topless_clause (quantifier : Option Quantifier) :
    Topless (Quantifier.clause quantifier).toList ∧
      Bounded (Quantifier.clause quantifier).toList := by
  unfold Quantifier.clause
  split <;> decide

theorem SortKey.topless_suffix (direction : Direction) (nulls : Option NullPlacement) :
    Topless (SortKey.suffix direction nulls).toList ∧
      Bounded (SortKey.suffix direction nulls).toList := by
  cases direction <;> rcases nulls with _ | _ | _ <;> decide

theorem Lock.topless_suffix {lock : Option Lock}
    (h : ∀ text ∈ lock.toList.flatMap Lock.verbatim, CapFree text.toList) :
    Topless (Lock.suffix lock).toList ∧ Bounded (Lock.suffix lock).toList := by
  rcases lock with _ | _ | text
  · decide
  · decide
  · have htext : CapFree (Text.trim text).toList := (h text List.mem_cons_self).trim
    rw [Lock.suffix, String.toList_append]
    exact htext.2.behindBlank

mutual

/-- **The limits of the written queries are found in an expression.** -/
theorem Expr.limits_fragments (e : Expr) (h : AllCapFree e.verbatim e.written) :
    e.fragments.Limits (limits e.written) := by
  -- what is behind a subexpression begins with a blank or a parenthesis, and so does not go on with
  -- a limit at its end
  cases e with
  | star => exact .topless (by decide)
  | tableStar table =>
    have hall : Topless ".*".toList := by decide
    have htext := (Tops.path table).append hall.tops (by decide)
    rw [← String.toList_append] at htext
    exact .text htext
  | column table name =>
    obtain ⟨gs, -, hspells, hgs⟩ := spells_column table name
    exact .qualified hspells hgs
  | literal value =>
    rw [Expr.fragments]
    exact .value value
  | bind name value => exact .place _
  | always => exact .topless (by decide)
  | never => exact .topless (by decide)
  | raw sql => exact .topless (h.texts sql List.mem_cons_self).2
  | binary left op right =>
    rw [Expr.verbatim_binary, Expr.written, AllCapFree.append_iff] at h
    have hop : Divider (" " ++ op.symbol ++ " ") := by cases op <;> decide
    rw [Expr.fragments, Expr.written, Query.limits_append]
    exact (left.limits_fragments h.1).append (.divider hop (right.limits_fragments h.2))
  | conj items =>
    rw [Expr.verbatim_conj, Expr.written] at h
    rw [Expr.fragments, Expr.written]
    exact .conjunction (Expr.limits_fragmentsOfList items h)
  | disj items =>
    rw [Expr.verbatim_disj, Expr.written] at h
    rw [Expr.fragments, Expr.written]
    exact .parenthesized (.listed (by decide) (Expr.limits_fragmentsOfList items h))
  | negation inner =>
    rw [Expr.fragments, Expr.written]
    exact .front (by decide) (inner.limits_fragments h).parenthesized
  | isNull inner =>
    rw [Expr.fragments, Expr.written]
    exact (inner.limits_fragments h).followedBy (by decide) (by decide)
  | isNotNull inner =>
    rw [Expr.fragments, Expr.written]
    exact (inner.limits_fragments h).followedBy (by decide) (by decide)
  | inList inner items negated =>
    cases items with
    | nil => exact .topless (by cases negated <;> decide)
    | cons item rest =>
      have hwritten : (Expr.inList inner (item :: rest) negated).written =
          inner.written ++ Expr.writtenOfList (item :: rest) := by
        rw [Expr.written, Expr.writtenOfList, List.append_assoc]
      rw [Expr.verbatim_inList, hwritten, AllCapFree.append_iff] at h
      have hcomma : Divider ", " := by decide
      have hitems := Fragments.Limits.listed hcomma
        (Expr.limits_fragmentsOfList (item :: rest) h.2)
      rw [Expr.fragments, hwritten, Query.limits_append]
      exact (inner.limits_fragments h.1).append (.membership negated hitems.parenthesized)
  | inQuery inner query negated =>
    have hparts : AllCapFree (inner.verbatim ++ []) (inner.written ++ query.written) := by
      rw [List.append_nil]
      exact h
    rw [AllCapFree.append_iff] at hparts
    have hquery := query.limits_fragments hparts.2.queries
    rw [Expr.fragments, Expr.written, Query.limits_append]
    exact (inner.limits_fragments hparts.1).append (.membership negated hquery.parenthesized)
  | hasRows query =>
    rw [Expr.fragments, Expr.written]
    exact .front (by decide) (query.limits_fragments h.queries).parenthesized
  | subquery query =>
    rw [Expr.fragments, Expr.written]
    exact (query.limits_fragments h.queries).parenthesized
  | call name args distinct =>
    rw [Expr.verbatim_call, Expr.written] at h
    have hname : CapFree (Text.uppercase name).toList :=
      .uppercase (h.texts name List.mem_cons_self)
    have hcomma : Divider ", " := by decide
    have hargs := Fragments.Limits.listed hcomma
      (Expr.limits_fragmentsOfList args
        ⟨fun text htext => h.texts text (List.mem_cons_of_mem name htext), h.queries⟩)
    have hinside : Fragments.Limits ((if distinct then [.text "DISTINCT "] else []) ++
        Fragments.joinWith ", " (Expr.fragmentsOfList args))
        (limits (Expr.writtenOfList args)) := by
      cases distinct with
      | false => exact hargs
      | true => exact .front (by decide) hargs
    rw [Expr.fragments, Expr.written]
    exact (Fragments.Limits.topless hname.2).append (.parenthesized hinside)
  | named inner name =>
    have hkeyword : Divider " AS " := by decide
    have hnamed := (inner.limits_fragments h).append (.name hkeyword name)
    rw [List.append_nil] at hnamed
    rw [Expr.fragments, Expr.written]
    exact hnamed
  | grouping inner =>
    rw [Expr.fragments, Expr.written]
    exact (inner.limits_fragments h).parenthesized

theorem Expr.limits_fragmentsOfList (es : List Expr)
    (h : AllCapFree (es.flatMap Expr.verbatim) (Expr.writtenOfList es)) :
    ∀ e ∈ es, e.fragments.Limits (limits e.written) := by
  cases es with
  | nil => exact nofun
  | cons e rest =>
    rw [List.flatMap_cons, Expr.writtenOfList, AllCapFree.append_iff] at h
    exact List.forall_mem_cons.mpr ⟨e.limits_fragments h.1, Expr.limits_fragmentsOfList rest h.2⟩

/-- **The limits of the written queries are found in a query**, its own in front of the others. -/
theorem Query.limits_fragments (q : Query) (h : ∀ t ∈ q.written, t.HandsOnCapFree) :
    q.fragments.Limits (limits q.written) := by
  obtain ⟨first, rest, order, limit, offset, lock⟩ := q
  rw [Query.written, List.cons_append, List.cons_append, List.forall_mem_cons,
    List.forall_mem_append, List.forall_mem_append] at h
  obtain ⟨hq, ⟨hfirst, hrest⟩, horder⟩ := h
  simp only [Query.HandsOnCapFree, Query.verbatim, Query.selects, List.flatMap_cons, List.flatMap_map,
    List.forall_mem_append] at hq
  obtain ⟨⟨⟨hfirst', hrest'⟩, horder'⟩, hlock⟩ := hq
  obtain ⟨hcap, hbounded⟩ := Query.tops_cap limit offset
  obtain ⟨hsuffix, hsuffixBounded⟩ := Lock.topless_suffix hlock
  have hselect := first.limits_fragments _ hcap hbounded ⟨hfirst', hfirst⟩
  have hoperands := Operand.limits_fragmentsOfList rest ⟨hrest', hrest⟩
  have hkeys := SortKey.limits_fragmentsOfList order ⟨horder', horder⟩
  have hclause : Fragments.LimitsBehind (Fragments.clause " ORDER BY " (order.map _)) _ :=
    .clause (by decide) hkeys
  rw [Query.fragments, Query.written, SortKey.fragmentsOfList_eq_map, List.cons_append,
    List.cons_append, Query.limits_cons, Query.limits_append, Query.limits_append,
    SortKey.writtenOfList_eq_flatMap, Query.limits_flatMap, ← List.append_assoc,
    ← List.append_assoc]
  exact ((hselect.append hoperands).append hclause).followedBy hsuffix hsuffixBounded

theorem Select.limits_fragments (s : Select) (cap : String) {ns : List Nat}
    (hcap : Tops cap.toList ns) (hbounded : Bounded cap.toList)
    (h : AllCapFree s.verbatim s.written) :
    (s.fragments cap).Limits (ns ++ limits s.written) := by
  obtain ⟨quantifier, projections, source, joins, wheres, groups, havings⟩ := s
  simp only [Select.verbatim, Select.written, AllCapFree.append_iff] at h
  obtain ⟨⟨⟨⟨⟨hprojections, hsource⟩, hjoins⟩, hwheres⟩, hgroups⟩, hhavings⟩ := h
  obtain ⟨hclause, hclauseBounded⟩ := Quantifier.topless_clause quantifier
  have hselect : Topless "SELECT".toList := by decide
  have hhead : LeadsTops ("SELECT" ++ Quantifier.clause quantifier ++ cap ++ " ").toList ns := by
    have htops := ((hselect.tops.append hclause.tops hclauseBounded).append hcap hbounded).blank
    rw [List.nil_append, List.nil_append] at htops
    rw [String.toList_append, String.toList_append, String.toList_append]
    exact htops
  have hcolumns := Fragments.Limits.columns (Expr.limits_fragmentsOfList projections hprojections)
  have hfrom := Source.limits_fragmentsFrom source hsource
  have hjoined := Join.limits_fragmentsOfList joins hjoins
  have hwhere : Fragments.LimitsBehind
      (Fragments.conjunctionClause " WHERE " wheres (Expr.fragmentsOfList wheres)) _ :=
    .conjunctionClause (by decide) (Expr.limits_fragmentsOfList wheres hwheres)
  have hgroup : Fragments.LimitsBehind
      (Fragments.clause " GROUP BY " (groups.map Expr.fragments)) _ :=
    .clause (by decide) (Expr.limits_fragmentsOfList groups hgroups)
  have hhaving : Fragments.LimitsBehind
      (Fragments.conjunctionClause " HAVING " havings (Expr.fragmentsOfList havings)) _ :=
    .conjunctionClause (by decide) (Expr.limits_fragmentsOfList havings hhavings)
  rw [Select.fragments, Select.written]
  simp only [Query.limits_append, List.cons_append]
  rw [Expr.fragmentsOfList_eq_map groups, Query.limits_writtenOfList groups]
  exact .lead hhead (((((hcolumns.append hfrom).append hjoined).append hwhere).append
    hgroup).append hhaving)

theorem Operand.limits_fragmentsOfList (os : List Operand)
    (h : AllCapFree (os.flatMap (·.select.verbatim)) (Operand.writtenOfList os)) :
    (Operand.fragmentsOfList os).LimitsBehind (limits (Operand.writtenOfList os)) := by
  cases os with
  | nil => exact .nil
  | cons o rest =>
    obtain ⟨op, select⟩ := o
    rw [List.flatMap_cons, Operand.writtenOfList, AllCapFree.append_iff] at h
    have hselect := select.limits_fragments "" .nil nofun h.1
    have hrest := Operand.limits_fragmentsOfList rest h.2
    have hop : Divider (" " ++ op.symbol ++ " ") := by cases op <;> decide
    rw [Operand.fragmentsOfList, Operand.writtenOfList, Query.limits_append]
    exact .divider hop (hselect.append hrest)

theorem SortKey.limits_fragmentsOfList (ks : List SortKey)
    (h : AllCapFree (ks.flatMap (·.expr.verbatim)) (SortKey.writtenOfList ks)) :
    ∀ k ∈ ks, Fragments.Limits
      (k.expr.fragments ++ [.text (SortKey.suffix k.direction k.nulls)])
      (limits k.expr.written) := by
  cases ks with
  | nil => exact nofun
  | cons k rest =>
    obtain ⟨expr, direction, nulls⟩ := k
    rw [List.flatMap_cons, SortKey.writtenOfList, AllCapFree.append_iff] at h
    obtain ⟨hsuffix, hbounded⟩ := SortKey.topless_suffix direction nulls
    exact List.forall_mem_cons.mpr
      ⟨(expr.limits_fragments h.1).followedBy hsuffix hbounded,
        SortKey.limits_fragmentsOfList rest h.2⟩

theorem Source.limits_fragments (s : Source) (h : AllCapFree s.verbatim s.written) :
    s.fragments.Limits (limits s.written) := by
  have hblank : Divider " " := by decide
  cases s with
  | table name label =>
    cases label with
    | none => exact .text (.path name)
    | some label =>
      have htext := (Tops.path name).append (.lead hblank.leads (.name label))
        (hblank.bounded.followed hblank.nonempty _)
      simp only [← String.toList_append, ← String.append_assoc] at htext
      exact .text htext
  | subquery query label =>
    have hquery := (query.limits_fragments h.queries).parenthesized
    have hlabelled := hquery.append (.name hblank label)
    rw [List.append_nil] at hlabelled
    rw [Source.fragments, Source.written]
    exact hlabelled
  | raw sql => exact .topless (h.texts sql List.mem_cons_self).2

theorem Source.limits_fragmentsFrom (s : Option Source)
    (h : AllCapFree (s.toList.flatMap Source.verbatim) (Source.writtenFrom s)) :
    (Source.fragmentsFrom s).LimitsBehind (limits (Source.writtenFrom s)) := by
  cases s with
  | none => exact .nil
  | some source =>
    rw [Option.toList_some, List.flatMap_cons, List.flatMap_nil, List.append_nil,
      Source.writtenFrom] at h
    exact .divider (by decide) (source.limits_fragments h)

theorem Join.limits_fragmentsOfList (js : List Join)
    (h : AllCapFree (js.flatMap Join.verbatim) (Join.writtenOfList js)) :
    (Join.fragmentsOfList js).LimitsBehind (limits (Join.writtenOfList js)) := by
  cases js with
  | nil => exact .nil
  | cons j rest =>
    obtain ⟨kind, source, on⟩ := j
    rw [List.flatMap_cons, Join.verbatim, Join.writtenOfList, AllCapFree.append_iff,
      AllCapFree.append_iff] at h
    obtain ⟨⟨hsource, hon⟩, hrest⟩ := h
    have hcondition := Expr.limits_fragmentsOn on hon
    have hjoined := Join.limits_fragmentsOfList rest hrest
    have hkind : Divider (" " ++ kind.symbol ++ " ") := by cases kind <;> decide
    rw [Join.fragmentsOfList, Join.writtenOfList, Query.limits_append, Query.limits_append]
    exact .divider hkind
      (((source.limits_fragments hsource).append hcondition).append hjoined)

theorem Expr.limits_fragmentsOn (on : Option Expr)
    (h : AllCapFree (on.toList.flatMap Expr.verbatim) (Expr.writtenOn on)) :
    (Expr.fragmentsOn on).LimitsBehind (limits (Expr.writtenOn on)) := by
  cases on with
  | none => exact .nil
  | some e =>
    rw [Option.toList_some, List.flatMap_cons, List.flatMap_nil, List.append_nil,
      Expr.writtenOn] at h
    exact .divider (by decide) (e.limits_fragments h)

end

/-! ## The limits of a normal form -/

namespace Query

/-- What is behind a marker has no word that was not there before. -/
theorem survives_capFree : Survives CapFree := by
  refine ⟨fun {sql rest} hrest h => ?_, by decide⟩
  refine h.of_subset (Marker.mem_of_mem_rest? hrest) fun l hl => ?_
  unfold Marker.rest? at hrest
  dsimp only at hrest
  split at hrest
  · split at hrest
    · cases hrest
      exact absurd hl List.not_mem_nil
    · next c tail hdrop =>
      split at hrest
      · next hc =>
        cases hrest
        -- the marker ends at the character behind it, which belongs to no word
        have hbehind : Detached (((Text.dropBlanks sql).drop Marker.word.length).map .char) := by
          intro d hd
          rw [hdrop] at hd
          cases hd
          rcases Bool.or_eq_true_iff.mp hc with hblank | hparenthesis
          · exact isWordChar_of_isBlank hblank
          · rw [eq_of_beq hparenthesis]
            decide
        rw [lexFrom_dropBlanks] at hl
        rw [← lexFrom_dropBlanks, ← List.take_append_drop Marker.word.length (Text.dropBlanks sql),
          List.map_append, lexFrom_append hbehind]
        exact List.mem_append_right _ hl
      · cases hrest
  · cases hrest

theorem handsOnCapFree_written_normalize {q : Query} (h : ∀ t ∈ q.written, t.HandsOnCapFree) :
    ∀ t ∈ q.normalize.written, t.HandsOnCapFree := by
  rw [written_normalize, List.forall_mem_map]
  exact fun t ht => survives_capFree.normalize (h t ht)

/-- The server accepts the limit of the query, if it has one. -/
def WithinLimit (q : Query) : Prop := ∀ n ∈ q.limit, n ≤ unboundedLimit

instance (q : Query) : Decidable q.WithinLimit := Option.decidableForallMem q.limit

theorem withinLimit_normalize (q : Query) : q.normalize.WithinLimit ↔ q.WithinLimit := by
  rw [WithinLimit, WithinLimit, limit_normalize]
  cases hlimit : q.limit with
  | none =>
    -- a limit that is added is the largest one
    cases q.offset <;> simp
  | some n =>
    by_cases hn : n = 0
    · simp [hn]
    · simp [hn]

theorem forall_limits_le_iff (queries : List Query) :
    (∀ n ∈ limits queries, n ≤ unboundedLimit.toNat) ↔ ∀ t ∈ queries, t.WithinLimit := by
  simp only [limits, List.mem_filterMap, Option.map_eq_some_iff, WithinLimit, Option.mem_def,
    UInt64.le_iff_toNat_le]
  constructor
  · intro h t ht n hn
    exact h n.toNat ⟨t, ht, n, hn, rfl⟩
  · rintro h m ⟨t, ht, n, hn, rfl⟩
    exact h t ht n hn

/-- **The server accepts all limits exactly if it would have accepted those of the tree.** No rule
makes a limit smaller. The numbers behind `TOP` in the text are the limits of the written queries
behind the rules, one by one, and so there is one that is too large exactly if a written query had
one that is. -/
theorem largestLimit_iff (q : Query) :
    ((∀ t ∈ q.normalize.all, t.WithinLimit) ↔ ∀ t ∈ q.all, t.WithinLimit) ∧
    ((∀ t ∈ q.written, t.HandsOnCapFree) →
      ∃ gs, groups? q.toSql = some gs ∧ Group.topsOfList gs = limits q.normalize.written ∧
        ((∀ n ∈ Group.topsOfList gs, n ≤ unboundedLimit.toNat) ↔
          ∀ t ∈ q.written, t.WithinLimit)) := by
  refine ⟨?_, fun h => ?_⟩
  · rw [all_normalize, List.forall_mem_map]
    exact forall₂_congr fun t _ => t.withinLimit_normalize
  · have hlimits := q.normalize.limits_fragments (handsOnCapFree_written_normalize h)
    obtain ⟨gs, hspells, htops, -⟩ := hlimits
    refine ⟨gs, ?_, htops, ?_⟩
    · rw [toSql_eq_fragments]
      exact hspells.groups?
    · rw [htops, forall_limits_le_iff, written_normalize, List.forall_mem_map]
      exact forall₂_congr fun t _ => t.withinLimit_normalize

/-- The dearest articles of ten orders, but for those of some customers. -/
def dearest : Query :=
  { Query.ofSelect { Select.empty with
      projections := [.call "max" [.column (some "o") "price"] false]
      source := some (.subquery { Query.ofTable "orders" with limit := some 10 } "o")
      wheres := [.inQuery (.column (some "o") "customer")
        { Query.ofTable "customers" with offset := some 5 } true] }
    with limit := some 3 }

/-- The offset brings a limit of its own. -/
theorem largestLimit_iff_dearest :
    (∀ t ∈ dearest.written, t.HandsOnCapFree) ∧
    ∃ gs, groups? dearest.toSql = some gs ∧ Group.topsOfList gs = [3, 10, 2147483647] ∧
      ∀ n ∈ Group.topsOfList gs, n ≤ unboundedLimit.toNat := by
  have hfree : ∀ t ∈ dearest.written, t.HandsOnCapFree := by decide +kernel
  obtain ⟨gs, hgroups, htops, hiff⟩ := dearest.largestLimit_iff.2 hfree
  exact ⟨hfree, gs, hgroups, htops.trans (by decide +kernel), hiff.mpr (by decide +kernel)⟩

/-- All rows of a table, for someone who takes the limit for large enough. -/
def endless : Query := (ofTable "t").take 2147483648

/-- A limit that is one too large is passed on as it is. -/
theorem not_withinLimit_normalize_endless :
    ¬ (∀ t ∈ endless.normalize.all, t.WithinLimit) ∧
      endless.toSql = "SELECT TOP 2147483648 * FROM \"t\" ORDER BY 1" := by
  decide +kernel

end Query

end Anywhere
