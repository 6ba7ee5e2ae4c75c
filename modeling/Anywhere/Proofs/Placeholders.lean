import Anywhere.Sql.Writer

/-!
# Places and parameters belong together

A query is written by a mutual recursion that hands a list of parameters along, and the server binds
the i-th of them to the i-th place in the text. This file shows that the two never come apart. The
way there is to compare writing with the walk that yields fragments, in which a place and its
parameter are one thing: `Writes` says that something yields a text and does nothing with the
parameters collected before but add to them, and it is kept by doing one thing after another.

The places of the walk are found by a second, plain look at the tree: the nodes that are rendered,
in order, and among them those that are sent.
-/

namespace Anywhere

/-! ## The two views of fragments -/

namespace Fragment

@[simp] theorem sql_text (s : String) : sql (text s) = s := rfl

@[simp] theorem sql_place (p : Parameter) : sql (place p) = placeholder := rfl

@[simp] theorem sql_membership (negated : Bool) :
    sql (Fragments.membership negated) = Writer.membership negated := by
  cases negated <;> rfl

end Fragment

namespace Fragments

@[simp] theorem parameters_membership (negated : Bool) (fs : Fragments) :
    parameters (membership negated :: fs) = parameters fs := rfl

@[simp] theorem sql_nil : sql [] = "" := rfl

@[simp] theorem sql_cons (f : Fragment) (fs : Fragments) : sql (f :: fs) = f.sql ++ sql fs := by
  simp [sql, String.join_cons]

@[simp] theorem sql_append (a b : Fragments) : sql (a ++ b) = sql a ++ sql b := by
  induction a with
  | nil => simp
  | cons f fs ih => rw [List.cons_append, sql_cons, sql_cons, ih, String.append_assoc]

@[simp] theorem sql_parenthesized (fs : Fragments) :
    sql (parenthesized fs) = "(" ++ sql fs ++ ")" := by
  simp [parenthesized, String.append_assoc]

@[simp] theorem sql_joinWith (separator : String) (fss : List Fragments) :
    sql (joinWith separator fss) = String.intercalate separator (fss.map sql) := by
  induction fss with
  | nil => rfl
  | cons fs rest ih =>
    cases rest with
    | nil => simp [joinWith]
    | cons fs' rest =>
      rw [joinWith, sql_append, sql_cons, ih]
      · simp [String.append_assoc]
      · simp

@[simp] theorem parameters_joinWith (separator : String) (fss : List Fragments) :
    parameters (joinWith separator fss) = fss.flatMap parameters := by
  induction fss with
  | nil => rfl
  | cons fs rest ih =>
    cases rest with
    | nil => simp [joinWith]
    | cons fs' rest =>
      rw [joinWith, parameters_append, parameters_text, ih, ← List.flatMap_cons]
      simp

@[simp] theorem sql_isolate (e : Expr) (fs : Fragments) :
    sql (isolate e fs) = Writer.isolate e (sql fs) := by
  cases e <;> simp [isolate, Writer.isolate]

@[simp] theorem parameters_isolate (e : Expr) (fs : Fragments) :
    parameters (isolate e fs) = parameters fs := by
  cases e <;> simp [isolate]

@[simp] theorem sql_conjunction (items : List Expr) (fss : List Fragments) :
    sql (conjunction items fss) = Writer.conjunction items (fss.map sql) := by
  unfold conjunction Writer.conjunction
  rw [sql_joinWith]
  split
  · simp [List.map_zipWith, List.zipWith_map_right]
  · rfl

/-- Each predicate of a conjunction is isolated on its own, if there are others. -/
theorem conjunction_fragmentsOfList (items : List Expr) :
    conjunction items (Expr.fragmentsOfList items) =
      joinWith " AND " (items.map fun e =>
        if 1 < items.length then isolate e e.fragments else e.fragments) := by
  rw [conjunction, Expr.fragmentsOfList_eq_map]
  by_cases hmany : 1 < items.length
  · simp only [if_pos hmany, List.zipWith_map_right, List.zipWith_self]
  · simp only [if_neg hmany]

/-- Parentheses around raw SQL have no parameters. -/
@[simp] theorem parameters_conjunction (items : List Expr) :
    parameters (conjunction items (Expr.fragmentsOfList items)) =
      (Expr.fragmentsOfList items).flatMap parameters := by
  unfold conjunction
  rw [parameters_joinWith, Expr.fragmentsOfList_eq_map]
  split
  · simp [List.zipWith_map_right, List.zipWith_self, List.flatMap_map]
  · rfl

@[simp] theorem sql_clause (keyword : String) (fss : List Fragments) :
    sql (clause keyword fss) =
      Writer.clause keyword (fss.map sql) (String.intercalate ", " (fss.map sql)) := by
  cases fss <;> simp [clause, Writer.clause]

@[simp] theorem parameters_clause (keyword : String) (fss : List Fragments) :
    parameters (clause keyword fss) = fss.flatMap parameters := by
  cases fss <;> simp [clause]

@[simp] theorem sql_columns (fss : List Fragments) :
    sql (columns fss) =
      if (fss.map sql).isEmpty then "*" else String.intercalate ", " (fss.map sql) := by
  cases fss <;> simp [columns]

@[simp] theorem parameters_columns (fss : List Fragments) :
    parameters (columns fss) = fss.flatMap parameters := by
  cases fss <;> simp [columns]

@[simp] theorem sql_conjunctionClause (keyword : String) (items : List Expr)
    (fss : List Fragments) :
    sql (conjunctionClause keyword items fss) =
      Writer.clause keyword (fss.map sql) (Writer.conjunction items (fss.map sql)) := by
  cases fss <;> simp [conjunctionClause, Writer.clause]

@[simp] theorem parameters_conjunctionClause (keyword : String) (items : List Expr) :
    parameters (conjunctionClause keyword items (Expr.fragmentsOfList items)) =
      (Expr.fragmentsOfList items).flatMap parameters := by
  unfold conjunctionClause
  split
  · simp_all
  · rw [parameters_text, parameters_conjunction]

end Fragments

/-! ## Writing only adds parameters -/

/-- Whatever was collected before, `w` yields `a` and adds the parameters `ps` behind it. -/
def Writes (w : Writer α) (a : α) (ps : List Parameter) : Prop :=
  ∀ earlier, w.run earlier = (a, earlier ++ ps)

namespace Writes

theorem pure (a : α) : Writes (pure a) a [] :=
  fun earlier => congrArg (Prod.mk a) (List.append_nil earlier).symm

theorem bind {w : Writer α} {f : α → Writer β} {a : α} {b : β} {ps qs : List Parameter}
    (hw : Writes w a ps) (hf : Writes (f a) b qs) : Writes (w >>= f) b (ps ++ qs) := by
  intro earlier
  -- what the second writer finds collected is what the first one left
  rw [StateT.run_bind, hw earlier]
  exact (hf (earlier ++ ps)).trans (by rw [List.append_assoc])

/-- What is written last is put together with what was written before. -/
theorem bindPure {w : Writer α} {f : α → β} {a : α} {ps : List Parameter} (hw : Writes w a ps) :
    Writes (w >>= fun x => Pure.pure (f x)) (f a) ps := by
  have h := hw.bind (f := fun x => Pure.pure (f x)) (.pure (f a))
  rwa [List.append_nil] at h

theorem congr {w : Writer α} {a b : α} {ps qs : List Parameter} (h : Writes w a ps) (ha : a = b)
    (hps : ps = qs) : Writes w b qs := by
  subst ha hps
  exact h

theorem place (p : Parameter) : Writes (Writer.place p) Fragment.placeholder [p] :=
  fun _ => rfl

theorem value (v : Value) :
    Writes (Writer.value v) (Fragments.ofValue v).sql (Fragments.ofValue v).parameters := by
  unfold Writer.value Fragments.ofValue
  cases v.literal? with
  | none => exact (place _).congr (by simp) rfl
  | some sql => exact (pure sql).congr (by simp) rfl

end Writes

mutual

/-- **Writing an expression is walking through it.** -/
theorem Expr.write_writes (e : Expr) : Writes e.write e.fragments.sql e.fragments.parameters := by
  -- each case runs the writer part by part; what is left is that both views put the parts together
  -- in the same order
  cases e with
  | star => exact Writes.congr (.pure "*") (by simp [Expr.fragments]) rfl
  | tableStar table => exact Writes.congr (.pure _) (by simp [Expr.fragments]) rfl
  | column table name =>
    cases table with
    | none => exact Writes.congr (.pure _) (by simp [Expr.fragments, Fragments.ofColumn]) rfl
    | some table => exact Writes.congr (.pure _) (by simp [Expr.fragments, Fragments.ofColumn]) rfl
  | literal value =>
    rw [Expr.write, Expr.fragments]
    exact .value value
  | bind name value =>
    exact Writes.congr (.place _) (by simp [Expr.fragments]) rfl
  | always => exact Writes.congr (.pure "1=1") (by simp [Expr.fragments]) rfl
  | never => exact Writes.congr (.pure "1=0") (by simp [Expr.fragments]) rfl
  | raw sql => exact Writes.congr (.pure sql) (by simp [Expr.fragments]) rfl
  | binary left op right =>
    rw [Expr.write, Expr.fragments]
    refine Writes.congr (.bind left.write_writes (.bindPure right.write_writes)) ?_ ?_
    · simp [String.append_assoc]
    · simp
  | conj items =>
    rw [Expr.write, Expr.fragments]
    refine Writes.congr (.bindPure (Expr.writeAll_writes items)) ?_ ?_
    · rw [Fragments.sql_conjunction]
    · rw [Fragments.parameters_conjunction]
  | disj items =>
    rw [Expr.write, Expr.fragments]
    exact Writes.congr (.bindPure (Expr.writeAll_writes items)) (by simp) (by simp)
  | negation inner =>
    rw [Expr.write, Expr.fragments]
    refine Writes.congr (.bindPure inner.write_writes) ?_ (by simp)
    simp [← String.append_assoc]
  | isNull inner =>
    rw [Expr.write, Expr.fragments]
    exact Writes.congr (.bindPure inner.write_writes) (by simp) (by simp)
  | isNotNull inner =>
    rw [Expr.write, Expr.fragments]
    exact Writes.congr (.bindPure inner.write_writes) (by simp) (by simp)
  | inList inner items negated =>
    cases items with
    | nil =>
      -- the left side is not written, so its parameters must not be collected
      exact Writes.congr (.pure _) (by simp [Expr.fragments]) rfl
    | cons item rest =>
      rw [Expr.write, Expr.fragments]
      refine Writes.congr (.bind inner.write_writes (.bind item.write_writes
        (.bindPure (Expr.writeAll_writes rest)))) ?_ ?_
      · simp [String.append_assoc]
      · simp
  | inQuery inner query negated =>
    rw [Expr.write, Expr.fragments]
    refine Writes.congr (.bind inner.write_writes (.bindPure query.write_writes)) ?_ (by simp)
    simp [String.append_assoc]
  | hasRows query =>
    rw [Expr.write, Expr.fragments]
    refine Writes.congr (.bindPure query.write_writes) ?_ (by simp)
    simp [← String.append_assoc]
  | subquery query =>
    rw [Expr.write, Expr.fragments]
    exact Writes.congr (.bindPure query.write_writes) (by simp) (by simp)
  | call name args distinct =>
    rw [Expr.write, Expr.fragments]
    refine Writes.congr (.bindPure (Expr.writeAll_writes args)) ?_ ?_
    · cases distinct <;> simp [String.append_assoc, -String.reduceAppend]
    · cases distinct <;> simp
  | named inner name =>
    rw [Expr.write, Expr.fragments]
    refine Writes.congr (.bindPure inner.write_writes) ?_ (by simp)
    simp [String.append_assoc]
  | grouping inner =>
    rw [Expr.write, Expr.fragments]
    exact Writes.congr (.bindPure inner.write_writes) (by simp) (by simp)

theorem Expr.writeAll_writes (es : List Expr) :
    Writes (Expr.writeAll es) ((Expr.fragmentsOfList es).map Fragments.sql)
      ((Expr.fragmentsOfList es).flatMap Fragments.parameters) := by
  cases es with
  | nil => exact .pure []
  | cons e rest =>
    rw [Expr.writeAll, Expr.fragmentsOfList]
    exact .bind e.write_writes (.bindPure (Expr.writeAll_writes rest))

/-- **Writing a query is walking through it.** -/
theorem Query.write_writes (q : Query) :
    Writes q.write q.fragments.sql q.fragments.parameters := by
  obtain ⟨first, rest, order, limit, offset, lock⟩ := q
  rw [Query.write, Query.fragments]
  refine Writes.congr (.bind (first.write_writes _) (.bind (Operand.writeAll_writes rest)
    (.bindPure (SortKey.writeAll_writes order)))) ?_ ?_
  · simp [String.append_assoc]
  · simp

theorem Select.write_writes (s : Select) (cap : String) :
    Writes (s.write cap) (s.fragments cap).sql (s.fragments cap).parameters := by
  obtain ⟨quantifier, projections, source, joins, wheres, groups, havings⟩ := s
  rw [Select.write, Select.fragments]
  refine Writes.congr (.bind (Expr.writeAll_writes projections)
    (.bind (Source.writeFrom_writes source) (.bind (Join.writeAll_writes joins)
      (.bind (Expr.writeAll_writes wheres) (.bind (Expr.writeAll_writes groups)
        (.bindPure (Expr.writeAll_writes havings))))))) ?_ ?_
  · simp [String.append_assoc]
  · simp

theorem Operand.writeAll_writes (os : List Operand) :
    Writes (Operand.writeAll os) (Operand.fragmentsOfList os).sql
      (Operand.fragmentsOfList os).parameters := by
  cases os with
  | nil => exact .pure ""
  | cons o rest =>
    obtain ⟨op, select⟩ := o
    rw [Operand.writeAll, Operand.fragmentsOfList]
    refine Writes.congr (.bind (select.write_writes "") (.bindPure (Operand.writeAll_writes rest)))
      ?_ ?_
    · simp [String.append_assoc]
    · simp

theorem SortKey.writeAll_writes (ks : List SortKey) :
    Writes (SortKey.writeAll ks) ((SortKey.fragmentsOfList ks).map Fragments.sql)
      ((SortKey.fragmentsOfList ks).flatMap Fragments.parameters) := by
  cases ks with
  | nil => exact .pure []
  | cons k rest =>
    obtain ⟨expr, direction, nulls⟩ := k
    rw [SortKey.writeAll, SortKey.fragmentsOfList]
    refine Writes.congr (.bind expr.write_writes (.bindPure (SortKey.writeAll_writes rest))) ?_ ?_
    · simp
    · simp

theorem Source.write_writes (s : Source) :
    Writes s.write s.fragments.sql s.fragments.parameters := by
  cases s with
  | table name label =>
    cases label with
    | none => exact Writes.congr (.pure _) (by simp [Source.fragments]) rfl
    | some label => exact Writes.congr (.pure _) (by simp [Source.fragments]) rfl
  | subquery query label =>
    rw [Source.write, Source.fragments]
    refine Writes.congr (.bindPure query.write_writes) ?_ (by simp)
    simp [← String.append_assoc]
  | raw sql => exact Writes.congr (.pure sql) (by simp [Source.fragments]) rfl

theorem Join.writeAll_writes (js : List Join) :
    Writes (Join.writeAll js) (Join.fragmentsOfList js).sql
      (Join.fragmentsOfList js).parameters := by
  cases js with
  | nil => exact .pure ""
  | cons j rest =>
    obtain ⟨kind, source, on⟩ := j
    rw [Join.writeAll, Join.fragmentsOfList]
    refine Writes.congr (.bind source.write_writes (.bind (Expr.writeOn_writes on)
      (.bindPure (Join.writeAll_writes rest)))) ?_ ?_
    · simp [String.append_assoc]
    · simp

theorem Source.writeFrom_writes (s : Option Source) :
    Writes (Source.writeFrom s) (Source.fragmentsFrom s).sql
      (Source.fragmentsFrom s).parameters := by
  cases s with
  | none => exact .pure ""
  | some source =>
    rw [Source.writeFrom, Source.fragmentsFrom]
    exact Writes.congr (.bindPure source.write_writes) (by simp) (by simp)

theorem Expr.writeOn_writes (on : Option Expr) :
    Writes (Expr.writeOn on) (Expr.fragmentsOn on).sql (Expr.fragmentsOn on).parameters := by
  cases on with
  | none => exact .pure ""
  | some e =>
    rw [Expr.writeOn, Expr.fragmentsOn]
    exact Writes.congr (.bindPure e.write_writes) (by simp) (by simp)

end

/-! ## The nodes that are sent -/

/-- The value can stand in the text. -/
def Value.hasLiteral : Value → Bool
  | binary _ => false
  | float x => x.isFinite
  | _ => true

/-- What a node is sent as, if it is sent. A node that is bound has a name of its own; a literal
that cannot stand in the text is sent under the name of its type. -/
def Expr.sent? : Expr → Option Parameter
  | .bind name value => some ⟨name, value.logicalType, value⟩
  | .literal value =>
    if value.hasLiteral then none else some ⟨value.logicalType.name, value.logicalType, value⟩
  | _ => none

mutual

/-- The nodes of an expression that are rendered, each in front of its children, and those of the
queries in it. What stands to the left of an empty list is not rendered. -/
def Expr.rendered : Expr → List Expr
  | .binary left op right => .binary left op right :: left.rendered ++ right.rendered
  | .conj items => .conj items :: Expr.renderedOfList items
  | .disj items => .disj items :: Expr.renderedOfList items
  | .negation inner => .negation inner :: inner.rendered
  | .isNull inner => .isNull inner :: inner.rendered
  | .isNotNull inner => .isNotNull inner :: inner.rendered
  | .inList inner [] negated => [.inList inner [] negated]
  | .inList inner (item :: rest) negated =>
    .inList inner (item :: rest) negated ::
      inner.rendered ++ item.rendered ++ Expr.renderedOfList rest
  | .inQuery inner query negated => .inQuery inner query negated :: inner.rendered ++ query.rendered
  | .hasRows query => .hasRows query :: query.rendered
  | .subquery query => .subquery query :: query.rendered
  | .call name args distinct => .call name args distinct :: Expr.renderedOfList args
  | .named inner name => .named inner name :: inner.rendered
  | .grouping inner => .grouping inner :: inner.rendered
  | e => [e]

/-- The nodes of expressions, one expression after the other. -/
def Expr.renderedOfList : List Expr → List Expr
  | [] => []
  | e :: rest => e.rendered ++ Expr.renderedOfList rest

/-- The nodes of a query. -/
def Query.rendered : Query → List Expr
  | ⟨first, rest, order, _, _, _⟩ =>
    first.rendered ++ Operand.renderedOfList rest ++ SortKey.renderedOfList order

/-- The nodes of a select. -/
def Select.rendered : Select → List Expr
  | ⟨_, projections, source, joins, wheres, groups, havings⟩ =>
    Expr.renderedOfList projections ++ Source.renderedFrom source ++ Join.renderedOfList joins ++
      Expr.renderedOfList wheres ++ Expr.renderedOfList groups ++ Expr.renderedOfList havings

/-- The nodes of further selects. -/
def Operand.renderedOfList : List Operand → List Expr
  | [] => []
  | ⟨_, select⟩ :: rest => select.rendered ++ Operand.renderedOfList rest

/-- The nodes of sort keys. -/
def SortKey.renderedOfList : List SortKey → List Expr
  | [] => []
  | ⟨expr, _, _⟩ :: rest => expr.rendered ++ SortKey.renderedOfList rest

/-- The nodes of a source. -/
def Source.rendered : Source → List Expr
  | .subquery query _ => query.rendered
  | _ => []

/-- The nodes of what a select reads from first. -/
def Source.renderedFrom : Option Source → List Expr
  | none => []
  | some source => source.rendered

/-- The nodes of joins. -/
def Join.renderedOfList : List Join → List Expr
  | [] => []
  | ⟨_, source, on⟩ :: rest => source.rendered ++ Expr.renderedOn on ++ Join.renderedOfList rest

/-- The nodes of the condition of a join. -/
def Expr.renderedOn : Option Expr → List Expr
  | none => []
  | some e => e.rendered

end

theorem Value.isSome_literal? (v : Value) : v.literal?.isSome = v.hasLiteral := by
  cases v with
  | float x => cases h : x.isFinite <;> simp [literal?, hasLiteral, h]
  | bool b => cases b <;> rfl
  | _ => rfl

/-- The place that a literal has, if it has one, is the one that it is sent for. -/
theorem Fragments.parameters_ofValue (v : Value) :
    parameters (ofValue v) = [Expr.literal v].filterMap Expr.sent? := by
  have hv := v.isSome_literal?
  unfold ofValue
  cases h : v.literal? with
  | none =>
    rw [h, Option.isSome_none] at hv
    simp [Expr.sent?, ← hv, Parameter.ofValue]
  | some sql =>
    rw [h, Option.isSome_some] at hv
    simp [Expr.sent?, ← hv]

/-! ## The places of the walk are the nodes that are sent -/

mutual

theorem Expr.parameters_fragments (e : Expr) :
    e.fragments.parameters = e.rendered.filterMap Expr.sent? := by
  cases e with
  | literal value => simp [Expr.fragments, Expr.rendered, Fragments.parameters_ofValue]
  | bind name value => rfl
  | column table name => cases table <;> rfl
  | binary left op right =>
    rw [Expr.fragments, Expr.rendered, List.cons_append, List.filterMap_cons_none rfl]
    simp [left.parameters_fragments, right.parameters_fragments]
  | conj items =>
    rw [Expr.fragments, Expr.rendered, List.filterMap_cons_none rfl]
    simp [Expr.parameters_fragmentsOfList items]
  | disj items =>
    rw [Expr.fragments, Expr.rendered, List.filterMap_cons_none rfl]
    simp [Expr.parameters_fragmentsOfList items]
  | inList inner items negated =>
    cases items with
    | nil => rfl
    | cons item rest =>
      rw [Expr.fragments, Expr.rendered, List.cons_append, List.cons_append,
        List.filterMap_cons_none rfl]
      simp [inner.parameters_fragments, item.parameters_fragments,
        Expr.parameters_fragmentsOfList rest]
  | inQuery inner query negated =>
    rw [Expr.fragments, Expr.rendered, List.cons_append, List.filterMap_cons_none rfl]
    simp [inner.parameters_fragments, query.parameters_fragments]
  | hasRows query | subquery query =>
    rw [Expr.fragments, Expr.rendered, List.filterMap_cons_none rfl]
    simp [query.parameters_fragments]
  | call name args distinct =>
    rw [Expr.fragments, Expr.rendered, List.filterMap_cons_none rfl]
    cases distinct <;> simp [Expr.parameters_fragmentsOfList args]
  | negation inner | isNull inner | isNotNull inner | named inner _ | grouping inner =>
    rw [Expr.fragments, Expr.rendered, List.filterMap_cons_none rfl]
    simp [inner.parameters_fragments]
  | _ => rfl

theorem Expr.parameters_fragmentsOfList (es : List Expr) :
    (Expr.fragmentsOfList es).flatMap Fragments.parameters =
      (Expr.renderedOfList es).filterMap Expr.sent? := by
  cases es with
  | nil => rfl
  | cons e rest =>
    simp [Expr.fragmentsOfList, Expr.renderedOfList, e.parameters_fragments,
      Expr.parameters_fragmentsOfList rest]

theorem Query.parameters_fragments (q : Query) :
    q.fragments.parameters = q.rendered.filterMap Expr.sent? := by
  obtain ⟨first, rest, order, limit, offset, lock⟩ := q
  simp [Query.fragments, Query.rendered, first.parameters_fragments,
    Operand.parameters_fragmentsOfList rest, SortKey.parameters_fragmentsOfList order]

theorem Select.parameters_fragments (s : Select) (cap : String) :
    (s.fragments cap).parameters = s.rendered.filterMap Expr.sent? := by
  obtain ⟨quantifier, projections, source, joins, wheres, groups, havings⟩ := s
  simp [Select.fragments, Select.rendered, Expr.parameters_fragmentsOfList projections,
    Source.parameters_fragmentsFrom source, Join.parameters_fragmentsOfList joins,
    Expr.parameters_fragmentsOfList wheres, Expr.parameters_fragmentsOfList groups,
    Expr.parameters_fragmentsOfList havings]

theorem Operand.parameters_fragmentsOfList (os : List Operand) :
    (Operand.fragmentsOfList os).parameters =
      (Operand.renderedOfList os).filterMap Expr.sent? := by
  cases os with
  | nil => rfl
  | cons o rest =>
    obtain ⟨op, select⟩ := o
    simp [Operand.fragmentsOfList, Operand.renderedOfList, select.parameters_fragments "",
      Operand.parameters_fragmentsOfList rest]

theorem SortKey.parameters_fragmentsOfList (ks : List SortKey) :
    (SortKey.fragmentsOfList ks).flatMap Fragments.parameters =
      (SortKey.renderedOfList ks).filterMap Expr.sent? := by
  cases ks with
  | nil => rfl
  | cons k rest =>
    obtain ⟨expr, direction, nulls⟩ := k
    simp [SortKey.fragmentsOfList, SortKey.renderedOfList, expr.parameters_fragments,
      SortKey.parameters_fragmentsOfList rest]

theorem Source.parameters_fragments (s : Source) :
    s.fragments.parameters = s.rendered.filterMap Expr.sent? := by
  cases s with
  | table name label => cases label <;> rfl
  | subquery query label =>
    simp [Source.fragments, Source.rendered, query.parameters_fragments]
  | raw sql => rfl

theorem Source.parameters_fragmentsFrom (s : Option Source) :
    (Source.fragmentsFrom s).parameters = (Source.renderedFrom s).filterMap Expr.sent? := by
  cases s with
  | none => rfl
  | some source =>
    simp [Source.fragmentsFrom, Source.renderedFrom, source.parameters_fragments]

theorem Join.parameters_fragmentsOfList (js : List Join) :
    (Join.fragmentsOfList js).parameters = (Join.renderedOfList js).filterMap Expr.sent? := by
  cases js with
  | nil => rfl
  | cons j rest =>
    obtain ⟨kind, source, on⟩ := j
    simp [Join.fragmentsOfList, Join.renderedOfList, source.parameters_fragments,
      Expr.parameters_fragmentsOn on, Join.parameters_fragmentsOfList rest]

theorem Expr.parameters_fragmentsOn (on : Option Expr) :
    (Expr.fragmentsOn on).parameters = (Expr.renderedOn on).filterMap Expr.sent? := by
  cases on with
  | none => rfl
  | some e => simp [Expr.fragmentsOn, Expr.renderedOn, e.parameters_fragments]

end

/-! ## Places and parameters -/

theorem Writes.rendering {w : Writer String} {sql : String} {ps : List Parameter}
    (h : Writes w sql ps) : w.rendering = ⟨sql, ps⟩ := by
  unfold Writer.rendering
  rw [h []]
  rfl

theorem Expr.render_eq_fragments (e : Expr) : e.render = e.fragments.rendering :=
  e.write_writes.rendering

theorem Query.renderAsIs_eq_fragments (q : Query) : q.renderAsIs = q.fragments.rendering :=
  q.write_writes.rendering

theorem Query.render_eq_fragments (q : Query) : q.render = q.normalize.fragments.rendering :=
  q.normalize.renderAsIs_eq_fragments

theorem Query.toSql_eq_fragments (q : Query) : q.toSql = q.normalize.fragments.sql :=
  congrArg Rendering.sql q.render_eq_fragments

/-- A fragment is a place. -/
def Fragment.isPlace (f : Fragment) : Bool := f.parameter?.isSome

theorem Fragments.length_parameters (fs : Fragments) :
    fs.parameters.length = fs.countP Fragment.isPlace := by
  induction fs with
  | nil => rfl
  | cons f fs ih =>
    cases f with
    | text sql => rw [parameters_text, ih]; rfl
    | place p => rw [parameters_place, List.length_cons, ih, List.countP_cons_of_pos rfl]

/-- **Text, places and parameters of a query.** The text is that of the walk through the normal
form, whose places are the nodes that are sent, in order; the parameter of a place is the one with as
many others in front of it as there are places in front of the place. Parameters that were collected
before stay where they are. -/
theorem Query.render_places (q : Query) :
    q.render = ⟨q.normalize.fragments.sql, q.normalize.fragments.parameters⟩ ∧
    q.render.parameters = q.normalize.rendered.filterMap Expr.sent? ∧
    q.render.parameters.length = q.normalize.fragments.countP Fragment.isPlace ∧
    (∀ before p after, q.normalize.fragments = before ++ .place p :: after →
      q.render.parameters[before.countP Fragment.isPlace]? = some p) ∧
    (∀ inner negated, (Expr.inList inner [] negated).rendered = [.inList inner [] negated] ∧
      (Expr.inList inner [] negated).fragments = [.text (if negated then "1=1" else "1=0")]) ∧
    (∀ earlier, q.write.run earlier = (q.renderAsIs.sql, earlier ++ q.renderAsIs.parameters)) ∧
    ∀ (e : Expr) earlier, e.write.run earlier = (e.render.sql, earlier ++ e.render.parameters) := by
  rw [q.render_eq_fragments]
  refine ⟨rfl, q.normalize.parameters_fragments, Fragments.length_parameters _, ?_,
    fun _ _ => ⟨rfl, rfl⟩, ?_, ?_⟩
  · intro before p after hwalk
    have hparameters : q.normalize.fragments.parameters =
        Fragments.parameters before ++ p :: Fragments.parameters after := by
      rw [hwalk, Fragments.parameters_append, Fragments.parameters_place]
    show q.normalize.fragments.parameters[_]? = some p
    rw [hparameters, ← Fragments.length_parameters, List.getElem?_append_right (Nat.le_refl _),
      Nat.sub_self]
    rfl
  · intro earlier
    rw [q.renderAsIs_eq_fragments]
    exact q.write_writes earlier
  · intro e earlier
    rw [e.render_eq_fragments]
    exact e.write_writes earlier

end Anywhere
