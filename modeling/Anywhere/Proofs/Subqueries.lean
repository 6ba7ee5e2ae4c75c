import Anywhere.Proofs.Contexts
import Anywhere.Proofs.Placeholders
import Anywhere.Query.Builder
import Anywhere.Query.Normal

/-!
# A nested query is written as it is on its own

Normalizing and writing are two walks through the same tree, and each of them reaches the queries in
a query on its own way. Here both are followed to a query that was left out of a context. Normalizing
what fills a context is filling another context with what was normalized, and the other context does
not depend on it: no rule looks at what is nested, and none is applied to it twice. Writing what
fills a context puts the text of the filling in parentheses between texts that do not depend on it.

So whatever stands in a place is written there as it would be on its own, and so are its parameters,
in one piece.
-/

namespace Anywhere

/-! ## Fragments around a query -/

namespace Fragments

theorem joinWith_cons (separator : String) (fs : Fragments) (rest : List Fragments) :
    joinWith separator (fs :: rest) = fs ++ rest.flatMap (.text separator :: ·) := by
  induction rest generalizing fs with
  | nil => exact (List.append_nil fs).symm
  | cons fs' rest ih =>
    rw [joinWith, ih, List.flatMap_cons, List.cons_append]
    exact List.cons_ne_nil _ _

theorem joinWith_append_cons (separator : String) (before : List Fragments) (fs : Fragments)
    (after : List Fragments) :
    joinWith separator (before ++ fs :: after) =
      before.flatMap (· ++ [.text separator]) ++ fs ++
        after.flatMap (.text separator :: ·) := by
  induction before with
  | nil => exact joinWith_cons separator fs after
  | cons first before ih =>
    rw [List.cons_append, joinWith, ih, List.flatMap_cons]
    · simp
    · simp

end Fragments

/-- The fragments of the query in parentheses, between fragments that do not depend on it. -/
def Encloses (f : Query → Fragments) : Prop :=
  ∃ before after : Fragments, ∀ q : Query,
    f q = before ++ Fragments.parenthesized q.fragments ++ after

namespace Encloses

variable {f : Query → Fragments}

theorem query : Encloses fun q => Fragments.parenthesized q.fragments :=
  ⟨[], [], fun _ => (List.append_nil _).symm⟩

theorem append (h : Encloses f) (fs : Fragments) : Encloses fun q => f q ++ fs := by
  obtain ⟨before, after, h⟩ := h
  exact ⟨before, after ++ fs, fun q => by simp only [h, List.append_assoc]⟩

theorem prepend (fs : Fragments) (h : Encloses f) : Encloses fun q => fs ++ f q := by
  obtain ⟨before, after, h⟩ := h
  exact ⟨fs ++ before, after, fun q => by simp only [h, List.append_assoc]⟩

theorem cons (fragment : Fragment) (h : Encloses f) : Encloses fun q => fragment :: f q :=
  h.prepend [fragment]

theorem parenthesized (h : Encloses f) : Encloses fun q => Fragments.parenthesized (f q) :=
  (h.append [.text ")"]).cons (.text "(")

theorem joinWith (h : Encloses f) (separator : String) (before after : List Fragments) :
    Encloses fun q => Fragments.joinWith separator (before ++ f q :: after) := by
  simp only [Fragments.joinWith_append_cons]
  exact (h.prepend _).append _

theorem flatMap {α : Type} {fill : Query → α} {g : α → Fragments}
    (h : Encloses fun q => g (fill q)) (before after : List α) :
    Encloses fun q => (before ++ fill q :: after).flatMap g := by
  simp only [List.flatMap_append, List.flatMap_cons]
  exact (h.append _).prepend _

/-- The place of the query among the items of a list. -/
theorem joinWith_map {α : Type} {fill : Query → α} {g : α → Fragments}
    (h : Encloses fun q => g (fill q)) (separator : String) (before after : List α) :
    Encloses fun q => Fragments.joinWith separator ((before ++ fill q :: after).map g) := by
  simp only [List.map_append, List.map_cons]
  exact h.joinWith separator _ _

theorem clause {α : Type} {fill : Query → α} {g : α → Fragments}
    (h : Encloses fun q => g (fill q)) (keyword : String) (before after : List α) :
    Encloses fun q => Fragments.clause keyword ((before ++ fill q :: after).map g) := by
  have hclause : ∀ q, Fragments.clause keyword ((before ++ fill q :: after).map g) =
      .text keyword :: Fragments.joinWith ", " ((before ++ fill q :: after).map g) :=
    fun q => if_neg (by simp)
  simp only [hclause]
  exact (h.joinWith_map ", " before after).cons _

end Encloses

/-! ## Writing what fills a frame -/

namespace Expr.Frame

/-- What fills a frame is not raw SQL, so it is not put in parentheses in a conjunction. -/
theorem isolate_fill (F : Expr.Frame) (q : Query) (fs : Fragments) :
    Fragments.isolate (F.fill q) fs = fs := by
  cases F <;> rfl

theorem encloses_conjunction {F : Expr.Frame} (h : Encloses fun q => (F.fill q).fragments)
    (before after : List Expr) :
    Encloses fun q => Fragments.conjunction (before ++ F.fill q :: after)
      (Expr.fragmentsOfList (before ++ F.fill q :: after)) := by
  simp only [Fragments.conjunction_fragmentsOfList, List.map_append, List.map_cons,
    List.length_append, List.length_cons, isolate_fill, ite_self]
  exact h.joinWith " AND " _ _

end Expr.Frame

theorem Expr.fragments_inList (inner : Expr) {items : List Expr} (h : items ≠ [])
    (negated : Bool) :
    (Expr.inList inner items negated).fragments =
      inner.fragments ++ Fragments.membership negated ::
        Fragments.parenthesized (Fragments.joinWith ", " (items.map Expr.fragments)) := by
  cases items with
  | nil => exact absurd rfl h
  | cons item rest => rw [Expr.fragments, Expr.fragmentsOfList_eq_map, List.map_cons]

theorem Expr.Frame.encloses (F : Expr.Frame) (h : F.written = true) :
    Encloses fun q => (F.fill q).fragments := by
  induction F with
  | subquery =>
    simp only [fill, Expr.fragments]
    exact .query
  | hasRows =>
    simp only [fill, Expr.fragments]
    exact Encloses.query.cons _
  | inQuery inner negated =>
    simp only [fill, Expr.fragments]
    exact (Encloses.query.cons _).prepend _
  | inQueryLeft F query negated ih | binaryLeft F op right ih | isNull F ih | isNotNull F ih
  | named F name ih =>
    simp only [fill, Expr.fragments]
    exact (ih h).append _
  | binaryRight left op F ih =>
    simp only [fill, Expr.fragments]
    exact ((ih h).cons _).prepend _
  | conj before F after ih =>
    simp only [fill, Expr.fragments]
    exact encloses_conjunction (ih h) before after
  | disj before F after ih =>
    simp only [fill, Expr.fragments, Expr.fragmentsOfList_eq_map]
    exact ((ih h).joinWith_map " OR " before after).parenthesized
  | negation F ih =>
    simp only [fill, Expr.fragments]
    exact (ih h).parenthesized.cons _
  | grouping F ih =>
    simp only [fill, Expr.fragments]
    exact (ih h).parenthesized
  | listLeft F items negated ih =>
    rw [written, Bool.and_eq_true, Bool.not_eq_true', List.isEmpty_eq_false_iff] at h
    simp only [fill, Expr.fragments_inList _ h.1]
    exact (ih h.2).append _
  | item inner before F after negated ih =>
    have hitems : ∀ q, before ++ F.fill q :: after ≠ [] := by simp
    simp only [fill, Expr.fragments_inList _ (hitems _)]
    exact (((ih h).joinWith_map ", " before after).parenthesized.cons _).prepend _
  | arg name before F after distinct ih =>
    simp only [fill, Expr.fragments, Expr.fragmentsOfList_eq_map]
    exact (((ih h).joinWith_map ", " before after).prepend _).parenthesized.cons _

/-- The fragments of a join. -/
def Join.fragments (j : Join) : Fragments :=
  .text (" " ++ j.kind.symbol ++ " ") :: j.source.fragments ++ Expr.fragmentsOn j.on

theorem Join.fragmentsOfList_eq_flatMap (js : List Join) :
    Join.fragmentsOfList js = js.flatMap Join.fragments := by
  induction js with
  | nil => rfl
  | cons j js ih => cases j; rw [Join.fragmentsOfList, ih, List.flatMap_cons, Join.fragments]

theorem Join.Frame.encloses (F : Join.Frame) (h : F.written = true) :
    Encloses fun q => (F.fill q).fragments := by
  cases F with
  | subquery kind label on =>
    simp only [fill, Join.fragments, Source.fragments]
    exact ((Encloses.query.append _).cons _).append _
  | condition kind source F =>
    simp only [fill, Join.fragments, Expr.fragmentsOn]
    exact ((F.encloses h).cons _).prepend _

theorem Select.fragments_eq (s : Select) (cap : String) :
    s.fragments cap =
      .text ("SELECT" ++ Quantifier.clause s.quantifier ++ cap ++ " ") ::
        Fragments.columns (s.projections.map Expr.fragments) ++
        Source.fragmentsFrom s.source ++
        s.joins.flatMap Join.fragments ++
        Fragments.conjunctionClause " WHERE " s.wheres (Expr.fragmentsOfList s.wheres) ++
        Fragments.clause " GROUP BY " (s.groups.map Expr.fragments) ++
        Fragments.conjunctionClause " HAVING " s.havings (Expr.fragmentsOfList s.havings) := by
  cases s
  rw [Select.fragments, Join.fragmentsOfList_eq_flatMap, Expr.fragmentsOfList_eq_map,
    Expr.fragmentsOfList_eq_map _, Expr.fragmentsOfList_eq_map _]

/-- The place of the query among predicates that all have to hold. -/
theorem Encloses.conjunctionClause {F : Expr.Frame} (h : Encloses fun q => (F.fill q).fragments)
    (keyword : String) (before after : List Expr) :
    Encloses fun q => Fragments.conjunctionClause keyword (before ++ F.fill q :: after)
      (Expr.fragmentsOfList (before ++ F.fill q :: after)) := by
  have hclause : ∀ items : List Expr, items ≠ [] →
      Fragments.conjunctionClause keyword items (Expr.fragmentsOfList items) =
        .text keyword :: Fragments.conjunction items (Expr.fragmentsOfList items) := by
    intro items hitems
    rw [Expr.fragmentsOfList_eq_map]
    exact if_neg (by simpa using hitems)
  have hitems : ∀ q, before ++ F.fill q :: after ≠ [] := by simp
  simp only [hclause _ (hitems _)]
  exact (Expr.Frame.encloses_conjunction h before after).cons _

theorem Encloses.columns {F : Expr.Frame} (h : Encloses fun q => (F.fill q).fragments)
    (before after : List Expr) :
    Encloses fun q => Fragments.columns ((before ++ F.fill q :: after).map Expr.fragments) := by
  have hcolumns : ∀ q, Fragments.columns ((before ++ F.fill q :: after).map Expr.fragments) =
      Fragments.joinWith ", " ((before ++ F.fill q :: after).map Expr.fragments) :=
    fun q => if_neg (by simp)
  simp only [hcolumns]
  exact h.joinWith_map ", " before after

theorem Select.Frame.encloses (F : Select.Frame) (h : F.written = true) (cap : String) :
    Encloses fun q => (F.fill q).fragments cap := by
  -- what is written in front of the place is put in front, and the rest behind it
  cases F with
  | projection s before F after =>
    simp only [fill, Select.fragments_eq]
    have hcolumns := ((F.encloses h).columns before after).cons
      (.text ("SELECT" ++ Quantifier.clause s.quantifier ++ cap ++ " "))
    exact hcolumns.append _ |>.append _ |>.append _ |>.append _ |>.append _
  | source s label =>
    simp only [fill, Select.fragments_eq]
    have hsource : Encloses fun q => Source.fragmentsFrom (some (.subquery q label)) := by
      simp only [Source.fragmentsFrom, Source.fragments]
      exact (Encloses.query.append _).cons _
    exact hsource.prepend _ |>.append _ |>.append _ |>.append _ |>.append _
  | join s before F after =>
    simp only [fill, Select.fragments_eq]
    exact (F.encloses h).flatMap before after |>.prepend _ |>.append _ |>.append _ |>.append _
  | condition s before F after =>
    simp only [fill, Select.fragments_eq]
    exact (F.encloses h).conjunctionClause _ before after |>.prepend _ |>.append _ |>.append _
  | group s before F after =>
    simp only [fill, Select.fragments_eq]
    exact (F.encloses h).clause _ before after |>.prepend _ |>.append _
  | having s before F after =>
    simp only [fill, Select.fragments_eq]
    exact (F.encloses h).conjunctionClause _ before after |>.prepend _

/-- The fragments of a further select with its set operation. -/
def Operand.fragments (o : Operand) : Fragments :=
  .text (" " ++ o.op.symbol ++ " ") :: o.select.fragments ""

theorem Operand.fragmentsOfList_eq_flatMap (os : List Operand) :
    Operand.fragmentsOfList os = os.flatMap Operand.fragments := by
  induction os with
  | nil => rfl
  | cons o os ih =>
    cases o
    rw [Operand.fragmentsOfList, ih, List.flatMap_cons, Operand.fragments]

namespace Query

theorem fragments_eq (q : Query) :
    q.fragments =
      q.first.fragments (cap q.limit q.offset) ++ q.rest.flatMap Operand.fragments ++
        Fragments.clause " ORDER BY "
          (q.order.map fun k => k.expr.fragments ++ [.text (SortKey.suffix k.direction k.nulls)]) ++
        [.text (Lock.suffix q.lock)] := by
  cases q
  rw [fragments, Operand.fragmentsOfList_eq_flatMap, SortKey.fragmentsOfList_eq_map]

/-- **What fills a frame is written in parentheses,** and nothing else depends on it. -/
theorem Frame.encloses (F : Frame) (h : F.written = true) :
    Encloses fun t => (F.fill t).fragments := by
  cases F with
  | first q F =>
    simp only [fill, fragments_eq]
    exact F.encloses h _ |>.append _ |>.append _ |>.append _
  | operand q before op F after =>
    simp only [fill, fragments_eq]
    have hselect : Encloses fun t => Operand.fragments ⟨op, F.fill t⟩ := by
      simp only [Operand.fragments]
      exact (F.encloses h _).cons _
    exact hselect.flatMap before after |>.prepend _ |>.append _ |>.append _
  | key q before F direction nulls after =>
    simp only [fill, fragments_eq]
    have hkey : Encloses fun t =>
        (fun k : SortKey => k.expr.fragments ++ [.text (SortKey.suffix k.direction k.nulls)])
          ⟨F.fill t, direction, nulls⟩ :=
      (F.encloses h).append [.text (SortKey.suffix direction nulls)]
    exact hkey.clause _ before after |>.prepend _ |>.append _

end Query

/-! ## Reaching the queries in what fills a frame -/

theorem Expr.Frame.exists_everywhere (f : Query → Query) (F : Expr.Frame) :
    ∃ F' : Expr.Frame, F'.written = F.written ∧
      ∀ q, (F.fill q).everywhere f = F'.fill (q.everywhere f) := by
  induction F with
  | subquery => exact ⟨.subquery, rfl, fun q => by rw [fill, fill, Expr.everywhere]⟩
  | hasRows => exact ⟨.hasRows, rfl, fun q => by rw [fill, fill, Expr.everywhere]⟩
  | inQuery inner negated =>
    exact ⟨.inQuery (inner.everywhere f) negated, rfl, fun q => by rw [fill, fill, Expr.everywhere]⟩
  | inQueryLeft F query negated ih =>
    obtain ⟨F', hw, hF⟩ := ih
    exact ⟨.inQueryLeft F' (query.everywhere f) negated, hw,
      fun q => by rw [fill, fill, Expr.everywhere, hF]⟩
  | binaryLeft F op right ih =>
    obtain ⟨F', hw, hF⟩ := ih
    exact ⟨.binaryLeft F' op (right.everywhere f), hw,
      fun q => by rw [fill, fill, Expr.everywhere, hF]⟩
  | binaryRight left op F ih =>
    obtain ⟨F', hw, hF⟩ := ih
    exact ⟨.binaryRight (left.everywhere f) op F', hw,
      fun q => by rw [fill, fill, Expr.everywhere, hF]⟩
  | conj before F after ih =>
    obtain ⟨F', hw, hF⟩ := ih
    refine ⟨.conj (before.map (·.everywhere f)) F' (after.map (·.everywhere f)), hw, fun q => ?_⟩
    rw [fill, fill, Expr.everywhere, Expr.everywhereOfList_eq_map, List.map_append, List.map_cons,
      hF]
  | disj before F after ih =>
    obtain ⟨F', hw, hF⟩ := ih
    refine ⟨.disj (before.map (·.everywhere f)) F' (after.map (·.everywhere f)), hw, fun q => ?_⟩
    rw [fill, fill, Expr.everywhere, Expr.everywhereOfList_eq_map, List.map_append, List.map_cons,
      hF]
  | negation F ih =>
    obtain ⟨F', hw, hF⟩ := ih
    exact ⟨.negation F', hw, fun q => by rw [fill, fill, Expr.everywhere, hF]⟩
  | isNull F ih =>
    obtain ⟨F', hw, hF⟩ := ih
    exact ⟨.isNull F', hw, fun q => by rw [fill, fill, Expr.everywhere, hF]⟩
  | isNotNull F ih =>
    obtain ⟨F', hw, hF⟩ := ih
    exact ⟨.isNotNull F', hw, fun q => by rw [fill, fill, Expr.everywhere, hF]⟩
  | listLeft F items negated ih =>
    obtain ⟨F', hw, hF⟩ := ih
    refine ⟨.listLeft F' (items.map (·.everywhere f)) negated, ?_, fun q => ?_⟩
    · rw [written, written, hw, List.isEmpty_map]
    · rw [fill, fill, Expr.everywhere, Expr.everywhereOfList_eq_map, hF]
  | item inner before F after negated ih =>
    obtain ⟨F', hw, hF⟩ := ih
    refine ⟨.item (inner.everywhere f) (before.map (·.everywhere f)) F'
      (after.map (·.everywhere f)) negated, hw, fun q => ?_⟩
    rw [fill, fill, Expr.everywhere, Expr.everywhereOfList_eq_map, List.map_append, List.map_cons,
      hF]
  | arg name before F after distinct ih =>
    obtain ⟨F', hw, hF⟩ := ih
    refine ⟨.arg name (before.map (·.everywhere f)) F' (after.map (·.everywhere f)) distinct, hw,
      fun q => ?_⟩
    rw [fill, fill, Expr.everywhere, Expr.everywhereOfList_eq_map, List.map_append, List.map_cons,
      hF]
  | named F name ih =>
    obtain ⟨F', hw, hF⟩ := ih
    exact ⟨.named F' name, hw, fun q => by rw [fill, fill, Expr.everywhere, hF]⟩
  | grouping F ih =>
    obtain ⟨F', hw, hF⟩ := ih
    exact ⟨.grouping F', hw, fun q => by rw [fill, fill, Expr.everywhere, hF]⟩

theorem Join.Frame.exists_everywhere (f : Query → Query) (F : Join.Frame) :
    ∃ F' : Join.Frame, F'.written = F.written ∧
      ∀ q, (F.fill q).everywhere f = F'.fill (q.everywhere f) := by
  cases F with
  | subquery kind label on =>
    refine ⟨.subquery kind label (on.map (·.everywhere f)), rfl, fun q => ?_⟩
    rw [fill, fill, Join.everywhere, Source.everywhere]
  | condition kind source F =>
    obtain ⟨F', hw, hF⟩ := F.exists_everywhere f
    refine ⟨.condition kind (source.everywhere f) F', hw, fun q => ?_⟩
    rw [fill, fill, Join.everywhere, Option.map_some, hF]

theorem Select.Frame.exists_everywhere (f : Query → Query) (F : Select.Frame) :
    ∃ F' : Select.Frame, F'.written = F.written ∧
      ∀ q, (F.fill q).everywhere f = F'.fill (q.everywhere f) := by
  cases F with
  | source s label =>
    refine ⟨.source (s.everywhere f) label, rfl, fun q => ?_⟩
    simp only [fill, Select.everywhere_eq, Option.map_some, Source.everywhere]
  | join s before F after =>
    obtain ⟨F', hw, hF⟩ := F.exists_everywhere f
    refine ⟨.join (s.everywhere f) (before.map (·.everywhere f)) F' (after.map (·.everywhere f)),
      hw, fun q => ?_⟩
    simp only [fill, Select.everywhere_eq, List.map_append, List.map_cons, hF]
  | projection s before F after =>
    obtain ⟨F', hw, hF⟩ := F.exists_everywhere f
    refine ⟨.projection (s.everywhere f) (before.map (·.everywhere f)) F'
      (after.map (·.everywhere f)), hw, fun q => ?_⟩
    simp only [fill, Select.everywhere_eq, List.map_append, List.map_cons, hF]
  | condition s before F after =>
    obtain ⟨F', hw, hF⟩ := F.exists_everywhere f
    refine ⟨.condition (s.everywhere f) (before.map (·.everywhere f)) F'
      (after.map (·.everywhere f)), hw, fun q => ?_⟩
    simp only [fill, Select.everywhere_eq, List.map_append, List.map_cons, hF]
  | group s before F after =>
    obtain ⟨F', hw, hF⟩ := F.exists_everywhere f
    refine ⟨.group (s.everywhere f) (before.map (·.everywhere f)) F' (after.map (·.everywhere f)),
      hw, fun q => ?_⟩
    simp only [fill, Select.everywhere_eq, List.map_append, List.map_cons, hF]
  | having s before F after =>
    obtain ⟨F', hw, hF⟩ := F.exists_everywhere f
    refine ⟨.having (s.everywhere f) (before.map (·.everywhere f)) F'
      (after.map (·.everywhere f)), hw, fun q => ?_⟩
    simp only [fill, Select.everywhere_eq, List.map_append, List.map_cons, hF]

namespace Query

theorem Frame.exists_inside (f : Query → Query) (F : Frame) :
    ∃ F' : Frame, F'.written = F.written ∧
      ∀ t, (F.fill t).inside f = F'.fill (t.everywhere f) := by
  cases F with
  | first q F =>
    obtain ⟨F', hw, hF⟩ := F.exists_everywhere f
    refine ⟨.first (q.inside f) F', hw, fun t => ?_⟩
    simp only [fill, inside, hF]
  | operand q before op F after =>
    obtain ⟨F', hw, hF⟩ := F.exists_everywhere f
    refine ⟨.operand (q.inside f) (Operand.everywhereOfList f before) op F'
      (Operand.everywhereOfList f after), hw, fun t => ?_⟩
    simp only [fill, inside, Operand.everywhereOfList_eq_map, List.map_append, List.map_cons, hF]
  | key q before F direction nulls after =>
    obtain ⟨F', hw, hF⟩ := F.exists_everywhere f
    refine ⟨.key (q.inside f) (SortKey.everywhereOfList f before) F' direction nulls
      (SortKey.everywhereOfList f after), hw, fun t => ?_⟩
    simp only [fill, inside, SortKey.everywhereOfList_eq_map, List.map_append, List.map_cons, hF]

end Query

/-! ## Rules that overlook what fills a frame -/

/-- What the rule makes of a filled frame is another frame filled alike. -/
def Select.Overlooks (rule : Select → Select) : Prop :=
  ∀ F : Select.Frame, ∃ F' : Select.Frame, F'.written = F.written ∧
    ∀ t, rule (F.fill t) = F'.fill t

@[inherit_doc Select.Overlooks]
def Query.Overlooks (rule : Query → Query) : Prop :=
  ∀ F : Query.Frame, ∃ F' : Query.Frame, F'.written = F.written ∧ ∀ t, rule (F.fill t) = F'.fill t

theorem Expr.Frame.strip_fill (F : Expr.Frame) (t : Query) :
    Marker.strip (F.fill t) = some (F.fill t) := by
  cases F <;> rfl

theorem Expr.Frame.marks_fill (F : Expr.Frame) (t : Query) : Marker.marks (F.fill t) = false := by
  cases F <;> rfl

namespace Select

/-- A marker stands in raw SQL, and that is no place for a query. -/
theorem resolveMarkers_overlooks : Overlooks resolveMarkers := by
  intro F
  cases F with
  | projection s before F after =>
    refine ⟨.projection { s with projections := before ++ after }.resolveMarkers
      (before.filterMap Marker.strip) F (after.filterMap Marker.strip), rfl, fun t => ?_⟩
    simp [Frame.fill, resolveMarkers, F.strip_fill, F.marks_fill]
  | source s label => exact ⟨.source s.resolveMarkers label, rfl, fun _ => rfl⟩
  | join s before F after => exact ⟨.join s.resolveMarkers before F after, rfl, fun _ => rfl⟩
  | condition s before F after =>
    exact ⟨.condition s.resolveMarkers before F after, rfl, fun _ => rfl⟩
  | group s before F after => exact ⟨.group s.resolveMarkers before F after, rfl, fun _ => rfl⟩
  | having s before F after => exact ⟨.having s.resolveMarkers before F after, rfl, fun _ => rfl⟩

/-- Sets the quantifier and adds predicates on the rows. -/
def amend (quantify : Option Quantifier → Option Quantifier) (added : List Expr) (s : Select) :
    Select :=
  { s with quantifier := quantify s.quantifier, wheres := s.wheres ++ added }

theorem amend_overlooks (quantify : Option Quantifier → Option Quantifier) (added : List Expr) :
    Overlooks (amend quantify added) := by
  intro F
  cases F with
  | projection s before F after =>
    exact ⟨.projection (s.amend quantify added) before F after, rfl, fun _ => rfl⟩
  | source s label => exact ⟨.source (s.amend quantify added) label, rfl, fun _ => rfl⟩
  | join s before F after =>
    exact ⟨.join (s.amend quantify added) before F after, rfl, fun _ => rfl⟩
  | condition s before F after =>
    -- what is added comes behind everything that was there
    refine ⟨.condition (s.amend quantify added) before F (after ++ added), rfl, fun t => ?_⟩
    simp only [Frame.fill, amend, List.append_assoc, List.cons_append]
  | group s before F after =>
    exact ⟨.group (s.amend quantify added) before F after, rfl, fun _ => rfl⟩
  | having s before F after =>
    exact ⟨.having (s.amend quantify added) before F after, rfl, fun _ => rfl⟩

theorem never_overlooks : Overlooks fun s => { s with wheres := s.wheres ++ [.never] } :=
  amend_overlooks id [.never]

theorem unquantified_overlooks : Overlooks fun s => { s with quantifier := none } := by
  have hnone : amend (fun _ => none) [] = fun s => { s with quantifier := none } := by
    funext s
    rw [amend, List.append_nil]
  rw [← hnone]
  exact amend_overlooks _ _

end Select

namespace Query

/-- The query around the place of a frame. -/
def Frame.host : Frame → Query
  | .first q _ => q
  | .operand q _ _ _ _ => q
  | .key q _ _ _ _ _ => q

@[simp] theorem Frame.limit_fill (F : Frame) (t : Query) : (F.fill t).limit = F.host.limit := by
  cases F <;> rfl

@[simp] theorem Frame.offset_fill (F : Frame) (t : Query) : (F.fill t).offset = F.host.offset := by
  cases F <;> rfl

namespace Overlooks

variable {f g : Query → Query}

theorem comp (hg : Overlooks g) (hf : Overlooks f) : Overlooks fun q => g (f q) := by
  intro F
  obtain ⟨F₁, hw₁, hF₁⟩ := hf F
  obtain ⟨F₂, hw₂, hF₂⟩ := hg F₁
  exact ⟨F₂, hw₂.trans hw₁, fun t => by simp only [hF₁, hF₂]⟩

theorem mapSelects {rule : Select → Select} (h : Select.Overlooks rule) :
    Overlooks (mapSelects rule) := by
  intro F
  cases F with
  | first q F =>
    obtain ⟨F', hw, hF⟩ := h F
    exact ⟨.first (q.mapSelects rule) F', hw,
      fun t => by simp only [Frame.fill, Query.mapSelects, hF]⟩
  | operand q before op F after =>
    obtain ⟨F', hw, hF⟩ := h F
    refine ⟨.operand (q.mapSelects rule) (before.map fun o => { o with select := rule o.select }) op
      F' (after.map fun o => { o with select := rule o.select }), hw, fun t => ?_⟩
    simp only [Frame.fill, Query.mapSelects, List.map_append, List.map_cons, hF]
  | key q before F direction nulls after =>
    exact ⟨.key (q.mapSelects rule) before F direction nulls after, rfl, fun _ => rfl⟩

theorem cap (limit offset : Option UInt64) :
    Overlooks fun q => { q with limit := limit, offset := offset } := by
  intro F
  cases F with
  | first q F => exact ⟨.first { q with limit, offset } F, rfl, fun _ => rfl⟩
  | operand q before op F after =>
    exact ⟨.operand { q with limit, offset } before op F after, rfl, fun _ => rfl⟩
  | key q before F direction nulls after =>
    exact ⟨.key { q with limit, offset } before F direction nulls after, rfl, fun _ => rfl⟩

end Overlooks

theorem closeZeroLimit_overlooks : Overlooks closeZeroLimit := by
  intro F
  by_cases hzero : F.host.limit = some 0
  · obtain ⟨F', hw, hF⟩ := (Overlooks.cap none none).comp (.mapSelects Select.never_overlooks) F
    refine ⟨F', hw, fun t => ?_⟩
    rw [closeZeroLimit, F.limit_fill, if_pos hzero]
    exact hF t
  · exact ⟨F, rfl, fun t => by rw [closeZeroLimit, F.limit_fill, if_neg hzero]⟩

theorem boundOffset_overlooks : Overlooks boundOffset := by
  intro F
  by_cases hopen : F.host.offset.isSome ∧ F.host.limit = none
  · obtain ⟨F', hw, hF⟩ := Overlooks.cap (some unboundedLimit) F.host.offset F
    refine ⟨F', hw, fun t => ?_⟩
    rw [boundOffset, F.offset_fill, F.limit_fill, if_pos hopen]
    exact hF t
  · exact ⟨F, rfl, fun t => by rw [boundOffset, F.offset_fill, F.limit_fill, if_neg hopen]⟩

theorem orderCapped_eq (q : Query) :
    q.orderCapped = { q with
      order := if q.limit.isSome ∧ q.order.isEmpty then [⟨.raw "1", .ascending, none⟩]
        else q.order } := by
  unfold orderCapped
  split
  · rfl
  · cases q
    rfl

theorem orderCapped_overlooks : Overlooks orderCapped := by
  intro F
  cases F with
  | first q F =>
    exact ⟨.first q.orderCapped F, rfl, fun t => by simp only [Frame.fill, orderCapped_eq]⟩
  | operand q before op F after =>
    exact ⟨.operand q.orderCapped before op F after, rfl,
      fun t => by simp only [Frame.fill, orderCapped_eq]⟩
  | key q before F direction nulls after =>
    -- there is an order already
    exact ⟨.key q before F direction nulls after, rfl, fun t => if_neg (by simp [Frame.fill])⟩

theorem dropQuantifiers_overlooks : Overlooks dropQuantifiers := by
  intro F
  by_cases hone : F.host.limit = some 1
  · obtain ⟨F', hw, hF⟩ := Overlooks.mapSelects Select.unquantified_overlooks F
    refine ⟨F', hw, fun t => ?_⟩
    rw [dropQuantifiers, F.limit_fill, if_pos hone]
    exact hF t
  · exact ⟨F, rfl, fun t => by rw [dropQuantifiers, F.limit_fill, if_neg hone]⟩

theorem settle_overlooks : Overlooks settle :=
  dropQuantifiers_overlooks.comp <| orderCapped_overlooks.comp <| boundOffset_overlooks.comp <|
    closeZeroLimit_overlooks.comp <| .mapSelects Select.resolveMarkers_overlooks

/-- **Normalizing what fills a frame** is filling another frame with what was normalized. -/
theorem Frame.exists_normalize (F : Frame) :
    ∃ F' : Frame, F'.written = F.written ∧ ∀ t, (F.fill t).normalize = F'.fill t.normalize := by
  obtain ⟨F₁, hw₁, hF₁⟩ := F.exists_inside settle
  obtain ⟨F₂, hw₂, hF₂⟩ := settle_overlooks F₁
  refine ⟨F₂, hw₂.trans hw₁, fun t => ?_⟩
  rw [normalize, everywhere_eq, hF₁, hF₂, normalize]

/-! ## Writing what fills a context -/

/-- The normal form of what fills a context is written in parentheses wherever the context leaves
it out. -/
theorem Context.exists_fragments (C : Context) (h : C.written = true) :
    ∃ before after : Fragments, ∀ t : Query,
      (C.fill t).normalize.fragments =
        before ++ Fragments.parenthesized t.normalize.fragments ++ after := by
  induction C with
  | outermost F =>
    obtain ⟨F', hw, hF⟩ := F.exists_normalize
    obtain ⟨before, after, hfragments⟩ := F'.encloses (hw.trans h)
    refine ⟨before, after, fun t => ?_⟩
    rw [fill, hF]
    exact hfragments t.normalize
  | within F C ih =>
    rw [written, Bool.and_eq_true] at h
    obtain ⟨F', hw, hF⟩ := F.exists_normalize
    obtain ⟨before, after, hfragments⟩ := F'.encloses (hw.trans h.1)
    obtain ⟨before', after', hinner⟩ := ih h.2
    -- the parentheses around the outermost query stand between the two texts on either side
    refine ⟨before ++ .text "(" :: before', after' ++ .text ")" :: after, fun t => ?_⟩
    have houter := hfragments (C.fill t).normalize
    rw [hinner] at houter
    rw [fill, hF]
    exact houter.trans (by simp [Fragments.parenthesized])

/-- **A nested query is written as it is on its own.** The queries in a query are those that can be
left out of it. Leaving one out of the tree leaves out of the text one piece in parentheses and of
the parameters one piece without a gap, and whatever is put in its place in the tree is what stands
there in both. -/
theorem render_nested :
    (∀ s t : Query, t ∈ s.inner ↔ ∃ C : Context, C.fill t = s) ∧
    ∀ C : Context, C.written = true → ∃ before after : Fragments, ∀ t : Query,
      (C.fill t).render =
        ⟨before.sql ++ "(" ++ t.render.sql ++ ")" ++ after.sql,
          before.parameters ++ t.render.parameters ++ after.parameters⟩ := by
  refine ⟨fun s t => mem_inner_iff, fun C hwritten => ?_⟩
  obtain ⟨before, after, hfragments⟩ := C.exists_fragments hwritten
  refine ⟨before, after, fun t => ?_⟩
  rw [render_eq_fragments, hfragments, render_eq_fragments t]
  simp [Fragments.rendering, String.append_assoc]

/-- Three offers that cost ten or twenty, whichever price of the product is put in. -/
def cheapOffers : Context :=
  .within
    (.first ((Query.ofTable "offers").take 3)
      (.condition (Select.ofTable "offers")
        [.binary (.col "stock") .gt (.bind "stock" (.int 0))]
        (.listLeft .subquery [.literal (.int 10), .literal (.int 20)] false) []))
    (.outermost (.first (Query.ofTable "products")
      (.projection (Select.ofTable "products") [] .subquery [])))

/-- The price in a currency that was set last. -/
def latestPrice : Query :=
  (((Query.ofSelect ((Select.ofTable "prices").project (.col "amount"))).filter
    (.binary (.col "currency") .eq (.bind "currency" (.text "EUR")))).orderBy
      (.descending (.col "valid_from"))).take 1

/-- The price is a query in a query in a list test, and has its own row cap there. -/
theorem render_cheapOffers :
    cheapOffers.written = true ∧
    latestPrice.render =
      ⟨"SELECT TOP 1 \"amount\" FROM \"prices\" WHERE \"currency\" = ? " ++
          "ORDER BY \"valid_from\" DESC",
        [.ofValue "currency" (.text "EUR")]⟩ ∧
    ∃ before after : Fragments, (cheapOffers.fill latestPrice).render =
      ⟨before.sql ++ "(" ++ latestPrice.render.sql ++ ")" ++ after.sql,
        before.parameters ++ latestPrice.render.parameters ++ after.parameters⟩ := by
  have hwritten : cheapOffers.written = true := rfl
  obtain ⟨before, after, hrender⟩ := render_nested.2 cheapOffers hwritten
  exact ⟨hwritten, by decide +kernel, before, after, hrender latestPrice⟩

end Query

end Anywhere
