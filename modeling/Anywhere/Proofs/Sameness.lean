import Anywhere.Proofs.RowCap
import Anywhere.Query.Equality

/-!
# Trees that are the same

Trees are compared by what they denote, so that two of them may be the same and differ in the
decimal places of a literal, and one of them may differ from itself: a double that is no number
equals nothing. `Expr.same_self` says that there is no other reason for that, and `Expr.values`
lists the values that have to be looked at.

Whatever is done to all queries of a tree keeps trees the same if it does so with single queries
(`Expr.same_everywhere`). The rules of the dialect do, because a tree shows them nothing that may
differ: raw projections are compared as texts, and all that counts besides is how many sort keys
there are, and the row cap. So trees that are the same have normal forms that are the same.
-/

namespace Anywhere

/-! ## The values of a tree -/

/-- The value is a double that is no number. -/
def Value.isNaN : Value → Bool
  | float x => x.isNaN
  | _ => false

theorem Value.same_self (v : Value) : v.same v = !v.isNaN := by
  cases v with
  | float x => exact Number.Double.same_self
  | decimal d => exact Number.Decimal.same_self d
  | _ => simp [same, isNaN]

mutual

/-- The values in an expression, those of nested queries among them. -/
def Expr.values : Expr → List Value
  | .literal value => [value]
  | .bind _ value => [value]
  | .binary left _ right => left.values ++ right.values
  | .conj items => Expr.valuesOfList items
  | .disj items => Expr.valuesOfList items
  | .negation inner => inner.values
  | .isNull inner => inner.values
  | .isNotNull inner => inner.values
  | .inList inner items _ => inner.values ++ Expr.valuesOfList items
  | .inQuery inner query _ => inner.values ++ query.values
  | .hasRows query => query.values
  | .subquery query => query.values
  | .call _ args _ => Expr.valuesOfList args
  | .named inner _ => inner.values
  | .grouping inner => inner.values
  | .star => []
  | .tableStar _ => []
  | .column _ _ => []
  | .always => []
  | .never => []
  | .raw _ => []

/-- The values in expressions. -/
def Expr.valuesOfList : List Expr → List Value
  | [] => []
  | e :: rest => e.values ++ Expr.valuesOfList rest

/-- The values in a query. -/
def Query.values : Query → List Value
  | ⟨first, rest, order, _, _, _⟩ =>
    first.values ++ Operand.valuesOfList rest ++ SortKey.valuesOfList order

/-- The values in a select. -/
def Select.values : Select → List Value
  | ⟨_, projections, source, joins, wheres, groups, havings⟩ =>
    Expr.valuesOfList projections ++ Source.valuesFrom source ++ Join.valuesOfList joins ++
      Expr.valuesOfList wheres ++ Expr.valuesOfList groups ++ Expr.valuesOfList havings

/-- The values in further selects. -/
def Operand.valuesOfList : List Operand → List Value
  | [] => []
  | ⟨_, select⟩ :: rest => select.values ++ Operand.valuesOfList rest

/-- The values in sort keys. -/
def SortKey.valuesOfList : List SortKey → List Value
  | [] => []
  | ⟨expr, _, _⟩ :: rest => expr.values ++ SortKey.valuesOfList rest

/-- The values in a source. -/
def Source.values : Source → List Value
  | .subquery query _ => query.values
  | .table _ _ => []
  | .raw _ => []

/-- The values in what a select reads from first. -/
def Source.valuesFrom : Option Source → List Value
  | none => []
  | some source => source.values

/-- The values in joins. -/
def Join.valuesOfList : List Join → List Value
  | [] => []
  | ⟨_, source, on⟩ :: rest => source.values ++ Expr.valuesOn on ++ Join.valuesOfList rest

/-- The values in the condition of a join. -/
def Expr.valuesOn : Option Expr → List Value
  | none => []
  | some e => e.values

end

/-! ## Trees that are the same as themselves -/

mutual

/-- **An expression is the same as itself** unless a value in it is no number. -/
theorem Expr.same_self (e : Expr) : e.same e = e.values.all (!·.isNaN) := by
  cases e with
  | literal value => simp [Expr.same, Expr.values, value.same_self]
  | bind name value => simp [Expr.same, Expr.values, value.same_self]
  | binary left op right => simp [Expr.same, Expr.values, left.same_self, right.same_self]
  | conj items | disj items => simp [Expr.same, Expr.values, Expr.sameList_self items]
  | inList inner items negated =>
    simp [Expr.same, Expr.values, inner.same_self, Expr.sameList_self items]
  | inQuery inner query negated =>
    simp [Expr.same, Expr.values, inner.same_self, query.same_self]
  | hasRows query | subquery query => simp [Expr.same, Expr.values, query.same_self]
  | call name args distinct => simp [Expr.same, Expr.values, Expr.sameList_self args]
  | negation inner | isNull inner | isNotNull inner | named inner _ | grouping inner =>
    simp [Expr.same, Expr.values, inner.same_self]
  | _ => simp [Expr.same, Expr.values]

theorem Expr.sameList_self (es : List Expr) :
    Expr.sameList es es = (Expr.valuesOfList es).all (!·.isNaN) := by
  cases es with
  | nil => simp [Expr.sameList, Expr.valuesOfList]
  | cons e rest =>
    simp [Expr.sameList, Expr.valuesOfList, e.same_self, Expr.sameList_self rest]

theorem Query.same_self (q : Query) : q.same q = q.values.all (!·.isNaN) := by
  obtain ⟨first, rest, order, limit, offset, lock⟩ := q
  simp [Query.same, Query.values, first.same_self, Operand.sameList_self rest,
    SortKey.sameList_self order, Bool.and_assoc]

theorem Select.same_self (s : Select) : s.same s = s.values.all (!·.isNaN) := by
  obtain ⟨quantifier, projections, source, joins, wheres, groups, havings⟩ := s
  cases source with
  | none =>
    simp [Select.same, Select.values, Source.valuesFrom, Expr.sameList_self projections,
      Join.sameList_self joins, Expr.sameList_self wheres, Expr.sameList_self groups,
      Expr.sameList_self havings, Bool.and_assoc]
  | some source =>
    simp [Select.same, Select.values, Source.valuesFrom, Expr.sameList_self projections,
      source.same_self, Join.sameList_self joins, Expr.sameList_self wheres,
      Expr.sameList_self groups, Expr.sameList_self havings, Bool.and_assoc]

theorem Operand.sameList_self (os : List Operand) :
    Operand.sameList os os = (Operand.valuesOfList os).all (!·.isNaN) := by
  cases os with
  | nil => simp [Operand.sameList, Operand.valuesOfList]
  | cons o rest =>
    obtain ⟨op, select⟩ := o
    simp [Operand.sameList, Operand.valuesOfList, select.same_self, Operand.sameList_self rest]

theorem SortKey.sameList_self (ks : List SortKey) :
    SortKey.sameList ks ks = (SortKey.valuesOfList ks).all (!·.isNaN) := by
  cases ks with
  | nil => simp [SortKey.sameList, SortKey.valuesOfList]
  | cons k rest =>
    obtain ⟨expr, direction, nulls⟩ := k
    simp [SortKey.sameList, SortKey.valuesOfList, expr.same_self, SortKey.sameList_self rest]

theorem Source.same_self (s : Source) : s.same s = s.values.all (!·.isNaN) := by
  cases s with
  | subquery query label => simp [Source.same, Source.values, query.same_self]
  | _ => simp [Source.same, Source.values]

theorem Join.sameList_self (js : List Join) :
    Join.sameList js js = (Join.valuesOfList js).all (!·.isNaN) := by
  cases js with
  | nil => simp [Join.sameList, Join.valuesOfList]
  | cons j rest =>
    obtain ⟨kind, source, on⟩ := j
    cases on with
    | none =>
      simp [Join.sameList, Join.valuesOfList, Expr.valuesOn, source.same_self,
        Join.sameList_self rest]
    | some e =>
      simp [Join.sameList, Join.valuesOfList, Expr.valuesOn, source.same_self, e.same_self,
        Join.sameList_self rest, Bool.and_assoc]

end

/-! ## What is done to all queries keeps trees the same -/

/-- The function makes queries the same of queries that are the same. -/
def Query.KeepsSame (f : Query → Query) : Prop :=
  ∀ q q' : Query, q.same q' = true → (f q).same (f q') = true

section Everywhere

variable {f : Query → Query}

mutual

/-- **A function that keeps queries the same keeps trees the same,** applied to all queries in
them. -/
theorem Expr.same_everywhere (hf : Query.KeepsSame f) (e e' : Expr) (h : e.same e' = true) :
    (e.everywhere f).same (e'.everywhere f) = true := by
  -- in each case, only a node of the same kind is left for the other tree
  cases e with
  | binary left op right =>
    cases e' <;> simp [Expr.same] at h
    next left' op' right' =>
      obtain ⟨⟨hleft, rfl⟩, hright⟩ := h
      simp [Expr.everywhere, Expr.same, left.same_everywhere hf left' hleft,
        right.same_everywhere hf right' hright]
  | conj items | disj items =>
    cases e' <;> simp [Expr.same] at h
    next items' =>
      simp [Expr.everywhere, Expr.same, Expr.sameList_everywhere hf items items' h]
  | inList inner items negated =>
    cases e' <;> simp [Expr.same] at h
    next inner' items' negated' =>
      obtain ⟨⟨hinner, hitems⟩, rfl⟩ := h
      simp [Expr.everywhere, Expr.same, inner.same_everywhere hf inner' hinner,
        Expr.sameList_everywhere hf items items' hitems]
  | inQuery inner query negated =>
    cases e' <;> simp [Expr.same] at h
    next inner' query' negated' =>
      obtain ⟨⟨hinner, hquery⟩, rfl⟩ := h
      simp [Expr.everywhere, Expr.same, inner.same_everywhere hf inner' hinner,
        query.same_everywhere hf query' hquery]
  | hasRows query | subquery query =>
    cases e' <;> simp [Expr.same] at h
    next query' => simp [Expr.everywhere, Expr.same, query.same_everywhere hf query' h]
  | call name args distinct =>
    cases e' <;> simp [Expr.same] at h
    next name' args' distinct' =>
      obtain ⟨⟨rfl, hargs⟩, rfl⟩ := h
      simp [Expr.everywhere, Expr.same, Expr.sameList_everywhere hf args args' hargs]
  | named inner name =>
    cases e' <;> simp [Expr.same] at h
    next inner' name' =>
      obtain ⟨hinner, rfl⟩ := h
      simp [Expr.everywhere, Expr.same, inner.same_everywhere hf inner' hinner]
  | negation inner | isNull inner | isNotNull inner | grouping inner =>
    cases e' <;> simp [Expr.same] at h
    next inner' => simp [Expr.everywhere, Expr.same, inner.same_everywhere hf inner' h]
  | _ => cases e' <;> simp_all [Expr.everywhere, Expr.same]
termination_by structural e

theorem Expr.sameList_everywhere (hf : Query.KeepsSame f) (es es' : List Expr)
    (h : Expr.sameList es es' = true) :
    Expr.sameList (Expr.everywhereOfList f es) (Expr.everywhereOfList f es') = true := by
  cases es with
  | nil => cases es' <;> simp_all [Expr.everywhereOfList, Expr.sameList]
  | cons e rest =>
    cases es' <;> simp [Expr.sameList] at h
    next e' rest' =>
      simp [Expr.everywhereOfList, Expr.sameList, e.same_everywhere hf e' h.1,
        Expr.sameList_everywhere hf rest rest' h.2]
termination_by structural es

theorem Query.same_everywhere (hf : Query.KeepsSame f) (q q' : Query) (h : q.same q' = true) :
    (q.everywhere f).same (q'.everywhere f) = true := by
  obtain ⟨first, rest, order, limit, offset, lock⟩ := q
  obtain ⟨first', rest', order', limit', offset', lock'⟩ := q'
  rw [Query.everywhere, Query.everywhere]
  refine hf _ _ ?_
  simp only [Query.same, Bool.and_eq_true] at h ⊢
  obtain ⟨⟨⟨⟨⟨hfirst, hrest⟩, horder⟩, hlimit⟩, hoffset⟩, hlock⟩ := h
  exact ⟨⟨⟨⟨⟨first.same_everywhere hf first' hfirst,
    Operand.sameList_everywhere hf rest rest' hrest⟩,
    SortKey.sameList_everywhere hf order order' horder⟩, hlimit⟩, hoffset⟩, hlock⟩
termination_by structural q

theorem Select.same_everywhere (hf : Query.KeepsSame f) (s s' : Select) (h : s.same s' = true) :
    (s.everywhere f).same (s'.everywhere f) = true := by
  obtain ⟨quantifier, projections, source, joins, wheres, groups, havings⟩ := s
  obtain ⟨quantifier', projections', source', joins', wheres', groups', havings'⟩ := s'
  rw [Select.everywhere.eq_def, Select.everywhere.eq_def]
  rw [Select.same.eq_def] at h ⊢
  simp only [Bool.and_eq_true] at h ⊢
  obtain ⟨⟨⟨⟨⟨⟨hquantifier, hprojections⟩, hsource⟩, hjoins⟩, hwheres⟩, hgroups⟩, hhavings⟩ := h
  refine ⟨⟨⟨⟨⟨⟨hquantifier, Expr.sameList_everywhere hf projections projections' hprojections⟩, ?_⟩,
    Join.sameList_everywhere hf joins joins' hjoins⟩,
    Expr.sameList_everywhere hf wheres wheres' hwheres⟩,
    Expr.sameList_everywhere hf groups groups' hgroups⟩,
    Expr.sameList_everywhere hf havings havings' hhavings⟩
  cases source with
  | none => cases source' <;> simp_all
  | some source =>
    cases source' <;> simp at hsource
    next source' => exact source.same_everywhere hf source' hsource
termination_by structural s

theorem Operand.sameList_everywhere (hf : Query.KeepsSame f) (os os' : List Operand)
    (h : Operand.sameList os os' = true) :
    Operand.sameList (Operand.everywhereOfList f os) (Operand.everywhereOfList f os') = true := by
  cases os with
  | nil => cases os' <;> simp_all [Operand.everywhereOfList, Operand.sameList]
  | cons o rest =>
    cases os' with
    | nil => simp [Operand.sameList] at h
    | cons o' rest' =>
      obtain ⟨op, select⟩ := o
      obtain ⟨op', select'⟩ := o'
      simp only [Operand.everywhereOfList, Operand.sameList, Bool.and_eq_true] at h ⊢
      exact ⟨⟨h.1.1, select.same_everywhere hf select' h.1.2⟩,
        Operand.sameList_everywhere hf rest rest' h.2⟩
termination_by structural os

theorem SortKey.sameList_everywhere (hf : Query.KeepsSame f) (ks ks' : List SortKey)
    (h : SortKey.sameList ks ks' = true) :
    SortKey.sameList (SortKey.everywhereOfList f ks) (SortKey.everywhereOfList f ks') = true := by
  cases ks with
  | nil => cases ks' <;> simp_all [SortKey.everywhereOfList, SortKey.sameList]
  | cons k rest =>
    cases ks' with
    | nil => simp [SortKey.sameList] at h
    | cons k' rest' =>
      obtain ⟨expr, direction, nulls⟩ := k
      obtain ⟨expr', direction', nulls'⟩ := k'
      simp only [SortKey.everywhereOfList, SortKey.sameList, Bool.and_eq_true] at h ⊢
      exact ⟨⟨⟨expr.same_everywhere hf expr' h.1.1.1, h.1.1.2⟩, h.1.2⟩,
        SortKey.sameList_everywhere hf rest rest' h.2⟩
termination_by structural ks

theorem Source.same_everywhere (hf : Query.KeepsSame f) (s s' : Source) (h : s.same s' = true) :
    (s.everywhere f).same (s'.everywhere f) = true := by
  cases s with
  | subquery query label =>
    cases s' <;> simp [Source.same] at h
    next query' label' =>
      simp [Source.everywhere, Source.same, query.same_everywhere hf query' h.1, h.2]
  | _ => cases s' <;> simp_all [Source.everywhere, Source.same]
termination_by structural s

theorem Join.sameList_everywhere (hf : Query.KeepsSame f) (js js' : List Join)
    (h : Join.sameList js js' = true) :
    Join.sameList (Join.everywhereOfList f js) (Join.everywhereOfList f js') = true := by
  cases js with
  | nil => cases js' <;> simp_all [Join.everywhereOfList, Join.sameList]
  | cons j rest =>
    cases js' with
    | nil => simp [Join.sameList] at h
    | cons j' rest' =>
      obtain ⟨kind, source, on⟩ := j
      obtain ⟨kind', source', on'⟩ := j'
      rw [Join.everywhereOfList.eq_def, Join.everywhereOfList.eq_def]
      rw [Join.sameList.eq_def] at h ⊢
      simp only [Bool.and_eq_true] at h ⊢
      obtain ⟨⟨⟨hkind, hsource⟩, hon⟩, hrest⟩ := h
      refine ⟨⟨⟨hkind, source.same_everywhere hf source' hsource⟩, ?_⟩,
        Join.sameList_everywhere hf rest rest' hrest⟩
      cases on with
      | none => cases on' <;> simp_all
      | some e =>
        cases on' <;> simp at hon
        next e' => exact e.same_everywhere hf e' hon
termination_by structural js

end

end Everywhere

/-! ## The rules of the dialect keep queries the same -/

theorem Expr.sameList_append {a a' b b' : List Expr} (ha : Expr.sameList a a' = true)
    (hb : Expr.sameList b b' = true) : Expr.sameList (a ++ b) (a' ++ b') = true := by
  induction a generalizing a' with
  | nil =>
    cases a' with
    | nil => exact hb
    | cons e' rest' => simp [Expr.sameList] at ha
  | cons e rest ih =>
    cases a' with
    | nil => simp [Expr.sameList] at ha
    | cons e' rest' =>
      simp only [Expr.sameList, Bool.and_eq_true] at ha
      simp only [List.cons_append, Expr.sameList, Bool.and_eq_true]
      exact ⟨ha.1, ih ha.2⟩

namespace Marker

/-- Raw projections that are the same have one text, so there is nothing for the marker to tell
apart. -/
theorem strip_same {p p' : Expr} (h : p.same p' = true) :
    marks p = marks p' ∧ Expr.sameList (strip p).toList (strip p').toList = true := by
  cases p with
  | raw sql =>
    cases p' <;> simp [Expr.same] at h
    subst h
    refine ⟨rfl, ?_⟩
    rw [strip_raw]
    split <;> simp [Expr.sameList, Expr.same]
  | _ => cases p' <;> simp_all [Expr.same, Expr.sameList, marks, strip]

theorem sameList_strip {ps ps' : List Expr} (h : Expr.sameList ps ps' = true) :
    ps.any marks = ps'.any marks ∧
      Expr.sameList (ps.filterMap strip) (ps'.filterMap strip) = true := by
  induction ps generalizing ps' with
  | nil => cases ps' <;> simp_all [Expr.sameList]
  | cons p rest ih =>
    cases ps' with
    | nil => simp [Expr.sameList] at h
    | cons p' rest' =>
      simp only [Expr.sameList, Bool.and_eq_true] at h
      obtain ⟨hmarks, hstrip⟩ := strip_same h.1
      obtain ⟨hrest, hstrips⟩ := ih h.2
      have hcons : ∀ (q : Expr) qs, (q :: qs).filterMap strip =
          (strip q).toList ++ qs.filterMap strip := by
        intro q qs
        rw [List.filterMap_cons]
        cases strip q <;> rfl
      rw [List.any_cons, List.any_cons, hmarks, hrest, hcons, hcons]
      exact ⟨rfl, Expr.sameList_append hstrip hstrips⟩

end Marker

namespace Select

/-- What the rules look at, and what they change. -/
theorem same_parts {s s' : Select} (h : s.same s' = true) :
    s.quantifier = s'.quantifier ∧ Expr.sameList s.projections s'.projections = true ∧
      Expr.sameList s.wheres s'.wheres = true := by
  cases s
  cases s'
  rw [same.eq_def] at h
  simp only [Bool.and_eq_true, beq_iff_eq] at h
  exact ⟨h.1.1.1.1.1.1, h.1.1.1.1.1.2, h.1.1.2⟩

theorem same_with {s s' : Select} (h : s.same s' = true) (quantifier : Option Quantifier)
    {projections projections' wheres wheres' : List Expr}
    (hprojections : Expr.sameList projections projections' = true)
    (hwheres : Expr.sameList wheres wheres' = true) :
    Select.same { s with quantifier, projections, wheres }
      { s' with quantifier, projections := projections', wheres := wheres' } = true := by
  cases s
  cases s'
  rw [same.eq_def] at h ⊢
  simp only [Bool.and_eq_true] at h ⊢
  obtain ⟨⟨⟨⟨-, hsource⟩, hjoins⟩, -⟩, hgroups⟩ := h.1
  exact ⟨⟨⟨⟨⟨⟨beq_self_eq_true quantifier, hprojections⟩, hsource⟩, hjoins⟩, hwheres⟩, hgroups⟩, h.2⟩

theorem same_resolveMarkers {s s' : Select} (h : s.same s' = true) :
    s.resolveMarkers.same s'.resolveMarkers = true := by
  obtain ⟨hquantifier, hprojections, hwheres⟩ := same_parts h
  obtain ⟨hmarks, hstrips⟩ := Marker.sameList_strip hprojections
  rw [resolveMarkers, resolveMarkers, hmarks, hquantifier]
  exact same_with h _ hstrips hwheres

end Select

namespace Query

theorem same_iff {q q' : Query} :
    q.same q' = true ↔ q.first.same q'.first = true ∧ Operand.sameList q.rest q'.rest = true ∧
      SortKey.sameList q.order q'.order = true ∧ q.limit = q'.limit ∧ q.offset = q'.offset ∧
      q.lock = q'.lock := by
  cases q
  cases q'
  simp [same, and_assoc]

theorem keepsSame_mapSelects {g : Select → Select}
    (hg : ∀ {s s' : Select}, s.same s' = true → (g s).same (g s') = true) :
    KeepsSame (mapSelects g) := by
  intro q q' h
  obtain ⟨hfirst, hrest, hothers⟩ := same_iff.mp h
  refine same_iff.mpr ⟨hg hfirst, ?_, hothers⟩
  change Operand.sameList (q.rest.map _) (q'.rest.map _) = true
  generalize q.rest = os, q'.rest = os' at hrest
  induction os generalizing os' with
  | nil => cases os' <;> simp_all [Operand.sameList]
  | cons o rest ih =>
    cases os' with
    | nil => simp [Operand.sameList] at hrest
    | cons o' rest' =>
      cases o
      cases o'
      simp only [Operand.sameList, List.map_cons, Bool.and_eq_true] at hrest ⊢
      exact ⟨⟨hrest.1.1, hg hrest.1.2⟩, ih rest' hrest.2⟩

theorem keepsSame_closeZeroLimit : KeepsSame closeZeroLimit := by
  intro q q' h
  have hlimit := (same_iff.mp h).2.2.2.1
  unfold closeZeroLimit
  by_cases hzero : q.limit = some 0
  · rw [if_pos hzero, if_pos (hlimit ▸ hzero)]
    have hnever : Expr.sameList [.never] [.never] = true := by simp [Expr.sameList, Expr.same]
    have hselect : ∀ {s s' : Select}, s.same s' = true →
        Select.same { s with wheres := s.wheres ++ [.never] }
          { s' with wheres := s'.wheres ++ [.never] } = true := by
      intro s s' hs
      obtain ⟨hquantifier, hprojections, hwheres⟩ := Select.same_parts hs
      rw [hquantifier]
      exact Select.same_with hs _ hprojections (Expr.sameList_append hwheres hnever)
    obtain ⟨hfirst, hrest, horder, -, -, hlock⟩ :=
      same_iff.mp (keepsSame_mapSelects hselect q q' h)
    exact same_iff.mpr ⟨hfirst, hrest, horder, rfl, rfl, hlock⟩
  · rw [if_neg hzero, if_neg (hlimit ▸ hzero)]
    exact h

theorem keepsSame_boundOffset : KeepsSame boundOffset := by
  intro q q' h
  obtain ⟨hfirst, hrest, horder, hlimit, hoffset, hlock⟩ := same_iff.mp h
  unfold boundOffset
  by_cases hopen : q.offset.isSome ∧ q.limit = none
  · rw [if_pos hopen, if_pos (hlimit ▸ hoffset ▸ hopen)]
    exact same_iff.mpr ⟨hfirst, hrest, horder, rfl, hoffset, hlock⟩
  · rw [if_neg hopen, if_neg (hlimit ▸ hoffset ▸ hopen)]
    exact h

theorem keepsSame_orderCapped : KeepsSame orderCapped := by
  intro q q' h
  obtain ⟨hfirst, hrest, horder, hlimit, hoffset, hlock⟩ := same_iff.mp h
  have hempty : q.order.isEmpty = q'.order.isEmpty := by
    generalize q.order = ks, q'.order = ks' at horder
    cases ks <;> cases ks' <;> simp_all [SortKey.sameList]
  unfold orderCapped
  by_cases hcapped : q.limit.isSome ∧ q.order.isEmpty
  · rw [if_pos hcapped, if_pos (hlimit ▸ hempty ▸ hcapped)]
    refine same_iff.mpr ⟨hfirst, hrest, ?_, hlimit, hoffset, hlock⟩
    simp [SortKey.sameList, Expr.same]
  · rw [if_neg hcapped, if_neg (hlimit ▸ hempty ▸ hcapped)]
    exact h

theorem keepsSame_dropQuantifiers : KeepsSame dropQuantifiers := by
  intro q q' h
  have hlimit := (same_iff.mp h).2.2.2.1
  unfold dropQuantifiers
  rw [hlimit]
  split
  · refine keepsSame_mapSelects (fun {s s'} hs => ?_) q q' h
    obtain ⟨-, hprojections, hwheres⟩ := Select.same_parts hs
    exact Select.same_with hs none hprojections hwheres
  · exact h

theorem keepsSame_settle : KeepsSame settle := fun q q' h =>
  keepsSame_dropQuantifiers _ _ <| keepsSame_orderCapped _ _ <| keepsSame_boundOffset _ _ <|
    keepsSame_closeZeroLimit _ _ <| keepsSame_mapSelects Select.same_resolveMarkers q q' h

end Query

/-- **Expressions that are the same have normal forms that are the same.** -/
theorem Expr.same_normalize {e e' : Expr} (h : e.same e' = true) :
    e.normalize.same e'.normalize = true :=
  Expr.same_everywhere Query.keepsSame_settle e e' h

end Anywhere
