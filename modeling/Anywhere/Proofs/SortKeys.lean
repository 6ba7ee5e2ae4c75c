import Anywhere.Proofs.Markers
import Anywhere.Proofs.Sameness
import Anywhere.Query.Distinct

/-!
# Sort keys and projections

The server wants every sort key of a distinct query among its projections, and those that are not
there are added. Adding them once is enough: a key that was added is recognized under its new name,
since names do not count on either side (`Query.projectSortKeys_projectSortKeys`).

Whether the server gets what it wants is settled later, when markers have become quantifiers. Two
things are overlooked until then, and `Query.sortsByProjections_iff` says that there is nothing
else. A query that is distinct only by a marker gets no keys; and a key that looks like a marked
projection is not its key any more when the projection has lost the marker.
-/

namespace Anywhere

/-! ## Names do not count -/

namespace Expr

theorem unaliased_unaliased (e : Expr) : e.unaliased.unaliased = e.unaliased := by
  cases e with
  | named inner name => exact inner.unaliased_unaliased
  | _ => rfl

theorem unaliased_everywhere (f : Query → Query) (e : Expr) :
    (e.everywhere f).unaliased = e.unaliased.everywhere f := by
  cases e with
  | named inner name => exact inner.unaliased_everywhere f
  | _ => rfl

theorem values_unaliased (e : Expr) : e.unaliased.values = e.values := by
  cases e with
  | named inner name => exact inner.values_unaliased
  | _ => rfl

end Expr

/-! ## Projected expressions -/

namespace Select

/-- The select projects all columns or, names aside, the expression. -/
def Projects (s : Select) (e : Expr) : Prop :=
  .star ∈ s.projections ∨ ∃ p ∈ s.projections, p.unaliased.same e.unaliased = true

theorem projects_iff (s : Select) (e : Expr) : s.projects e = true ↔ s.Projects e := by
  have hstar : ∀ p : Expr, p.same .star = true ↔ p = .star := by
    intro p
    cases p <;> simp [Expr.same]
  simp only [projects, Projects, List.any_eq_true, Bool.or_eq_true, hstar]
  constructor
  · rintro ⟨p, hp, rfl | hsame⟩
    · exact .inl hp
    · exact .inr ⟨p, hp, hsame⟩
  · rintro (hp | ⟨p, hp, hsame⟩)
    · exact ⟨_, hp, .inl rfl⟩
    · exact ⟨p, hp, .inr hsame⟩

instance (s : Select) (e : Expr) : Decidable (s.Projects e) :=
  decidable_of_iff _ (s.projects_iff e)

end Select

namespace Query

/-- What the server asks of a distinct query: each sort key is projected. -/
def SortsByProjections (q : Query) : Prop :=
  q.first.quantifier = some .distinct → ∀ k ∈ q.order, q.first.Projects k.expr

/-- No value in a sort key is a double that is no number. A key with such a value would be missed
wherever it is projected. -/
def HasComparableKeys (q : Query) : Prop := ∀ k ∈ q.order, ∀ v ∈ k.expr.values, v.isNaN = false

instance (q : Query) : Decidable q.HasComparableKeys := List.decidableBAll _ q.order

theorem same_sortKey {q : Query} (hq : q.HasComparableKeys) {k : SortKey} (hk : k ∈ q.order) :
    k.expr.unaliased.same k.expr.unaliased = true := by
  rw [Expr.same_self, Expr.values_unaliased, List.all_eq_true]
  intro v hv
  rw [hq k hk v hv]
  rfl

/-! ## Adding the keys -/

theorem projectSortKeys_of_missing {q : Query} (hdistinct : q.first.quantifier = some .distinct)
    {k : SortKey} (hk : k ∈ q.order) (hmissing : ¬ q.first.Projects k.expr) :
    q.projectSortKeys = { q with
      first := { q.first with projections := withSortKeys q.first.projections q.order } } := by
  refine if_pos ⟨hdistinct, ?_⟩
  rw [Bool.not_eq_true', List.all_eq_false]
  exact ⟨k, hk, mt (q.first.projects_iff k.expr).mp hmissing⟩

theorem projectSortKeys_eq_self {q : Query}
    (h : q.first.quantifier = some .distinct → ∀ k ∈ q.order, q.first.Projects k.expr) :
    q.projectSortKeys = q := by
  refine if_neg ?_
  rintro ⟨hdistinct, hmissing⟩
  rw [Bool.not_eq_true', List.all_eq_false] at hmissing
  obtain ⟨k, hk, hmissing⟩ := hmissing
  exact hmissing ((q.first.projects_iff k.expr).mpr (h hdistinct k hk))

@[simp] theorem order_projectSortKeys (q : Query) : q.projectSortKeys.order = q.order := by
  unfold projectSortKeys
  split <;> rfl

@[simp] theorem limit_projectSortKeys (q : Query) : q.projectSortKeys.limit = q.limit := by
  unfold projectSortKeys
  split <;> rfl

@[simp] theorem quantifier_projectSortKeys (q : Query) :
    q.projectSortKeys.first.quantifier = q.first.quantifier := by
  unfold projectSortKeys
  split <;> rfl

/-- Each key that is added goes by a name of its own. -/
theorem exists_named_mem_withSortKeys (projections : List Expr) {order : List SortKey}
    {k : SortKey} (hk : k ∈ order) :
    ∃ name, Expr.named k.expr.unaliased name ∈ withSortKeys projections order := by
  obtain ⟨i, hi, rfl⟩ := List.getElem_of_mem hk
  have hkey : (order[i], i) ∈ order.zipIdx :=
    List.mem_zipIdx_iff_getElem?.mpr (List.getElem?_eq_getElem hi)
  exact ⟨SortKey.projectedName i, List.mem_append_right _ (List.mem_map.mpr ⟨_, hkey, rfl⟩)⟩

/-- Behind the pass the query sorts by its projections, markers aside. -/
theorem sortsByProjections_projectSortKeys {q : Query} (hq : q.HasComparableKeys) :
    q.projectSortKeys.SortsByProjections := by
  intro hdistinct k hk
  rw [quantifier_projectSortKeys] at hdistinct
  rw [order_projectSortKeys] at hk
  by_cases hall : ∀ k ∈ q.order, q.first.Projects k.expr
  · rw [projectSortKeys_eq_self fun _ => hall]
    exact hall k hk
  · push Not at hall
    obtain ⟨k', hk', hmissing⟩ := hall
    rw [projectSortKeys_of_missing hdistinct hk' hmissing]
    obtain ⟨name, hname⟩ := exists_named_mem_withSortKeys q.first.projections hk
    refine .inr ⟨_, hname, ?_⟩
    rw [Expr.unaliased, Expr.unaliased_unaliased]
    exact same_sortKey hq hk

/-- **Projecting the sort keys a second time changes nothing,** and the first time it does no more
than to add projections behind those of the first select. -/
theorem projectSortKeys_projectSortKeys {q : Query} (hq : q.HasComparableKeys) :
    q.projectSortKeys.projectSortKeys = q.projectSortKeys ∧
      ∃ added, q.projectSortKeys = { q with
        first := { q.first with projections := q.first.projections ++ added } } := by
  refine ⟨projectSortKeys_eq_self (sortsByProjections_projectSortKeys hq), ?_⟩
  unfold projectSortKeys
  split
  · exact ⟨_, rfl⟩
  · refine ⟨[], ?_⟩
    obtain ⟨⟨⟩, rest, order, limit, offset, lock⟩ := q
    simp

/-- Distinct numbers by a column that is projected under another name, and by one that is not. -/
def numbersByDay : Query :=
  { first := { Select.empty with
      quantifier := some .distinct
      projections := [.named (.column none "number") "n"]
      source := some (.table "orders" none) }
    rest := []
    order := [⟨.column none "number", .descending, none⟩,
      ⟨.named (.column none "day") "d", .ascending, none⟩]
    limit := some 10
    offset := none
    lock := none }

theorem projectSortKeys_numbersByDay :
    numbersByDay.HasComparableKeys ∧
      numbersByDay.projectSortKeys.projectSortKeys = numbersByDay.projectSortKeys ∧
      ∃ added, numbersByDay.projectSortKeys = { numbersByDay with
        first := { numbersByDay.first with
          projections := numbersByDay.first.projections ++ added } } := by
  have hcomparable : numbersByDay.HasComparableKeys := by decide
  exact ⟨hcomparable, projectSortKeys_projectSortKeys hcomparable⟩

/-! ## Behind the rules of the dialect -/

theorem first_normalize (q : Query) :
    q.normalize.first = settledSelect q.limit q.normalize.limit (q.first.everywhere settle) :=
  (List.cons.inj q.selects_normalize).1

theorem quantifier_first_normalize {q : Query} (hlimit : q.limit ≠ some 1) :
    q.normalize.first.quantifier =
      if q.first.projections.any Marker.marks then some .distinct else q.first.quantifier := by
  rw [first_normalize, quantifier_settledSelect_normalize, if_neg hlimit]

theorem mem_projections_normalize {q : Query} {p p' : Expr} (hp : p ∈ q.first.projections)
    (hstrip : Marker.strip p.normalize = some p') : p' ∈ q.normalize.first.projections := by
  rw [first_normalize, projections_settledSelect_normalize]
  exact List.mem_filterMap.mpr ⟨p, hp, hstrip⟩

theorem order_normalize {q : Query} (h : q.order ≠ []) :
    q.normalize.order = q.order.map fun k => ⟨k.expr.normalize, k.direction, k.nulls⟩ := by
  have hinside : (q.inside settle).order = q.order.map fun k =>
      ⟨k.expr.normalize, k.direction, k.nulls⟩ := SortKey.everywhereOfList_eq_map settle q.order
  rw [normalize, everywhere_eq, order_settle_of_ordered, hinside]
  rw [hinside]
  simpa using h

/-- A projection that is not marked goes on projecting what it did. -/
theorem projects_normalize_of_mem {q : Query} {p e : Expr} (hp : p ∈ q.first.projections)
    (hunmarked : Marker.marks p = false) (hsame : p.unaliased.same e.unaliased = true) :
    q.normalize.first.Projects e.normalize := by
  have hmarks : Marker.marks p.normalize = false := by
    cases p with
    | raw sql => exact hunmarked
    | _ => rfl
  refine .inr ⟨_, mem_projections_normalize hp ((Marker.strip_eq_some_self_iff _).mpr hmarks), ?_⟩
  rw [Expr.normalize, Expr.normalize, Expr.unaliased_everywhere, Expr.unaliased_everywhere]
  exact Expr.same_normalize hsame

/-- An expression that is projected and does not look like a marked projection stays projected. -/
theorem projects_normalize {q : Query} {e : Expr} (h : q.first.Projects e)
    (hunmarked : Marker.marks e.unaliased = false) : q.normalize.first.Projects e.normalize := by
  obtain hstar | ⟨p, hp, hsame⟩ := h
  · exact .inl (mem_projections_normalize hstar rfl)
  · refine projects_normalize_of_mem hp ?_ hsame
    rw [← (Marker.strip_same hsame).1] at hunmarked
    cases p with
    | raw sql => exact hunmarked
    | _ => rfl

/-- The ways in which a sort key is overlooked. -/
inductive OverlooksSortKey (q : Query) : Prop where
  /-- Only a marker makes the first select distinct, so that no keys are added. -/
  | ofMarker {p : Expr} {k : SortKey} : q.first.quantifier ≠ some .distinct →
      p ∈ q.first.projections → Marker.marks p = true → k ∈ q.order →
      ¬ q.normalize.first.Projects k.expr.normalize → OverlooksSortKey q
  /-- The key looks like a marked projection, which is there as long as it is marked. -/
  | ofMarkedKey {k : SortKey} : q.first.quantifier = some .distinct →
      (∀ k ∈ q.order, q.first.Projects k.expr) → k ∈ q.order →
      Marker.marks k.expr.unaliased = true →
      ¬ q.normalize.first.Projects k.expr.normalize → OverlooksSortKey q

/-- A key that is overlooked is missing: nothing was added for it. -/
theorem OverlooksSortKey.not_sortsByProjections {q : Query} (hlimit : q.limit ≠ some 1)
    (h : q.OverlooksSortKey) : ¬ q.projectSortKeys.normalize.SortsByProjections := by
  obtain ⟨hquantifier, hdistinct, k, hk, hmissing⟩ : q.projectSortKeys = q ∧
      q.normalize.first.quantifier = some .distinct ∧
      ∃ k ∈ q.order, ¬ q.normalize.first.Projects k.expr.normalize := by
    rw [quantifier_first_normalize hlimit]
    cases h with
    | @ofMarker p k hquantifier hp hmarks hk hmissing =>
      refine ⟨projectSortKeys_eq_self fun hdistinct => absurd hdistinct hquantifier, ?_,
        k, hk, hmissing⟩
      rw [if_pos (List.any_eq_true.mpr ⟨p, hp, hmarks⟩)]
    | @ofMarkedKey k hquantifier hall hk hmarks hmissing =>
      refine ⟨projectSortKeys_eq_self fun _ => hall, ?_, k, hk, hmissing⟩
      rw [hquantifier, ite_self]
  intro hsorts
  rw [hquantifier] at hsorts
  have hkey : (⟨k.expr.normalize, k.direction, k.nulls⟩ : SortKey) ∈ q.normalize.order := by
    rw [order_normalize (List.ne_nil_of_mem hk)]
    exact List.mem_map.mpr ⟨k, hk, rfl⟩
  exact hmissing (hsorts hdistinct _ hkey)

/-- **The sort keys of a distinct query are projected in its normal form** unless one of them was
overlooked. -/
theorem sortsByProjections_iff {q : Query} (horder : q.order ≠ []) (hq : q.HasComparableKeys)
    (hlimit : q.limit ≠ some 1) :
    q.projectSortKeys.normalize.SortsByProjections ↔ ¬ q.OverlooksSortKey := by
  refine ⟨fun hsorts h => h.not_sortsByProjections hlimit hsorts, fun hnot hdistinct k' hk' => ?_⟩
  have horder' : q.projectSortKeys.order ≠ [] := by rwa [order_projectSortKeys]
  rw [order_normalize horder', order_projectSortKeys] at hk'
  obtain ⟨k, hk, rfl⟩ := List.mem_map.mp hk'
  by_cases hquantifier : q.first.quantifier = some .distinct
  · by_cases hall : ∀ k ∈ q.order, q.first.Projects k.expr
    · rw [projectSortKeys_eq_self fun _ => hall]
      by_cases hmarks : Marker.marks k.expr.unaliased = true
      · by_contra hmissing
        exact hnot (.ofMarkedKey hquantifier hall hk hmarks hmissing)
      · exact projects_normalize (hall k hk) (Bool.eq_false_iff.mpr hmarks)
    · -- the keys were added under names, and names are never marked
      push Not at hall
      obtain ⟨k₁, hk₁, hmissing⟩ := hall
      rw [projectSortKeys_of_missing hquantifier hk₁ hmissing]
      obtain ⟨name, hname⟩ := exists_named_mem_withSortKeys q.first.projections hk
      refine projects_normalize_of_mem hname rfl ?_
      rw [Expr.unaliased, Expr.unaliased_unaliased]
      exact same_sortKey hq hk
  · have hself := projectSortKeys_eq_self fun hdistinct => absurd hdistinct hquantifier
    rw [hself, quantifier_first_normalize hlimit] at hdistinct
    rw [hself]
    by_contra hmissing
    split at hdistinct
    · next hmarked =>
      obtain ⟨p, hp, hmarks⟩ := List.any_eq_true.mp hmarked
      exact hnot (.ofMarker hquantifier hp hmarks hk hmissing)
    · exact hquantifier hdistinct

/-- The names of users in the order in which they came. The raw projection is marked. -/
def namesByAge (quantifier : Option Quantifier) : Query :=
  { first := { Select.empty with
      quantifier := quantifier
      projections := [.raw "DISTINCT name"]
      source := some (.table "users" none) }
    rest := []
    order := [⟨.column none "created_at", .ascending, none⟩]
    limit := none
    offset := none
    lock := none }

theorem not_projects_namesByAge {quantifier : Option Quantifier} :
    ¬ (namesByAge quantifier).first.Projects (.column none "created_at") := by
  simp [namesByAge, Select.Projects, Expr.unaliased, Expr.same]

/-- With the quantifier the key is added, and there it is in the normal form. -/
theorem sortsByProjections_namesByAge :
    (namesByAge (some .distinct)).order ≠ [] ∧ (namesByAge (some .distinct)).HasComparableKeys ∧
      (namesByAge (some .distinct)).limit ≠ some 1 ∧
      (namesByAge (some .distinct)).projectSortKeys.normalize.SortsByProjections := by
  have horder : (namesByAge (some .distinct)).order ≠ [] := List.cons_ne_nil _ _
  have hcomparable : (namesByAge (some .distinct)).HasComparableKeys := by decide
  have hlimit : (namesByAge (some .distinct)).limit ≠ some 1 := nofun
  refine ⟨horder, hcomparable, hlimit, (sortsByProjections_iff horder hcomparable hlimit).mpr ?_⟩
  intro hoverlooks
  cases hoverlooks with
  | ofMarker hquantifier => exact hquantifier rfl
  | ofMarkedKey _ hall => exact not_projects_namesByAge (hall _ List.mem_cons_self)

/-- With the marker alone the query is just as distinct, and the key is missing. -/
theorem not_sortsByProjections_namesByAge :
    (namesByAge none).order ≠ [] ∧ (namesByAge none).HasComparableKeys ∧
      (namesByAge none).limit ≠ some 1 ∧
      ¬ (namesByAge none).projectSortKeys.normalize.SortsByProjections := by
  refine ⟨List.cons_ne_nil _ _, by decide, nofun, ?_⟩
  have hself : (namesByAge none).projectSortKeys = namesByAge none :=
    projectSortKeys_eq_self nofun
  intro hsorts
  rw [hself] at hsorts
  have hkey := hsorts rfl ⟨.column none "created_at", .ascending, none⟩ List.mem_cons_self
  have hprojections : (namesByAge none).normalize.first.projections = [.raw "name"] := rfl
  simp [Select.Projects, hprojections, Expr.unaliased, Expr.same] at hkey

end Query

end Anywhere
