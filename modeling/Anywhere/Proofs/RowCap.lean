import Anywhere.Proofs.Nesting
import Anywhere.Query.Normal

/-!
# What a row cap looks like in a normal form

The rules for row caps are applied one after the other, and each of them is looked at here by what
it does to the cap and by what the later ones leave of it. Together they say that a query which was
settled obeys the dialect. None of the rules touches what is nested in the query, so the statement
carries over to every query of a tree.
-/

namespace Anywhere

/-- The row cap of the query is one that the dialect accepts. -/
structure Query.ObeysCap (q : Query) : Prop where
  /-- `TOP 0` is refused. -/
  limit_ne_zero : q.limit ≠ some 0
  /-- `START AT` needs a `TOP`. -/
  limited : q.offset.isSome → q.limit.isSome
  /-- `TOP` needs an order. -/
  ordered : q.limit.isSome → q.order ≠ []
  /-- `TOP 1` does not go together with `DISTINCT`. -/
  unquantified : q.limit = some 1 → ∀ s ∈ q.selects, s.quantifier = none

/-- The query has no row cap and no rows: the last predicate of each of its selects never holds. -/
structure Query.Closed (q : Query) : Prop where
  limit_eq : q.limit = none
  offset_eq : q.offset = none
  never : ∀ s ∈ q.selects, s.wheres.getLast? = some .never

namespace Query

/-! ## Single rules -/

@[simp] theorem offset_boundOffset (q : Query) : q.boundOffset.offset = q.offset := by
  unfold boundOffset
  split <;> rfl

@[simp] theorem offset_orderCapped (q : Query) : q.orderCapped.offset = q.offset := by
  unfold orderCapped
  split <;> rfl

@[simp] theorem offset_dropQuantifiers (q : Query) : q.dropQuantifiers.offset = q.offset := by
  unfold dropQuantifiers
  split <;> rfl

@[simp] theorem order_closeZeroLimit (q : Query) : q.closeZeroLimit.order = q.order := by
  unfold closeZeroLimit
  split <;> rfl

@[simp] theorem order_boundOffset (q : Query) : q.boundOffset.order = q.order := by
  unfold boundOffset
  split <;> rfl

@[simp] theorem order_dropQuantifiers (q : Query) : q.dropQuantifiers.order = q.order := by
  unfold dropQuantifiers
  split <;> rfl

@[simp] theorem selects_boundOffset (q : Query) : q.boundOffset.selects = q.selects := by
  unfold boundOffset
  split <;> rfl

@[simp] theorem selects_orderCapped (q : Query) : q.orderCapped.selects = q.selects := by
  unfold orderCapped
  split <;> rfl

theorem offset_closeZeroLimit (q : Query) :
    q.closeZeroLimit.offset = if q.limit = some 0 then none else q.offset := by
  unfold closeZeroLimit
  split <;> rfl

theorem order_orderCapped (q : Query) :
    q.orderCapped.order =
      if q.limit.isSome ∧ q.order.isEmpty then [⟨.raw "1", .ascending, none⟩] else q.order := by
  unfold orderCapped
  split <;> rfl

theorem selects_closeZeroLimit (q : Query) :
    q.closeZeroLimit.selects = q.selects.map fun s =>
      { s with wheres := if q.limit = some 0 then s.wheres ++ [.never] else s.wheres } := by
  unfold closeZeroLimit
  split
  · simp [selects, mapSelects, Function.comp_def]
  · exact (List.map_id'' (fun s => by cases s; rfl) q.selects).symm

theorem selects_dropQuantifiers (q : Query) :
    q.dropQuantifiers.selects = q.selects.map fun s =>
      { s with quantifier := if q.limit = some 1 then none else s.quantifier } := by
  unfold dropQuantifiers
  split
  · exact q.selects_mapSelects _
  · exact (List.map_id'' (fun s => by cases s; rfl) q.selects).symm

/-! ## All rules together -/

theorem limit_settle (q : Query) :
    q.settle.limit =
      if q.limit = some 0 then none
      else if q.offset.isSome ∧ q.limit = none then some unboundedLimit else q.limit := by
  unfold settle
  rw [limit_dropQuantifiers, limit_orderCapped, limit_boundOffset, limit_closeZeroLimit,
    offset_closeZeroLimit, limit_mapSelects, offset_mapSelects]
  by_cases h : q.limit = some 0
  · simp [h]
  · simp [h]

theorem offset_settle (q : Query) :
    q.settle.offset = if q.limit = some 0 then none else q.offset := by
  unfold settle
  rw [offset_dropQuantifiers, offset_orderCapped, offset_boundOffset, offset_closeZeroLimit]
  rfl

theorem order_settle (q : Query) :
    q.settle.order =
      if q.settle.limit.isSome ∧ q.order.isEmpty then [⟨.raw "1", .ascending, none⟩]
      else q.order := by
  unfold settle
  rw [order_dropQuantifiers, order_orderCapped, order_boundOffset, order_closeZeroLimit,
    order_mapSelects, limit_dropQuantifiers, limit_orderCapped]

/-- What the rules make of a select, `limit` being the limit in the beginning and `cap` the one in
the end. -/
def settledSelect (limit cap : Option UInt64) (s : Select) : Select :=
  { s.resolveMarkers with
    quantifier := if cap = some 1 then none else s.resolveMarkers.quantifier
    wheres := if limit = some 0 then s.wheres ++ [.never] else s.wheres }

theorem selects_settle (q : Query) :
    q.settle.selects = q.selects.map (settledSelect q.limit q.settle.limit) := by
  have hlimit : q.settle.limit =
      (q.mapSelects Select.resolveMarkers).closeZeroLimit.boundOffset.orderCapped.limit :=
    limit_dropQuantifiers _
  rw [hlimit]
  unfold settle
  rw [selects_dropQuantifiers, selects_orderCapped, selects_boundOffset, selects_closeZeroLimit,
    selects_mapSelects, List.map_map, List.map_map]
  rfl

theorem obeysCap_settle (q : Query) : q.settle.ObeysCap := by
  constructor
  case limit_ne_zero =>
    rw [limit_settle]
    split
    · nofun
    · split
      · decide
      · assumption
  case limited =>
    rw [limit_settle, offset_settle]
    intro h
    by_cases hz : q.limit = some 0
    · -- the offset went with the limit
      simp [hz] at h
    · rw [if_neg hz] at h
      rw [if_neg hz]
      cases hl : q.limit with
      | none => simp [h]
      | some n => simp
  case ordered =>
    intro h
    rw [order_settle]
    cases q.order with
    | nil => simp [h]
    | cons k rest => simp
  case unquantified =>
    -- the quantifiers are dropped last, behind all that could set a limit or a quantifier
    intro h s hs
    rw [selects_settle] at hs
    obtain ⟨s', -, rfl⟩ := List.mem_map.mp hs
    simp [settledSelect, h]

theorem closed_settle {q : Query} (h : q.limit = some 0) : q.settle.Closed := by
  constructor
  case limit_eq => simp [limit_settle, h]
  case offset_eq => simp [offset_settle, h]
  case never =>
    rw [selects_settle]
    simp [settledSelect, h]

/-! ## The rules leave alone what is nested -/

theorem queriesOfList_append (a b : List Expr) :
    Expr.queriesOfList (a ++ b) = Expr.queriesOfList a ++ Expr.queriesOfList b := by
  simp only [Expr.queriesOfList_eq_flatMap, List.flatMap_append]

/-- A projection that is left out has no queries in it, and one that is changed has the same. -/
theorem queries_strip (p : Expr) : (Marker.strip p).elim [] Expr.queries = p.queries := by
  cases p with
  | raw sql =>
    rw [Marker.strip_raw]
    split <;> rfl
  | _ => rfl

theorem queriesOfList_strip (projections : List Expr) :
    Expr.queriesOfList (projections.filterMap Marker.strip) = Expr.queriesOfList projections := by
  induction projections with
  | nil => rfl
  | cons p rest ih =>
    have hp := queries_strip p
    rw [List.filterMap_cons, Expr.queriesOfList, ← hp, ← ih]
    cases Marker.strip p with
    | none => rfl
    | some p' => rw [Expr.queriesOfList]; rfl

theorem queries_settledSelect (limit cap : Option UInt64) (s : Select) :
    (settledSelect limit cap s).queries = s.queries := by
  obtain ⟨quantifier, projections, source, joins, wheres, groups, havings⟩ := s
  unfold settledSelect Select.resolveMarkers
  simp only [Select.queries, queriesOfList_strip]
  split
  · rw [queriesOfList_append]
    simp [Expr.queriesOfList, Expr.queries]
  · rfl

theorem inner_settle (q : Query) : q.settle.inner = q.inner := by
  rw [inner_eq, inner_eq, selects_settle, List.flatMap_map, order_settle]
  -- the sort key that may be added is raw SQL
  congr 1
  · exact congrArg (q.selects.flatMap ·) (funext fun s => queries_settledSelect _ _ s)
  · split
    · next h => rw [List.isEmpty_iff.mp h.2]; rfl
    · rfl

/-! ## Every query of a tree -/

theorem all_normalize (q : Query) : q.normalize.all = q.all.map normalize :=
  q.all_everywhere inner_settle

/-- The selects of a normal form, one by one. -/
theorem selects_normalize (q : Query) :
    q.normalize.selects =
      q.selects.map fun s => settledSelect q.limit q.normalize.limit (s.everywhere settle) := by
  rw [normalize, everywhere_eq, selects_settle, selects_inside, List.map_map]
  rfl

theorem obeysCap_normalize (q : Query) : q.normalize.ObeysCap := by
  rw [normalize, everywhere_eq]
  exact obeysCap_settle _

/-- **The rules hold in every query of a normal form.** The queries of the normal form are the
normal forms of the queries of the tree; each obeys the dialect, and one whose limit was zero is
closed. -/
theorem normalize_all_obeyCap (q : Query) :
    q.normalize.all = q.all.map normalize ∧
    (∀ t ∈ q.normalize.all, t.ObeysCap) ∧
    ∀ t ∈ q.all, t.limit = some 0 → t.normalize.Closed := by
  refine ⟨q.all_normalize, fun t ht => ?_, fun t _ hzero => ?_⟩
  · rw [all_normalize] at ht
    obtain ⟨u, -, rfl⟩ := List.mem_map.mp ht
    exact u.obeysCap_normalize
  · rw [normalize, everywhere_eq]
    exact closed_settle hzero

end Query

end Anywhere
