import Anywhere.Proofs.Idempotence
import Mathlib.Data.List.Basic

/-!
# The rows of a page

A query with a row cap asks for one page of what its select yields: duplicates are removed if the
select is distinct, then `offset` rows are skipped, and of the others the first `limit` are taken.
This file says which rows those are, whatever the select yields, and compares a query with its
normal form.

Four of the rules leave the page alone. The fifth drops `DISTINCT` where only one row is asked for,
and that is harmless as long as the page begins with the first row, which is the same with and
without duplicates. A page of one row further behind begins at another row when the duplicates in
front of it are counted. `Query.rows_normalize_iff` says that this is the only way to lose a row.
-/

namespace Anywhere

/-- A select is distinct by its quantifier or by a marker in front of a projection. -/
def Select.isDistinct (s : Select) : Bool :=
  s.quantifier == some .distinct || s.projections.any Marker.marks

/-- What selects yield in some order, before duplicates are removed and before the cap. -/
structure RowSource (ρ : Type) where
  rows : List SortKey → Select → List ρ
  /-- A predicate that never holds leaves no rows. -/
  rows_never : ∀ order s, .never ∈ s.wheres → rows order s = []
  /-- Quantifiers are no concern of it, -/
  rows_quantifier : ∀ order s quantifier, rows order { s with quantifier } = rows order s
  /-- and neither are markers. -/
  rows_strip : ∀ order s,
    rows order { s with projections := s.projections.filterMap Marker.strip } = rows order s

/-- The rows that are left when `offset` of them are skipped and at most `limit` are taken. -/
def page (limit offset : Option UInt64) (rows : List ρ) : List ρ :=
  let rest := rows.drop (offset.elim 0 UInt64.toNat)
  match limit with
  | none => rest
  | some n => rest.take n.toNat

/-- The rows of a query of one select. Of equal rows a distinct select keeps the first. -/
def Query.rows [DecidableEq ρ] (source : RowSource ρ) (q : Query) : List ρ :=
  let yielded := source.rows q.order q.first
  page q.limit q.offset (if q.first.isDistinct then yielded.eraseDups else yielded)

/-- A query of one select, with an order of its own and without queries in it. -/
structure Query.Plain (q : Query) : Prop where
  single : q.rest = []
  ordered : q.order ≠ []
  flat : q.inner = []

/-- The query asks for one row behind others that are distinct, and does so without `DISTINCT` when
it is normalized. -/
structure Query.LosesDistinct (q : Query) : Prop where
  limit_eq : q.limit = some 1
  /-- Some rows are skipped, but fewer than there may be. -/
  skips : ∃ m, q.offset = some m ∧ 0 < m ∧ m < Query.unboundedLimit
  distinct : q.first.isDistinct = true
  /-- No marker is left behind. -/
  stripped : ∀ p ∈ q.first.projections, Marker.doubled p = false
  /-- There may be rows. -/
  satisfiable : .never ∉ q.first.wheres

/-! ## Lists without duplicates -/

section Lists

variable {ρ : Type} [DecidableEq ρ]

theorem length_eraseDups_le : ∀ l : List ρ, l.eraseDups.length ≤ l.length
  | [] => by simp
  | a :: rest => by
    have hfilter := List.length_filter_le (fun b => !b == a) rest
    have hrest := length_eraseDups_le (rest.filter fun b => !b == a)
    rw [List.eraseDups_cons, List.length_cons, List.length_cons]
    omega
termination_by l => l.length
decreasing_by
  rw [List.length_cons]
  omega

theorem take_one_eraseDups (l : List ρ) : l.eraseDups.take 1 = l.take 1 := by
  cases l with
  | nil => rfl
  | cons a rest => rw [List.eraseDups_cons]; rfl

theorem eraseDups_replicate (a : ρ) (n : Nat) : (List.replicate (n + 1) a).eraseDups = [a] := by
  rw [List.replicate_succ, List.eraseDups_cons, List.filter_replicate_of_neg (by simp)]
  rfl

end Lists

/-! ## Pages -/

section Page

variable {ρ : Type}

@[simp] theorem page_nil (limit offset : Option UInt64) : page limit offset ([] : List ρ) = [] := by
  cases limit <;> simp [page]

theorem page_zero (offset : Option UInt64) (l : List ρ) : page (some 0) offset l = [] := by
  simp [page]

/-- A page that begins behind the last row is empty. -/
theorem page_eq_nil {limit : Option UInt64} {m : UInt64} {l : List ρ} (h : l.length ≤ m.toNat) :
    page limit (some m) l = [] := by
  have hdrop : l.drop m.toNat = [] := List.drop_eq_nil_of_le h
  cases limit with
  | none => exact hdrop
  | some n => simp [page, hdrop]

/-- The largest limit is as good as none. -/
theorem page_unbounded {offset : Option UInt64} {l : List ρ}
    (h : l.length ≤ Query.unboundedLimit.toNat) :
    page (some Query.unboundedLimit) offset l = page none offset l := by
  refine List.take_of_length_le ?_
  rw [List.length_drop]
  omega

/-- The first row of all is the first one without duplicates. -/
theorem page_one_eraseDups [DecidableEq ρ] {offset : Option UInt64} (l : List ρ)
    (h : offset = none ∨ offset = some 0) :
    page (some 1) offset l.eraseDups = page (some 1) offset l := by
  have htake := take_one_eraseDups l
  rcases h with rfl | rfl
  · exact htake
  · exact htake

end Page

/-! ## The markers that are left -/

theorem Marker.marks_of_doubled {p : Expr} (h : doubled p = true) : marks p = true := by
  cases p with
  | raw sql =>
    rw [doubled] at h
    rw [marks]
    cases hrest : rest? sql.toList with
    | none =>
      rw [hrest] at h
      exact absurd h Bool.false_ne_true
    | some rest => rfl
  | _ => exact absurd h Bool.false_ne_true

theorem any_marks_filterMap_strip (projections : List Expr) :
    (projections.filterMap Marker.strip).any Marker.marks = projections.any Marker.doubled := by
  rw [Bool.eq_iff_iff, List.any_eq_true, List.any_eq_true]
  constructor
  · rintro ⟨p', hp', hmarks⟩
    obtain ⟨p, hp, hstrip⟩ := List.mem_filterMap.mp hp'
    exact ⟨p, hp, (Marker.marks_of_strip hstrip).symm.trans hmarks⟩
  · rintro ⟨p, hp, hdoubled⟩
    obtain ⟨p', hstrip⟩ := Marker.exists_strip_of_doubled hdoubled
    exact ⟨p', List.mem_filterMap.mpr ⟨p, hp, hstrip⟩,
      (Marker.marks_of_strip hstrip).trans hdoubled⟩

theorem any_marks_of_any_doubled {projections : List Expr}
    (h : projections.any Marker.doubled = true) : projections.any Marker.marks = true := by
  obtain ⟨p, hp, hdoubled⟩ := List.any_eq_true.mp h
  exact List.any_eq_true.mpr ⟨p, hp, Marker.marks_of_doubled hdoubled⟩

namespace Query

/-! ## What is left of the select -/

/-- A select that was settled is distinct if it was before and `DISTINCT` was not dropped, or if
the marker of a projection that had two is still there. -/
theorem isDistinct_settledSelect (limit cap : Option UInt64) (s : Select) :
    (settledSelect limit cap s).isDistinct =
      ((cap != some 1 && s.isDistinct) || s.projections.any Marker.doubled) := by
  have hmarks : (settledSelect limit cap s).projections.any Marker.marks =
      s.projections.any Marker.doubled := any_marks_filterMap_strip s.projections
  rw [Select.isDistinct, hmarks]
  congr 1
  by_cases hcap : cap = some 1
  · simp [settledSelect, hcap]
  · by_cases hmarked : s.projections.any Marker.marks = true
    · simp [settledSelect, hcap, Select.resolveMarkers, Select.isDistinct, hmarked]
    · simp [settledSelect, hcap, Select.resolveMarkers, Select.isDistinct, hmarked]

theorem rows_settledSelect {ρ : Type} (source : RowSource ρ) (order : List SortKey)
    (limit cap : Option UInt64) (s : Select) :
    source.rows order (settledSelect limit cap s) =
      if limit = some 0 then [] else source.rows order s := by
  by_cases hzero : limit = some 0
  · rw [if_pos hzero]
    refine source.rows_never order _ ?_
    simp [settledSelect, hzero]
  · have hsettled : settledSelect limit cap s =
        { ({ s with projections := s.projections.filterMap Marker.strip } : Select) with
          quantifier := if cap = some 1 then none else s.resolveMarkers.quantifier } := by
      simp [settledSelect, hzero, Select.resolveMarkers]
    rw [if_neg hzero, hsettled, source.rows_quantifier, source.rows_strip]

/-! ## What is left of the query -/

theorem inside_eq_self {f : Query → Query} {q : Query} (h : ∀ t ∈ q.inner, f t = t) :
    q.inside f = q := by
  rw [inner, List.forall_mem_append, List.forall_mem_append] at h
  obtain ⟨⟨hfirst, hrest⟩, horder⟩ := h
  rw [inside, q.first.everywhere_eq_self hfirst, Operand.everywhereOfList_eq_self _ hrest,
    SortKey.everywhereOfList_eq_self _ horder]
  cases q
  rfl

/-- A query without queries in it is normalized by the rules for one query. -/
theorem normalize_eq_settle {q : Query} (h : q.inner = []) : q.normalize = q.settle := by
  have hinside : q.inside settle = q := inside_eq_self (by simp [h])
  rw [normalize, everywhere_eq, hinside]

theorem first_settle (q : Query) :
    q.settle.first = settledSelect q.limit q.settle.limit q.first :=
  (List.cons.inj (selects_settle q)).1

/-- An order of its own stays as it is. -/
theorem order_settle_of_ordered {q : Query} (h : q.order ≠ []) : q.settle.order = q.order := by
  rw [order_settle, if_neg]
  rintro ⟨-, hempty⟩
  exact h (List.isEmpty_iff.mp hempty)

theorem page_settle {ρ : Type} {q : Query} {l : List ρ} (hzero : q.limit ≠ some 0)
    (hbound : l.length ≤ unboundedLimit.toNat) :
    page q.settle.limit q.settle.offset l = page q.limit q.offset l := by
  rw [limit_settle, offset_settle, if_neg hzero, if_neg hzero]
  by_cases hopen : q.offset.isSome ∧ q.limit = none
  · rw [if_pos hopen, hopen.2]
    exact page_unbounded hbound
  · rw [if_neg hopen]

/-- A limit of one is never brought about by the rules. -/
theorem limit_settle_eq_one_iff (q : Query) : q.settle.limit = some 1 ↔ q.limit = some 1 := by
  rw [limit_settle]
  by_cases hzero : q.limit = some 0
  · simp [hzero]
  · rw [if_neg hzero]
    by_cases hopen : q.offset.isSome ∧ q.limit = none
    · rw [if_pos hopen, hopen.2]
      decide
    · rw [if_neg hopen]

section Rows

variable {ρ : Type} [DecidableEq ρ] {source : RowSource ρ} {q : Query}

/-- The rows of the normal form in terms of the query. -/
theorem rows_normalize_eq (hq : q.Plain) (hzero : q.limit ≠ some 0)
    (hbound : (source.rows q.order q.first).length ≤ unboundedLimit.toNat) :
    q.normalize.rows source =
      page q.limit q.offset
        (if (q.limit != some 1 && q.first.isDistinct) || q.first.projections.any Marker.doubled
          then (source.rows q.order q.first).eraseDups else source.rows q.order q.first) := by
  have hone : (q.settle.limit != some 1) = (q.limit != some 1) := by
    rw [Bool.eq_iff_iff, bne_iff_ne, bne_iff_ne, not_iff_not]
    exact q.limit_settle_eq_one_iff
  rw [normalize_eq_settle hq.flat, rows, first_settle, order_settle_of_ordered hq.ordered,
    rows_settledSelect, if_neg hzero, isDistinct_settledSelect, hone]
  refine page_settle hzero ?_
  split
  · exact Nat.le_trans (length_eraseDups_le _) hbound
  · exact hbound

/-- A query whose limit is zero has no rows, and neither has its normal form. -/
theorem rows_normalize_of_zero (hq : q.Plain) (hzero : q.limit = some 0) :
    q.normalize.rows source = q.rows source := by
  rw [normalize_eq_settle hq.flat, rows, rows, first_settle, rows_settledSelect, if_pos hzero,
    hzero, page_zero]
  split
  · exact page_nil _ _
  · exact page_nil _ _

/-- A distinct query that keeps `DISTINCT`, or does not need it, keeps its rows. -/
theorem rows_normalize_of_not_losesDistinct (hq : q.Plain) (hloses : ¬ q.LosesDistinct)
    (hbound : (source.rows q.order q.first).length ≤ unboundedLimit.toNat) :
    q.normalize.rows source = q.rows source := by
  by_cases hzero : q.limit = some 0
  · exact rows_normalize_of_zero hq hzero
  rw [rows_normalize_eq hq hzero hbound, rows]
  by_cases hdoubled : q.first.projections.any Marker.doubled = true
  · -- the marker that is left makes the select distinct in any case
    have hdistinct : q.first.isDistinct = true := by
      rw [Select.isDistinct, any_marks_of_any_doubled hdoubled, Bool.or_true]
    rw [hdoubled, hdistinct, Bool.or_true]
  by_cases hdistinct : q.first.isDistinct = true
  case neg =>
    simp [hdistinct, hdoubled]
  by_cases hone : q.limit = some 1
  case neg =>
    simp [hdistinct, hone]
  -- `DISTINCT` is dropped, so the page must begin with the first row or behind the last one
  rw [hone, hdistinct, Bool.eq_false_iff.mpr hdoubled]
  by_cases hnever : .never ∈ q.first.wheres
  · simp [source.rows_never q.order q.first hnever]
  refine Eq.symm ?_
  cases hoffset : q.offset with
  | none => exact page_one_eraseDups _ (.inl rfl)
  | some m =>
    by_cases hm : m = 0
    · rw [hm]
      exact page_one_eraseDups _ (.inr rfl)
    · have hlarge : unboundedLimit ≤ m := by
        rw [← UInt64.not_lt]
        intro hlt
        have hpos : 0 < m := UInt64.pos_iff_ne_zero.mpr hm
        refine hloses ⟨hone, ⟨m, hoffset, hpos, hlt⟩, hdistinct, ?_, hnever⟩
        intro p hp
        rw [← Bool.not_eq_true]
        intro h
        exact hdoubled (List.any_eq_true.mpr ⟨p, hp, h⟩)
      have hbehind : (source.rows q.order q.first).length ≤ m.toNat :=
        Nat.le_trans hbound (UInt64.le_iff_toNat_le.mp hlarge)
      rw [if_pos rfl, page_eq_nil (Nat.le_trans (length_eraseDups_le _) hbehind)]
      exact (page_eq_nil hbehind).symm

end Rows

/-! ## Where a row is lost -/

end Query

/-- The predicate that never holds. -/
def Expr.isNever : Expr → Bool
  | .never => true
  | _ => false

theorem any_isNever_iff (wheres : List Expr) :
    wheres.any Expr.isNever = true ↔ .never ∈ wheres := by
  rw [List.any_eq_true]
  constructor
  · rintro ⟨e, he, hnever⟩
    cases e with
    | never => exact he
    | _ => exact absurd hnever Bool.false_ne_true
  · exact fun h => ⟨.never, h, rfl⟩

/-- Yields the same rows for every select, except for one with a predicate that never holds. -/
def RowSource.constant (rows : List ρ) : RowSource ρ where
  rows _ s := if s.wheres.any Expr.isNever then [] else rows
  rows_never order s h := by rw [if_pos ((any_isNever_iff s.wheres).mpr h)]
  rows_quantifier _ _ _ := rfl
  rows_strip _ _ := rfl

namespace Query

/-- When `m` rows are skipped, a row that comes `m + 1` times is skipped with `DISTINCT` and found
without it. -/
theorem LosesDistinct.rows_ne {q : Query} (hq : q.Plain) (h : q.LosesDistinct) {m : UInt64}
    (hm : q.offset = some m) (hpos : 0 < m) (hlt : m < unboundedLimit) :
    q.normalize.rows (RowSource.constant (List.replicate (m.toNat + 1) ())) ≠
      q.rows (RowSource.constant (List.replicate (m.toNat + 1) ())) := by
  have hyield : (RowSource.constant (List.replicate (m.toNat + 1) ())).rows q.order q.first =
      List.replicate (m.toNat + 1) () := if_neg (mt (any_isNever_iff _).mp h.satisfiable)
  have hbound : (List.replicate (m.toNat + 1) ()).length ≤ unboundedLimit.toNat := by
    rw [List.length_replicate]
    exact UInt64.lt_iff_toNat_lt.mp hlt
  have hstripped : q.first.projections.any Marker.doubled = false := by
    simpa using h.stripped
  have hzero : q.limit ≠ some 0 := by
    rw [h.limit_eq]
    decide
  rw [rows_normalize_eq hq hzero (by rw [hyield]; exact hbound), rows, hyield, h.limit_eq, hm,
    h.distinct, hstripped, if_pos rfl, eraseDups_replicate]
  have hskipped : page (some 1) (some m) [()] = [] :=
    page_eq_nil (UInt64.lt_iff_toNat_lt.mp hpos)
  have hfound : page (some 1) (some m) (List.replicate (m.toNat + 1) ()) = [()] := by
    simp [page, List.drop_replicate]
  rw [hskipped]
  exact hfound.trans_ne (List.cons_ne_nil _ _)

/-- **A query keeps its rows when it is normalized,** whatever its select yields, unless it asks for
one row behind others of a distinct select. -/
theorem rows_normalize_iff {q : Query} (hq : q.Plain) :
    (∀ (ρ : Type) [DecidableEq ρ] (source : RowSource ρ),
      (source.rows q.order q.first).length ≤ unboundedLimit.toNat →
      q.normalize.rows source = q.rows source) ↔ ¬ q.LosesDistinct := by
  constructor
  · intro hkept hloses
    obtain ⟨m, hm, hpos, hlt⟩ := hloses.skips
    refine hloses.rows_ne hq hm hpos hlt (hkept Unit _ ?_)
    refine Nat.le_trans ?_ (UInt64.lt_iff_toNat_lt.mp hlt)
    change (if _ then _ else _ : List Unit).length ≤ m.toNat + 1
    split
    · exact Nat.zero_le _
    · exact Nat.le_of_eq List.length_replicate
  · intro hkeeps ρ _ source hbound
    exact rows_normalize_of_not_losesDistinct hq hkeeps hbound

/-- One of the distinct states of orders, the first ones being skipped. -/
def oneStatus (offset : Option UInt64) : Query :=
  { first := { Select.empty with
      quantifier := some .distinct
      projections := [.column none "status"]
      source := some (.table "orders" none) }
    rest := []
    order := [⟨.column none "status", .ascending, none⟩]
    limit := some 1
    offset := offset
    lock := none }

theorem oneStatus_plain (offset : Option UInt64) : (oneStatus offset).Plain :=
  ⟨rfl, List.cons_ne_nil _ _, rfl⟩

/-- The first state of all keeps its row, although `DISTINCT` is dropped. -/
theorem rows_normalize_firstStatus :
    (oneStatus none).Plain ∧
    (oneStatus none).normalize.rows (RowSource.constant ["open", "open", "shipped"]) =
      ["open"] := by
  have hkeeps : ¬ (oneStatus none).LosesDistinct := by
    intro h
    obtain ⟨m, hm, -⟩ := h.skips
    exact nomatch hm
  refine ⟨oneStatus_plain none, ?_⟩
  rw [(rows_normalize_iff (oneStatus_plain none)).mpr hkeeps String _ (by decide)]
  decide

/-- The second one of three orders' states is the first one over again. -/
theorem rows_normalize_secondStatus_ne :
    (oneStatus (some 1)).Plain ∧
    (RowSource.constant ["open", "open", "shipped"]).rows (oneStatus (some 1)).order
      (oneStatus (some 1)).first = ["open", "open", "shipped"] ∧
    (oneStatus (some 1)).rows (RowSource.constant ["open", "open", "shipped"]) = ["shipped"] ∧
    (oneStatus (some 1)).normalize.rows (RowSource.constant ["open", "open", "shipped"]) =
      ["open"] := by
  refine ⟨oneStatus_plain _, rfl, by decide, ?_⟩
  rw [normalize_eq_settle (oneStatus_plain _).flat]
  decide

end Query

end Anywhere
