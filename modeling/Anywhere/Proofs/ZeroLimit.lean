import Anywhere.Proofs.OutermostQueries
import Anywhere.Proofs.RowCap
import Anywhere.Query.Builder
import Anywhere.Text.Case

/-!
# What a limit of zero leaves

A limit of zero becomes a predicate that never holds, and it stands among the predicates on the rows
that a select reads. So no row is left when the rows are grouped, and what a select yields of no rows
depends on what it does with them. Row by row, or group by group, it yields nothing. A select that
sums up all rows at once yields one row for them even if there are none, and only its predicates on
groups can still take that row away.

An `Evaluation` says how the parts of a select come out, with tables and predicates left open, and
`Evaluation.results` puts them together in the order of SQL. The statements are about every
evaluation.
-/

namespace Anywhere

/-! ## Set functions -/

namespace Expr

/-- The functions that make one value of many rows. -/
def setFunctions : List String := ["COUNT", "SUM", "MIN", "MAX", "AVG"]

/-- The node calls a set function. -/
def isSetFunction : Expr → Bool
  | call name _ _ => setFunctions.contains (Text.uppercase name)
  | _ => false

/-- A set function is called in the expression, nested queries aside. -/
def aggregates (e : Expr) : Bool := e.nodes.any isSetFunction

end Expr

/-- The select makes one row of all the rows that it reads. -/
def Select.sumsUp (s : Select) : Bool := s.groups.isEmpty && s.projections.any Expr.aggregates

/-! ## What a select yields -/

/-- How the parts of a select come out, `ρ` being the rows that are read and `γ` the values by which
they are grouped. -/
structure Evaluation (ρ γ : Type) where
  /-- The rows of what a select reads from. -/
  rows : Option Source → List Join → List ρ
  /-- A predicate holds for a row. -/
  holds : Expr → ρ → Bool
  /-- The value of a grouping key for a row. -/
  key : Expr → ρ → γ
  /-- A predicate holds for the rows of a group. -/
  passes : Expr → List ρ → Bool
  holds_never : ∀ row, holds .never row = false

namespace Evaluation

variable {ρ γ : Type} (e : Evaluation ρ γ)

/-- The rows for which all predicates hold. -/
def kept (s : Select) : List ρ :=
  (e.rows s.source s.joins).filter fun row => s.wheres.all (e.holds · row)

theorem kept_eq_nil {s : Select} (h : .never ∈ s.wheres) : e.kept s = [] := by
  refine List.filter_eq_nil_iff.mpr fun row _ hall => ?_
  have hnever := List.all_eq_true.mp hall .never h
  rw [e.holds_never] at hnever
  exact absurd hnever Bool.false_ne_true

/-- The values of all grouping keys for a row. -/
def keys (s : Select) (row : ρ) : List γ := s.groups.map (e.key · row)

variable [DecidableEq γ]

/-- The rows that become one row each: those of a group, or all of them, or one by one. -/
def units (s : Select) : List (List ρ) :=
  if s.groups.isEmpty then
    if s.projections.any Expr.aggregates then [e.kept s] else (e.kept s).map fun row => [row]
  else
    ((e.kept s).map (e.keys s)).eraseDups.map fun values =>
      (e.kept s).filter fun row => e.keys s row == values

/-- What the select yields, each row given by the rows that became it. -/
def results (s : Select) : List (List ρ) :=
  (e.units s).filter fun unit => s.havings.all (e.passes · unit)

/-- Without rows, only a select that sums up has something to make a row of. -/
theorem units_eq {s : Select} (h : .never ∈ s.wheres) :
    e.units s = if s.sumsUp then [[]] else [] := by
  rw [units, Select.sumsUp, e.kept_eq_nil h]
  cases s.groups.isEmpty with
  | true => rfl
  | false => rfl

theorem results_eq {s : Select} (h : .never ∈ s.wheres) :
    e.results s = if s.sumsUp && s.havings.all (e.passes · []) then [[]] else [] := by
  rw [results, e.units_eq h]
  cases s.sumsUp with
  | false => rfl
  | true =>
    rw [if_pos rfl, Bool.true_and, List.filter_cons, List.filter_nil]

end Evaluation

/-! ## Normalizing and set functions -/

theorem Expr.isSetFunction_nodes_everywhere (f : Query → Query) (e : Expr) :
    (e.everywhere f).nodes.map Expr.isSetFunction = e.nodes.map Expr.isSetFunction := by
  have hnode : ∀ node : Expr, (node.everywhere f).isSetFunction = node.isSetFunction := by
    intro node
    cases node <;> rfl
  rw [e.nodes_everywhere, List.map_map]
  exact List.map_congr_left fun node _ => hnode node

@[simp] theorem Expr.aggregates_everywhere (f : Query → Query) (e : Expr) :
    (e.everywhere f).aggregates = e.aggregates := by
  have hany : ∀ nodes : List Expr,
      nodes.any Expr.isSetFunction = (nodes.map Expr.isSetFunction).any id := by simp
  rw [Expr.aggregates, Expr.aggregates, hany, hany, e.isSetFunction_nodes_everywhere f]

/-- A projection that is left out has no set function in it, and one that is changed has none. -/
theorem aggregates_strip (p : Expr) : (Marker.strip p).any Expr.aggregates = p.aggregates := by
  cases p with
  | raw sql =>
    rw [Marker.strip_raw]
    split <;> rfl
  | _ => rfl

theorem any_aggregates_strip (projections : List Expr) :
    (projections.filterMap Marker.strip).any Expr.aggregates =
      projections.any Expr.aggregates := by
  induction projections with
  | nil => rfl
  | cons p rest ih =>
    rw [List.filterMap_cons, List.any_cons, ← aggregates_strip p, ← ih]
    cases Marker.strip p with
    | none => rfl
    | some p' => rfl

theorem Select.groups_everywhere (f : Query → Query) (s : Select) :
    (s.everywhere f).groups = s.groups.map (·.everywhere f) := by
  rw [Select.everywhere_eq]

theorem Select.havings_everywhere (f : Query → Query) (s : Select) :
    (s.everywhere f).havings = s.havings.map (·.everywhere f) := by
  rw [Select.everywhere_eq]

namespace Query

theorem sumsUp_settledSelect (limit cap : Option UInt64) (s : Select) :
    (settledSelect limit cap s).sumsUp = s.sumsUp :=
  congrArg (s.groups.isEmpty && ·) (any_aggregates_strip s.projections)

theorem sumsUp_everywhere (f : Query → Query) (s : Select) :
    (s.everywhere f).sumsUp = s.sumsUp := by
  rw [Select.sumsUp, Select.sumsUp, Select.groups_everywhere, Select.projections_everywhere,
    List.isEmpty_map, List.any_map]
  simp [Function.comp_def]

/-! ## What is left -/

section Results

variable {ρ γ : Type} [DecidableEq γ] (e : Evaluation ρ γ) {q : Query}

/-- A select of a query whose limit is zero yields one row of no rows, if it sums up and its
predicates on groups hold for no rows, and otherwise nothing. -/
theorem results_normalize_of_zero (hzero : q.limit = some 0) :
    q.normalize.selects.map e.results = q.selects.map fun s =>
      if s.sumsUp && s.havings.all (fun h => e.passes h.normalize []) then [[]] else [] := by
  rw [selects_normalize, List.map_map]
  refine List.map_congr_left fun s _ => ?_
  have hnever : .never ∈ (settledSelect q.limit q.normalize.limit (s.everywhere settle)).wheres := by
    simp [settledSelect, hzero]
  have hhavings : (settledSelect q.limit q.normalize.limit (s.everywhere settle)).havings =
      s.havings.map Expr.normalize := s.havings_everywhere settle
  rw [Function.comp_apply, e.results_eq hnever, sumsUp_settledSelect, sumsUp_everywhere, hhavings,
    List.all_map]
  rfl

/-- **A limit of zero leaves no rows,** whatever the tables hold, exactly if no select sums up, those
aside whose predicates on groups do not hold for no rows. -/
theorem results_normalize_eq_nil_iff (hzero : q.limit = some 0) :
    (∀ s ∈ q.normalize.selects, e.results s = []) ↔
      ∀ s ∈ q.selects, s.sumsUp = true → ∃ h ∈ s.havings, e.passes h.normalize [] = false := by
  have hall : (∀ s ∈ q.normalize.selects, e.results s = []) ↔
      ∀ results ∈ q.normalize.selects.map e.results, results = [] := by simp
  rw [hall, results_normalize_of_zero e hzero, List.forall_mem_map]
  refine forall_congr' fun s => forall_congr' fun _ => ?_
  cases s.sumsUp with
  | false => simp
  | true =>
    rw [Bool.true_and, ite_eq_right_iff]
    simp

end Results

/-! ### Counting orders -/

/-- The number of orders for each of `groups`. -/
def countOrders (groups : List Expr) : Query :=
  { ofSelect { Select.ofTable "orders" with
      projections := [Expr.countStar]
      groups := groups } with
    limit := some 0 }

end Query

/-- All predicates hold but the one that never does, and all rows have the same keys. -/
def Evaluation.ofRows {ρ : Type} (rows : List ρ) : Evaluation ρ Unit where
  rows _ _ := rows
  holds e _ := match e with
    | .never => false
    | _ => true
  key _ _ := ()
  passes e _ := match e with
    | .never => false
    | _ => true
  holds_never _ := rfl

namespace Query

/-- Of none of the orders there is no number for each status. -/
theorem results_countByStatus :
    (countOrders [.column none "status"]).limit = some 0 ∧
    ∀ s ∈ (countOrders [.column none "status"]).normalize.selects,
      (Evaluation.ofRows [1, 2, 3]).results s = [] := by
  refine ⟨rfl, (results_normalize_eq_nil_iff _ rfl).mpr fun s hs hsums => ?_⟩
  rw [List.mem_singleton.mp hs] at hsums
  exact absurd hsums Bool.false_ne_true

/-- The number of all of them is yielded, although the limit is zero. -/
theorem results_countAll_ne_nil :
    (countOrders []).limit = some 0 ∧
    (countOrders []).normalize.selects.map (Evaluation.ofRows [1, 2, 3]).results = [[[]]] ∧
    ¬ ∀ s ∈ (countOrders []).normalize.selects, (Evaluation.ofRows [1, 2, 3]).results s = [] := by
  have hyielded : (countOrders []).normalize.selects.map (Evaluation.ofRows [1, 2, 3]).results =
      [[[]]] := by
    rw [results_normalize_of_zero _ rfl]
    decide +kernel
  refine ⟨rfl, hyielded, fun h => ?_⟩
  have hnone : ∀ results ∈ (countOrders []).normalize.selects.map
      (Evaluation.ofRows [1, 2, 3]).results, results = [] := List.forall_mem_map.mpr h
  rw [hyielded] at hnone
  exact List.cons_ne_nil _ _ (hnone _ List.mem_cons_self)

end Query

end Anywhere
