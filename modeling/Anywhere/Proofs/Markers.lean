import Anywhere.Proofs.LeadingWords
import Anywhere.Proofs.Paging
import Anywhere.Proofs.Payload
import Mathlib.Data.List.Forall2

/-!
# What becomes of the markers

A raw projection that begins with `DISTINCT` makes its select distinct, and loses the word. What is
looked at is the front of the text only, and letters outside of ASCII have no say in it, so
`Marker.Splits` can say what a marked text consists of: white space, the word, white space, and what
is left. `Marker.Resolves` says of every projection what becomes of it, and `Select.Resolves` of
every select, where a row cap of one has the last word on the quantifier.

The statement is about all queries of a tree. Those of a normal form are one by one the normal forms
of those in the tree, and so are their selects.
-/

namespace Anywhere

/-! ## Marked texts -/

theorem Text.dropBlanks_eq_iff {text rest : List Char} :
    dropBlanks text = rest ↔ ∃ gap, text = gap ++ rest ∧ (∀ c ∈ gap, isBlank c = true) ∧
      ∀ c ∈ rest.head?, isBlank c = false := by
  constructor
  · rintro rfl
    refine ⟨text.takeWhile isBlank, List.takeWhile_append_dropWhile.symm,
      fun c hc => List.mem_takeWhile_imp hc, fun c hc => ?_⟩
    have hhead := List.head?_dropWhile_not isBlank text
    rw [← dropBlanks, Option.mem_def.mp hc] at hhead
    exact hhead
  · rintro ⟨gap, rfl, hgap, hrest⟩
    rw [dropBlanks, List.dropWhile_append_of_pos hgap]
    cases rest with
    | nil => rfl
    | cons c rest =>
      have hc := hrest c rfl
      rw [List.dropWhile_cons_of_neg (by simp [hc])]

namespace Marker

/-- The text is the marker between white space, and then `rest`. The marker is a word of its own:
white space, a parenthesis or the end of the text follows it. -/
def Splits (sql rest : List Char) : Prop :=
  ∃ gap, Text.Leads word sql (gap ++ rest) ∧ (∀ c ∈ gap, Text.isBlank c = true) ∧
    (∀ c ∈ rest.head?, Text.isBlank c = false) ∧
    ∀ c ∈ (gap ++ rest).head?, Text.isBlank c = true ∨ c = '('

theorem rest?_eq_some_iff {sql rest : List Char} : rest? sql = some rest ↔ Splits sql rest := by
  have hfirst : word.head? = some 'd' := by decide
  have hsplits : Splits sql rest ↔ ∃ tail, Text.Leads word sql tail ∧
      Text.dropBlanks tail = rest ∧ ∀ c ∈ tail.head?, Text.isBlank c = true ∨ c = '(' := by
    simp only [Splits, Text.dropBlanks_eq_iff]
    constructor
    · rintro ⟨gap, hleads, hgap, hrest, hhead⟩
      exact ⟨gap ++ rest, hleads, ⟨gap, rfl, hgap, hrest⟩, hhead⟩
    · rintro ⟨tail, hleads, ⟨gap, rfl, hgap, hrest⟩, hhead⟩
      exact ⟨gap, hleads, hgap, hrest, hhead⟩
  rw [hsplits]
  simp only [Text.leads_iff hfirst (by decide), rest?, beq_iff_eq]
  by_cases hword : ((Text.dropBlanks sql).take word.length).map Char.toLower = word
  · rw [if_pos hword]
    cases htail : (Text.dropBlanks sql).drop word.length with
    | nil => simp [hword]
    | cons c tail => by_cases hc : Text.isBlank c = true ∨ c = '(' <;> simp [hword, hc]
  · rw [if_neg hword]
    refine iff_of_false nofun ?_
    rintro ⟨tail, ⟨hword', -⟩, -⟩
    exact hword hword'

/-- What becomes of a projection when its select is normalized. -/
inductive Resolves : Expr → Option Expr → Prop where
  | stripped {sql rest : String} :
      Splits sql.toList rest.toList → rest ≠ "" → Resolves (.raw sql) (some (.raw rest))
  /-- There was nothing but the marker. -/
  | emptied {sql : String} : Splits sql.toList [] → Resolves (.raw sql) none
  | unmarked {sql : String} : ¬ Leads sql.toList → Resolves (.raw sql) (some (.raw sql))
  | other {p : Expr} : (∀ sql, p ≠ .raw sql) → p.normalize.verbatim = p.verbatim →
      Resolves p (some p.normalize)

theorem resolves_strip (p : Expr) : Resolves p (strip p.normalize) := by
  cases p with
  | raw sql =>
    change Resolves (.raw sql) (strip (.raw sql))
    rw [strip_raw]
    split
    · next hrest => exact .emptied (rest?_eq_some_iff.mp hrest)
    · next rest hne hrest =>
      refine .stripped (rest?_eq_some_iff.mp (by rwa [String.toList_ofList])) fun hempty => ?_
      have hnil := congrArg String.toList hempty
      rw [String.toList_ofList] at hnil
      exact hne hnil
    · next hrest =>
      refine .unmarked fun hleads => ?_
      have hmarks := (marks_raw_iff sql).mpr hleads
      rw [marks, hrest] at hmarks
      exact Bool.false_ne_true hmarks
  | _ => exact .other (by simp) (Expr.verbatim_everywhere _)

end Marker

/-! ## Selects -/

namespace Select

/-- One of the projections carries the marker. -/
def Marked (s : Select) : Prop :=
  ∃ sql, Expr.raw sql ∈ s.projections ∧ Marker.Leads sql.toList

theorem marked_iff (s : Select) : s.Marked ↔ s.projections.any Marker.marks = true := by
  rw [List.any_eq_true]
  constructor
  · rintro ⟨sql, hmem, hleads⟩
    exact ⟨_, hmem, (Marker.marks_raw_iff sql).mpr hleads⟩
  · rintro ⟨p, hmem, hmarks⟩
    cases p with
    | raw sql => exact ⟨sql, hmem, (Marker.marks_raw_iff sql).mp hmarks⟩
    | _ => exact absurd hmarks Bool.false_ne_true

/-- The second select is what is left of the first one, in a query with the given limit. -/
structure Resolves (limit : Option UInt64) (s s' : Select) : Prop where
  quantifier_of_one : limit = some 1 → s'.quantifier = none
  quantifier_of_marked : limit ≠ some 1 → s.Marked → s'.quantifier = some .distinct
  quantifier_of_not_marked : limit ≠ some 1 → ¬ s.Marked → s'.quantifier = s.quantifier
  /-- The projections are resolved one by one and keep their order. -/
  projections : ∃ resolved, List.Forall₂ Marker.Resolves s.projections resolved ∧
    s'.projections = resolved.reduceOption
  /-- All other text that is handed on as it is stays as it is. -/
  verbatim : Select.verbatim { s' with projections := [] } =
    Select.verbatim { s with projections := [] }

end Select

namespace Query

theorem limit_normalize_eq_one_iff (q : Query) : q.normalize.limit = some 1 ↔ q.limit = some 1 := by
  rw [normalize, everywhere_eq, limit_settle_eq_one_iff]
  rfl

/-- The limit of one comes last, and before it the markers. -/
theorem quantifier_settledSelect_normalize (q : Query) (s : Select) :
    (settledSelect q.limit q.normalize.limit (s.everywhere settle)).quantifier =
      if q.limit = some 1 then none
      else if s.projections.any Marker.marks then some .distinct else s.quantifier := by
  have hmarks : (s.everywhere settle).projections.any Marker.marks =
      s.projections.any Marker.marks := by
    rw [Select.projections_everywhere, List.any_map]
    congr 1
    funext p
    cases p <;> rfl
  have hquantifier : (s.everywhere settle).quantifier = s.quantifier := by
    rw [Select.everywhere_eq]
  simp only [settledSelect, Select.resolveMarkers, limit_normalize_eq_one_iff, hmarks, hquantifier]

theorem projections_settledSelect_normalize (q : Query) (s : Select) :
    (settledSelect q.limit q.normalize.limit (s.everywhere settle)).projections =
      s.projections.filterMap fun p => Marker.strip p.normalize := by
  change (s.everywhere settle).projections.filterMap Marker.strip = _
  rw [Select.projections_everywhere, List.filterMap_map]
  rfl

theorem verbatim_settledSelect_normalize (q : Query) (s : Select) :
    Select.verbatim { settledSelect q.limit q.normalize.limit (s.everywhere settle) with
        projections := [] } =
      Select.verbatim { s with projections := [] } := by
  have hnever : Expr.never.verbatim = [] := rfl
  have hinside := Select.verbatim_everywhere (f := settle) { s with projections := [] }
  rw [← hinside, Select.everywhere_eq, Select.everywhere_eq]
  simp only [Select.verbatim, settledSelect, Select.resolveMarkers, List.map_nil]
  -- a predicate that may be added is not text
  split
  · rw [List.flatMap_append, List.flatMap_singleton, hnever, List.append_nil]
  · rfl

theorem resolves_settledSelect (q : Query) (s : Select) :
    s.Resolves q.limit (settledSelect q.limit q.normalize.limit (s.everywhere settle)) where
  quantifier_of_one hone := by
    rw [quantifier_settledSelect_normalize, if_pos hone]
  quantifier_of_marked hone hmarked := by
    rw [quantifier_settledSelect_normalize, if_neg hone, if_pos (s.marked_iff.mp hmarked)]
  quantifier_of_not_marked hone hmarked := by
    rw [quantifier_settledSelect_normalize, if_neg hone, if_neg (mt s.marked_iff.mpr hmarked)]
  projections := by
    refine ⟨s.projections.map fun p => Marker.strip p.normalize, ?_, ?_⟩
    · exact List.forall₂_map_right_iff.mpr (List.forall₂_same.mpr fun p _ =>
        Marker.resolves_strip p)
    · rw [projections_settledSelect_normalize]
      change _ = List.filterMap id _
      rw [List.filterMap_map]
      rfl
  verbatim := verbatim_settledSelect_normalize q s

/-- **The markers are resolved** in every select of every query of a tree. -/
theorem normalize_resolves (q : Query) :
    List.Forall₂ (fun t n => List.Forall₂ (Select.Resolves t.limit) t.selects n.selects)
      q.all q.normalize.all := by
  rw [all_normalize, List.forall₂_map_right_iff, List.forall₂_same]
  intro t _
  rw [selects_normalize, List.forall₂_map_right_iff, List.forall₂_same]
  exact fun s _ => t.resolves_settledSelect s

/-- Only the first of the two projections is marked, for a letter that looks like one of the word
is none of it. -/
example :
    let s := { Select.empty with
      projections := [.raw "\u2003Distinct\u00a0(id)", .raw "d\u0131stinct id"] }
    (Query.ofSelect s).normalize.first.projections =
      [.raw "(id)", .raw "d\u0131stinct id"] := by
  rfl

end Query

end Anywhere
