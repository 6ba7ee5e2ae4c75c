import Anywhere.Proofs.RowCap
import Mathlib.Data.List.Basic

/-!
# When normalizing twice is normalizing once

A normal form is a tree that the rules leave alone: every query in it obeys the row cap and none of
its projections begins with the marker. The rules for row caps lead there in one pass, whatever the
tree is. The marker does not: one is taken off a projection and the text behind it is not looked at
again, so a projection marked twice comes out marked once, and the next pass finds that marker.

So normalizing is idempotent up to this one case, and `Query.normalize_normalize_iff` says so for
every tree.
-/

namespace Anywhere

namespace Marker

/-- A projection that begins with two markers in a row. -/
def doubled : Expr → Bool
  | .raw sql => ((rest? sql.toList).bind rest?).isSome
  | _ => false

theorem length_lt_of_rest? {sql rest : List Char} (h : rest? sql = some rest) :
    rest.length < sql.length := by
  have hblanks : ∀ text : List Char, (Text.dropBlanks text).length ≤ text.length :=
    fun text => (List.dropWhile_sublist _).length_le
  unfold rest? at h
  dsimp only at h
  split at h
  · next hword =>
    -- the word has been read, so it fits into the text
    have hlength := congrArg List.length (eq_of_beq hword)
    have hsize : word.length = 8 := by decide
    rw [List.length_map, List.length_take, hsize] at hlength
    have hdrop := List.length_drop (i := word.length) (l := Text.dropBlanks sql)
    have hbehind := hblanks ((Text.dropBlanks sql).drop word.length)
    have hsql := hblanks sql
    split at h
    · cases h
      simp only [List.length_nil]
      omega
    · split at h
      · cases h
        omega
      · cases h
  · cases h

/-- Only a projection without the marker is what is left of it. -/
theorem strip_eq_some_self_iff (p : Expr) : strip p = some p ↔ marks p = false := by
  cases p with
  | raw sql =>
    have hlength : ∀ rest, rest? sql.toList = some rest → String.ofList rest ≠ sql := by
      intro rest h heq
      have hlt := length_lt_of_rest? h
      rw [← heq, String.toList_ofList] at hlt
      exact Nat.lt_irrefl _ hlt
    rw [strip_raw, marks]
    cases hrest : rest? sql.toList with
    | none => simp
    | some rest =>
      cases rest with
      | nil => simp
      | cons c rest => simpa using hlength _ hrest
  | _ => exact ⟨fun _ => rfl, fun _ => rfl⟩

/-- What is left of a projection is marked when the projection was marked twice. -/
theorem marks_of_strip {p p' : Expr} (h : strip p = some p') : marks p' = doubled p := by
  cases p with
  | raw sql =>
    rw [strip_raw] at h
    rw [doubled]
    split at h
    · cases h
    · next rest _ hrest =>
      cases h
      rw [hrest, Option.bind_some, marks, String.toList_ofList]
    · next hrest =>
      cases h
      rw [hrest, Option.bind_none, marks, hrest]
  | _ =>
    cases h
    rfl

/-- A projection marked twice is not left out. -/
theorem exists_strip_of_doubled {p : Expr} (h : doubled p = true) : ∃ p', strip p = some p' := by
  cases p with
  | raw sql =>
    rw [doubled] at h
    rw [strip_raw]
    split
    · next hrest =>
      rw [hrest] at h
      exact absurd h (by decide)
    · exact ⟨_, rfl⟩
    · exact ⟨_, rfl⟩
  | _ => exact ⟨_, rfl⟩

@[simp] theorem doubled_everywhere (f : Query → Query) (p : Expr) :
    doubled (p.everywhere f) = doubled p := by
  cases p <;> rfl

end Marker

namespace Query

/-- No projection of the query is marked. -/
def Unmarked (q : Query) : Prop :=
  ∀ s ∈ q.selects, ∀ p ∈ s.projections, Marker.marks p = false

/-- No projection of the query is marked twice in a row. -/
def MarkedAtMostOnce (q : Query) : Prop :=
  ∀ s ∈ q.selects, ∀ p ∈ s.projections, Marker.doubled p = false

/-! ## Queries that the rules leave alone -/

theorem mapSelects_eq_self {f : Select → Select} {q : Query} (h : ∀ s ∈ q.selects, f s = s) :
    q.mapSelects f = q := by
  obtain ⟨first, rest, order, limit, offset, lock⟩ := q
  simp only [selects, List.forall_mem_cons, List.forall_mem_map] at h
  obtain ⟨hfirst, hrest⟩ := h
  have hmap : rest.map (fun o => (⟨o.op, f o.select⟩ : Operand)) = rest := by
    refine (List.map_congr_left fun o ho => ?_).trans (List.map_id rest)
    rw [hrest o ho]
    cases o
    rfl
  simp only [mapSelects, hfirst, hmap]

theorem resolveMarkers_eq_self {s : Select} (h : ∀ p ∈ s.projections, Marker.marks p = false) :
    s.resolveMarkers = s := by
  have hany : s.projections.any Marker.marks = false := by simpa using h
  have hstrip : s.projections.filterMap Marker.strip = s.projections := by
    rw [List.filterMap_congr fun p hp => (Marker.strip_eq_some_self_iff p).mpr (h p hp)]
    exact List.filterMap_some
  cases s
  simp_all [Select.resolveMarkers]

/-- **A query that obeys the row cap and is unmarked is left alone.** -/
theorem settle_eq_self {q : Query} (hcap : q.ObeysCap) (hmark : q.Unmarked) : q.settle = q := by
  have hresolve : q.mapSelects Select.resolveMarkers = q :=
    mapSelects_eq_self fun s hs => resolveMarkers_eq_self (hmark s hs)
  have hclose : q.closeZeroLimit = q := if_neg hcap.limit_ne_zero
  have hbound : q.boundOffset = q := by
    refine if_neg fun ⟨hoffset, hlimit⟩ => ?_
    have := hcap.limited hoffset
    simp [hlimit] at this
  have horder : q.orderCapped = q :=
    if_neg fun ⟨hlimit, horder⟩ => hcap.ordered hlimit (List.isEmpty_iff.mp horder)
  have hdrop : q.dropQuantifiers = q := by
    unfold dropQuantifiers
    split
    · next hone =>
      refine mapSelects_eq_self fun s hs => ?_
      have := hcap.unquantified hone s hs
      cases s
      simp_all
    · rfl
  unfold settle
  rw [hresolve, hclose, hbound, horder, hdrop]

/-- The projections of a normal form, select by select. -/
theorem projections_normalize (q : Query) :
    q.normalize.selects.map (·.projections) =
      q.selects.map fun s =>
        s.projections.filterMap fun p => Marker.strip (p.everywhere settle) := by
  rw [normalize, everywhere_eq, selects_settle, selects_inside, List.map_map, List.map_map]
  refine List.map_congr_left fun s _ => ?_
  change (s.everywhere settle).projections.filterMap Marker.strip = _
  rw [Select.projections_everywhere, List.filterMap_map]
  rfl

/-- A query that normalizing leaves alone is unmarked: a marker that is taken off shortens its
projection, or takes it out of the select. -/
theorem unmarked_of_normalize_eq_self {q : Query} (h : q.normalize = q) : q.Unmarked := by
  intro s hs p hp
  have hprojections := q.projections_normalize
  rw [h, List.map_inj_left] at hprojections
  have hkept := List.filterMap_eq_map_iff_forall_eq_some.mp
    ((hprojections s hs).symm.trans (List.map_id s.projections).symm) p hp
  cases p with
  | raw sql => exact (Marker.strip_eq_some_self_iff _).mp hkept
  | _ => rfl

/-- Normalizing takes off one marker of each projection. -/
theorem unmarked_normalize_iff (q : Query) : q.normalize.Unmarked ↔ q.MarkedAtMostOnce := by
  have hall : q.normalize.Unmarked ↔
      ∀ ps ∈ q.normalize.selects.map (·.projections), ∀ p ∈ ps, Marker.marks p = false := by
    simp [Unmarked]
  rw [hall, projections_normalize]
  simp only [List.forall_mem_map, List.mem_filterMap]
  constructor
  · intro h s hs p hp
    rw [← Marker.doubled_everywhere settle p, ← Bool.not_eq_true]
    intro hdoubled
    obtain ⟨p', hp'⟩ := Marker.exists_strip_of_doubled hdoubled
    have hmarks : Marker.marks p' = true := (Marker.marks_of_strip hp').trans hdoubled
    rw [h s hs p' ⟨p, hp, hp'⟩] at hmarks
    exact absurd hmarks (by decide)
  · rintro h s hs p' ⟨p, hp, hp'⟩
    rw [Marker.marks_of_strip hp', Marker.doubled_everywhere]
    exact h s hs p hp

/-! ## Normal forms -/

/-- **The trees that normalizing leaves alone** are those in which every query obeys the row cap and
is unmarked. -/
theorem normalize_eq_self_iff (q : Query) :
    q.normalize = q ↔ ∀ t ∈ q.all, t.ObeysCap ∧ t.Unmarked := by
  constructor
  · intro h
    have hall : q.all.map normalize = q.all.map id := by rw [List.map_id, ← all_normalize, h]
    intro t ht
    have hfixed : t.normalize = t := List.map_inj_left.mp hall t ht
    exact ⟨hfixed ▸ t.obeysCap_normalize, unmarked_of_normalize_eq_self hfixed⟩
  · intro h
    exact q.everywhere_eq_self fun t ht => settle_eq_self (h t ht).1 (h t ht).2

/-- **Normalizing twice is normalizing once** exactly for the trees in which no projection, of no
select of no query, is marked twice in a row. -/
theorem normalize_normalize_iff (q : Query) :
    q.normalize.normalize = q.normalize ↔ ∀ t ∈ q.all, t.MarkedAtMostOnce := by
  rw [normalize_eq_self_iff, all_normalize, List.forall_mem_map]
  constructor
  · intro h t ht
    exact t.unmarked_normalize_iff.mp (h t ht).2
  · intro h t ht
    exact ⟨t.obeysCap_normalize, t.unmarked_normalize_iff.mpr (h t ht)⟩

/-- A select from a table with one projection, which is marked twice. -/
def twiceMarked : Query :=
  .ofSelect { Select.empty with
    projections := [.raw "DISTINCT DISTINCT id"]
    source := some (.table "t" none) }

/-- It loses one marker in each pass. -/
theorem normalize_normalize_twiceMarked_ne :
    twiceMarked.normalize.normalize ≠ twiceMarked.normalize := by
  intro h
  have hprojections := congrArg (fun q : Query => q.first.projections) h
  have hraw : Expr.raw "id" = .raw "DISTINCT id" := List.head_eq_of_cons_eq hprojections
  simp at hraw

end Query

end Anywhere
