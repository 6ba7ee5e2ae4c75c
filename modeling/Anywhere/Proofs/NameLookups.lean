import Anywhere.ResultSet

/-!
# Which cell a name stands for

The cell of a row can be asked for by the name of its column in three ways: alone, among the cells
of its column, and in the row as a table of cells by name. Where two columns share a name the three
may part. The first two look for the first column of the name and pass over the case of letters; a
table has room for one cell under a name, which is that of the last column, and takes names as they
are. `ResultSet.lookupsAgree_iff` says for every name of a column which cell it stands for in each
of the three ways, and so when it is the same.
-/

namespace Anywhere.ResultSet

/-! ## Tables of cells -/

namespace Row

/-- What is put under other names does not count. -/
theorem get?_foldl_of_notMem {name : String} {entries : List (String × Value)}
    (h : name ∉ entries.map Prod.fst) (row : Row) :
    (entries.foldl (fun row (name, cell) => row.insert name cell) row).get? name =
      row.get? name := by
  induction entries generalizing row with
  | nil => rfl
  | cons entry rest ih =>
    rw [List.map_cons, List.mem_cons, not_or] at h
    rw [List.foldl_cons, ih h.2, get?_insert, if_neg (Ne.symm h.1)]

/-- The last cell that is put under a name is the one that stays. -/
theorem get?_foldl_append {name : String} {cell : Value} {behind : List (String × Value)}
    (h : name ∉ behind.map Prod.fst) (before : List (String × Value)) (row : Row) :
    ((before ++ (name, cell) :: behind).foldl (fun row (name, cell) => row.insert name cell)
      row).get? name = some cell := by
  rw [List.foldl_append, List.foldl_cons, get?_foldl_of_notMem h, get?_insert, if_pos rfl]

end Row

/-- The cell under a name in one of the rows as tables. -/
def keyed? (r : ResultSet) (row : Nat) (name : String) : Option Value := do
  (← r.keyed[row]?).get? name

/-! ## Columns of a name -/

/-- All rows have one cell for each column. -/
def Rectangular (r : ResultSet) : Prop := ∀ cells ∈ r.rows, cells.length = r.columns.length

instance (r : ResultSet) : Decidable r.Rectangular := List.decidableBAll _ r.rows

/-- The place of the first column of a name, whatever the case of its letters. -/
structure FirstLike (r : ResultSet) (name : String) (index : Nat) : Prop where
  like : ∃ column, r.columns[index]? = some column ∧ Text.eqIgnoringCase column name = true
  first : ∀ i < index, ∀ column ∈ r.columns[i]?, Text.eqIgnoringCase column name = false

/-- The place of the last column of exactly this name. -/
structure LastNamed (r : ResultSet) (name : String) (index : Nat) : Prop where
  named : r.columns[index]? = some name
  last : ∀ i, index < i → r.columns[i]? ≠ some name

/-- No other column has the name, whatever the case of its letters. -/
def Unambiguous (r : ResultSet) (name : String) : Prop :=
  ∀ (i j : Nat) (column other : String), r.columns[i]? = some column → r.columns[j]? = some other →
    Text.eqIgnoringCase column name = true → Text.eqIgnoringCase other name = true → i = j

variable {r : ResultSet} {name : String}

theorem exists_firstLike (h : name ∈ r.columns) :
    ∃ index, r.columnIndex? name = some index ∧ r.FirstLike name index := by
  have hsome : (r.columnIndex? name).isSome = true := by
    rw [columnIndex?, List.findIdx?_isSome, List.any_eq_true]
    exact ⟨name, h, Text.eqIgnoringCase_self name⟩
  obtain ⟨index, hindex⟩ := Option.isSome_iff_exists.mp hsome
  obtain ⟨hlt, hlike, hfirst⟩ := List.findIdx?_eq_some_iff_getElem.mp hindex
  refine ⟨index, hindex, ⟨_, List.getElem?_eq_getElem hlt, hlike⟩, fun i hi column hcolumn => ?_⟩
  obtain ⟨hlt', rfl⟩ := List.getElem?_eq_some_iff.mp hcolumn
  simpa using hfirst i hi

/-- A column of the name that has none behind it. -/
theorem exists_columns_eq (h : name ∈ r.columns) :
    ∃ before behind, r.columns = before ++ name :: behind ∧ name ∉ behind := by
  obtain ⟨behind, before, hreverse, hnone⟩ :=
    List.eq_append_cons_of_mem (List.mem_reverse.mpr h)
  refine ⟨before.reverse, behind.reverse, ?_, by simpa using hnone⟩
  rw [← List.reverse_reverse r.columns, hreverse]
  simp

theorem FirstLike.eq_of_unambiguous {first last : Nat} (hfirst : r.FirstLike name first)
    (hlast : r.LastNamed name last) (h : r.Unambiguous name) : first = last := by
  obtain ⟨column, hcolumn, hlike⟩ := hfirst.like
  exact h first last column name hcolumn hlast.named hlike (Text.eqIgnoringCase_self name)

/-! ## The three ways -/

variable {row : Nat} {cells : List Value}

theorem get?_of_columnIndex? {index : Nat} (hrow : r.rows[row]? = some cells)
    (hindex : r.columnIndex? name = some index) : r.get? row name = cells[index]? := by
  simp [get?, hindex, hrow]

/-- When every item is kept, each keeps its place. -/
theorem getElem?_filterMap {α β : Type} {f : α → Option β} {items : List α}
    (h : ∀ a ∈ items, (f a).isSome = true) (n : Nat) :
    (items.filterMap f)[n]? = items[n]?.bind f := by
  induction items generalizing n with
  | nil => rfl
  | cons a rest ih =>
    rw [List.forall_mem_cons] at h
    obtain ⟨b, hb⟩ := Option.isSome_iff_exists.mp h.1
    rw [List.filterMap_cons_some hb]
    cases n with
    | zero => exact hb.symm
    | succ n => exact ih h.2 n

theorem column_getElem? {index : Nat} (h : r.Rectangular) (hrow : r.rows[row]? = some cells)
    (hindex : r.columnIndex? name = some index) : (r.column name)[row]? = cells[index]? := by
  have hlt : index < r.columns.length := (List.findIdx?_eq_some_iff_getElem.mp hindex).1
  have hcells : ∀ cells ∈ r.rows, cells[index]?.isSome = true := by
    intro cells hmem
    rw [List.getElem?_eq_getElem (h cells hmem ▸ hlt)]
    rfl
  simp only [column, hindex]
  rw [getElem?_filterMap hcells, hrow, Option.bind_some]

theorem exists_lastNamed (h : r.Rectangular) (hrow : r.rows[row]? = some cells)
    (hname : name ∈ r.columns) :
    ∃ index, r.LastNamed name index ∧ r.keyed? row name = cells[index]? := by
  obtain ⟨before, behind, hcolumns, hnone⟩ := exists_columns_eq hname
  have hlength := h cells (List.mem_of_getElem? hrow)
  rw [hcolumns, List.length_append, List.length_cons] at hlength
  refine ⟨before.length, ⟨?_, fun i hi hnamed => ?_⟩, ?_⟩
  · rw [hcolumns, List.getElem?_append_right (Nat.le_refl _), Nat.sub_self, List.getElem?_cons_zero]
  · -- a column further on would be one of those behind
    rw [hcolumns, List.getElem?_append_right (Nat.le_of_lt hi)] at hnamed
    obtain ⟨k, hk⟩ := Nat.exists_eq_add_of_lt hi
    have hplace : i - before.length = k + 1 := by omega
    rw [hplace, List.getElem?_cons_succ] at hnamed
    exact hnone (List.mem_of_getElem? hnamed)
  · -- the cells fall into those in front of the column, its own, and those behind it
    obtain ⟨front, cell, back, rfl, hfront⟩ : ∃ front cell back,
        cells = front ++ cell :: back ∧ front.length = before.length :=
      ⟨cells.take before.length, cells[before.length], cells.drop (before.length + 1), by simp,
        by simp; omega⟩
    have hbehind : name ∉ (behind.zip back).map Prod.fst := by
      intro hmem
      obtain ⟨pair, hpair, rfl⟩ := List.mem_map.mp hmem
      exact hnone (List.of_mem_zip hpair).1
    have hkeyed : r.keyed[row]? = some ((before.zip front ++ (name, cell) :: behind.zip back).foldl
        (fun (row : Row) (name, cell) => row.insert name cell) []) := by
      rw [keyed, List.getElem?_map, hrow, hcolumns, Option.map_some, List.zip_append hfront.symm,
        List.zip_cons_cons]
    rw [keyed?, hkeyed, ← hfront, List.getElem?_append_right (Nat.le_refl _), Nat.sub_self]
    exact Row.get?_foldl_append hbehind _ _

/-- All three ways lead to a cell, and to the same one. -/
def LookupsAgree (r : ResultSet) (row : Nat) (name : String) : Prop :=
  ∃ cell, r.get? row name = some cell ∧ (r.column name)[row]? = some cell ∧
    r.keyed? row name = some cell

theorem lookupsAgree_iff_isSome : r.LookupsAgree row name ↔ (r.get? row name).isSome = true ∧
    (r.column name)[row]? = r.get? row name ∧ r.keyed? row name = r.get? row name := by
  constructor
  · rintro ⟨cell, hget, hcolumn, hentry⟩
    rw [hget, hcolumn, hentry]
    exact ⟨rfl, rfl, rfl⟩
  · rintro ⟨hsome, hcolumn, hentry⟩
    obtain ⟨cell, hget⟩ := Option.isSome_iff_exists.mp hsome
    exact ⟨cell, hget, hcolumn.trans hget, hentry.trans hget⟩

instance (r : ResultSet) (row : Nat) (name : String) : Decidable (r.LookupsAgree row name) :=
  decidable_of_iff' _ lookupsAgree_iff_isSome

/-- **The cell for which a name stands.** Alone and in its column, it is that of the first column of
the name, whatever the case of its letters; in a table, it is that of the last column of exactly
this name. So the three agree where these two columns have the same cell, and if no other column has
the name, they are one column. -/
theorem lookupsAgree_iff (h : r.Rectangular) (hrow : r.rows[row]? = some cells)
    (hname : name ∈ r.columns) :
    ∃ first last cell cell', r.FirstLike name first ∧ r.LastNamed name last ∧
      cells[first]? = some cell ∧ cells[last]? = some cell' ∧
      r.get? row name = some cell ∧ (r.column name)[row]? = some cell ∧
      r.keyed? row name = some cell' ∧
      (r.LookupsAgree row name ↔ cell = cell') ∧ (r.Unambiguous name → first = last) := by
  have hlength := h cells (List.mem_of_getElem? hrow)
  obtain ⟨first, hindex, hfirst⟩ := exists_firstLike hname
  obtain ⟨last, hlast, hentry⟩ := exists_lastNamed h hrow hname
  have hthere : ∀ {index : Nat} {column : String}, r.columns[index]? = some column →
      ∃ cell, cells[index]? = some cell := by
    intro index column hcolumn
    obtain ⟨hlt, -⟩ := List.getElem?_eq_some_iff.mp hcolumn
    exact ⟨_, List.getElem?_eq_getElem (hlength ▸ hlt)⟩
  obtain ⟨column, hcolumn, -⟩ := hfirst.like
  obtain ⟨cell, hcell⟩ := hthere hcolumn
  obtain ⟨cell', hcell'⟩ := hthere hlast.named
  have hget : r.get? row name = some cell := (get?_of_columnIndex? hrow hindex).trans hcell
  have hvalues : (r.column name)[row]? = some cell :=
    (column_getElem? h hrow hindex).trans hcell
  have hkeyed : r.keyed? row name = some cell' := hentry.trans hcell'
  refine ⟨first, last, cell, cell', hfirst, hlast, hcell, hcell', hget, hvalues, hkeyed, ?_,
    hfirst.eq_of_unambiguous hlast⟩
  constructor
  · rintro ⟨found, hfound, -, hfound'⟩
    rw [hget] at hfound
    rw [hkeyed] at hfound'
    exact Option.some.inj (hfound.trans hfound'.symm)
  · rintro rfl
    exact ⟨cell, hget, hvalues, hkeyed⟩

/-- Orders joined with their customers: both have a number, and a name in another case. -/
def joined : ResultSet where
  columns := ["id", "name", "id", "NAME"]
  rows := [[.int 7, .text "June", .int 3, .text "Meyer"], [.int 8, .text "July", .int 8, .null]]

/-- In the second row both numbers are the same, so that it does not matter which is meant. -/
theorem lookupsAgree_joined_id :
    joined.Rectangular ∧ joined.rows[1]? = some [.int 8, .text "July", .int 8, .null] ∧
      "id" ∈ joined.columns ∧ joined.LookupsAgree 1 "id" := by
  have hrectangular : joined.Rectangular := by decide
  have hrow : joined.rows[1]? = some [.int 8, .text "July", .int 8, .null] := rfl
  have hname : "id" ∈ joined.columns := by decide
  obtain ⟨first, last, cell, cell', -, -, -, -, hget, -, hentry, hagree, -⟩ :=
    lookupsAgree_iff hrectangular hrow hname
  refine ⟨hrectangular, hrow, hname, hagree.mpr ?_⟩
  cases (show joined.get? 1 "id" = some (.int 8) from rfl).symm.trans hget
  cases (show joined.keyed? 1 "id" = some (.int 8) from rfl).symm.trans hentry
  rfl

/-- In the first row they are not, and neither are the names. -/
theorem not_lookupsAgree_joined :
    joined.Rectangular ∧ 0 < joined.size ∧
      ("id" ∈ joined.columns ∧ ¬ joined.LookupsAgree 0 "id") ∧
      "NAME" ∈ joined.columns ∧ ¬ joined.LookupsAgree 0 "NAME" := by
  decide

end Anywhere.ResultSet
