import Anywhere.Text.Case
import Anywhere.Value

/-!
# Result sets

The rows of a query under the names of their columns. A name is looked up without regard to the
case of ASCII letters, and the first column that matches counts; as a key of a row it is taken
as it is, and the last column of that name counts.
-/

namespace Anywhere

/-- Rows in the order in which the server sent them. -/
structure ResultSet where
  columns : List String
  rows : List (List Value)
deriving DecidableEq, Repr

namespace ResultSet

/-- No columns and no rows. -/
def empty : ResultSet := ⟨[], []⟩

/-- The number of rows. -/
def size (r : ResultSet) : Nat := r.rows.length

/-- There are no rows. -/
def isEmpty (r : ResultSet) : Bool := r.rows.isEmpty

/-- The place of a column. -/
def columnIndex? (r : ResultSet) (name : String) : Option Nat :=
  r.columns.findIdx? (Text.eqIgnoringCase · name)

/-- The cell of a row in a column. -/
def get? (r : ResultSet) (row : Nat) (column : String) : Option Value := do
  let index ← r.columnIndex? column
  (← r.rows[row]?)[index]?

/-- The first cell of the first row. -/
def first? (r : ResultSet) : Option Value := do (← r.rows.head?).head?

/-- The cells of a column. Rows that are too short have none. -/
def column (r : ResultSet) (name : String) : List Value :=
  match r.columnIndex? name with
  | some index => r.rows.filterMap (·[index]?)
  | none => []

/-- The cells of a row by the names of their columns, each name once. -/
abbrev Row := List (String × Value)

/-- The cell under a name. -/
def Row.get? (name : String) : Row → Option Value
  | [] => none
  | (n, c) :: rest => if n = name then some c else Row.get? name rest

/-- A row with a cell put under a name, in the place of what was there. -/
def Row.insert (name : String) (cell : Value) : Row → Row
  | [] => [(name, cell)]
  | (n, c) :: rest =>
    if n = name then (name, cell) :: rest else (n, c) :: Row.insert name cell rest

/-- The rows as cells by name. -/
def keyed (r : ResultSet) : List Row :=
  r.rows.map fun cells =>
    (r.columns.zip cells).foldl (fun row (name, cell) => row.insert name cell) []

theorem Row.get?_insert (name other : String) (cell : Value) (row : Row) :
    (row.insert name cell).get? other = if name = other then some cell else row.get? other := by
  induction row with
  | nil => rfl
  | cons entry rest ih =>
    obtain ⟨n, c⟩ := entry
    by_cases hn : n = name <;> by_cases ho : n = other <;>
      simp_all [Row.insert, Row.get?, eq_comm]

end ResultSet

end Anywhere
