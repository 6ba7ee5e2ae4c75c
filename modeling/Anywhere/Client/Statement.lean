import Anywhere.Client.Basic
import Anywhere.Client.Conversion
import Anywhere.ResultSet

/-!
# Prepared statements

What is done with one prepared statement: each of its parameters is described and bound in turn, and
its rows are fetched one after the other until there are none left. Fetching ends because every
row that is fetched leaves fewer of them.
-/

namespace Anywhere

namespace Client

variable {σ κ η : Type} (client : Client σ κ η) (r : Request κ)

/-! ## Parameters -/

/-- Parameters are numbered in 32 bits. -/
def parameterLimit : Nat := UInt32.size

/-- Binds a value to the parameter with the given number. -/
def bindValue (encoding : Text.Encoding) (statement : η) (index : Nat) (value : Value) :
    Action σ Unit := do
  let slot ← Action.require client r (← Action.ask client (.describe statement index))
  let bound ← Action.ask client (.bind statement index (slot.fill encoding value))
  Action.check client r bound

/-- Binds values to the parameters from the given number on; `count` is the number of all
parameters. -/
def bindFrom (encoding : Text.Encoding) (statement : η) (count : Nat) :
    (index : Nat) → List Value → Action σ Unit
  | _, [] => pure ()
  | index, value :: rest => do
    if parameterLimit ≤ index then throw (.argument (.tooManyParameters count))
    bindValue client r encoding statement index value
    bindFrom encoding statement count (index + 1) rest

/-- Binds values to the parameters in order. -/
def bindAll (encoding : Text.Encoding) (statement : η) (values : List Value) : Action σ Unit :=
  bindFrom client r encoding statement values.length 0 values

/-! ## Columns and rows -/

/-- The descriptions of `count` columns from the one with the given number on. -/
def columnsFrom (statement : η) : (index count : Nat) → Action σ (List ColumnInfo)
  | _, 0 => pure []
  | index, count + 1 => do
    let info ← Action.require client r (← Action.ask client (.columnInfo statement index))
    return info :: (← columnsFrom statement (index + 1) count)

/-- The descriptions of all columns. -/
def columns (statement : η) : Action σ (List ColumnInfo) := do
  let count ← Action.require client r (← Action.ask client (.columnCount statement))
  columnsFrom client r statement 0 count

/-- The values of the current row, from the column with the given number on. -/
def cellsFrom (encoding : Text.Encoding) (statement : η) :
    (index : Nat) → List ColumnInfo → Action σ (List Value)
  | _, [] => pure []
  | index, column :: rest => do
    let cell ← Action.require client r (← Action.ask client (.cell statement index))
    let value ← Action.ofExcept (cell.toValue column.type encoding)
    return value :: (← cellsFrom encoding statement (index + 1) rest)

/-- A cell that is required and there leaves the state alone. -/
theorem state_require {reply : Option α} {a : α} {s s' : σ}
    (h : Action.require client r reply s = (.ok a, s')) : s' = s := by
  cases reply with
  | some b => exact (Action.pure_eq_ok.1 h).2.symm
  | none =>
    obtain ⟨_, _, _, h⟩ := Action.bind_eq_ok.1 h
    simp at h

/-- Reading a row does not make new rows. -/
theorem pending_cellsFrom {encoding : Text.Encoding} {statement : η} {index : Nat}
    {columns : List ColumnInfo} {s s' : σ} {row : List Value}
    (h : cellsFrom client r encoding statement index columns s = (.ok row, s')) :
    client.pending statement s' ≤ client.pending statement s := by
  induction columns generalizing index s row with
  | nil =>
    cases h
    exact Nat.le_refl _
  | cons column rest ih =>
    obtain ⟨reply, s₁, asked, h⟩ := Action.bind_eq_ok.1 h
    obtain ⟨cell, s₂, there, h⟩ := Action.bind_eq_ok.1 h
    obtain ⟨value, s₃, read, h⟩ := Action.bind_eq_ok.1 h
    obtain ⟨others, s₄, more, h⟩ := Action.bind_eq_ok.1 h
    obtain ⟨_, rfl⟩ := Action.pure_eq_ok.1 h
    have e₁ : (client.answer (.cell statement index) s).2 = s₁ := congrArg Prod.snd asked
    have e₂ : s₂ = s₁ := state_require client r there
    have e₃ : s₂ = s₃ := congrArg Prod.snd read
    have bound := client.pending_cell statement index s
    rw [e₁, ← e₂, e₃] at bound
    exact Nat.le_trans (ih more) bound

/-- All rows that are still to come. -/
def rows (encoding : Text.Encoding) (columns : List ColumnInfo) (statement : η) (s : σ) :
    Except Fault (List (List Value)) × σ :=
  match _fetched : client.answer (.fetch statement) s with
  | (false, s₁) => (.ok [], s₁)
  | (true, s₁) =>
    match _read : cellsFrom client r encoding statement 0 columns s₁ with
    | (.error fault, s₂) => (.error fault, s₂)
    | (.ok row, s₂) =>
      match rows encoding columns statement s₂ with
      | (.error fault, s₃) => (.error fault, s₃)
      | (.ok rest, s₃) => (.ok (row :: rest), s₃)
termination_by client.pending statement s
decreasing_by
  have fewer := client.pending_fetch statement s (by rw [_fetched])
  rw [_fetched] at fewer
  exact Nat.lt_of_le_of_lt (pending_cellsFrom client r _read) fewer

end Client

end Anywhere
