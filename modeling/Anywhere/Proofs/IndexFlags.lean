import Anywhere.Proofs.AnsweringClients
import Anywhere.Proofs.FetchedRows
import Anywhere.Session.Schema

/-!
# Which indexes are unique

The catalog tells by a number whether an index is unique, and 1 stands for one that is. The number
is a cell like any other, so it is first read as the type of its column says, and only then compared
with 1. A column of tiny integers is read as truth values, and there every number but 0 becomes a 1;
`Session.indexes_unique` says for all columns of integers what the flag of an index comes to.

The rows of the question and the indexes in the answer are not side by side: a row without a name is
passed over. Hence a row of a result is looked at as a whole (`Schema.indexRow?`), in front of the
cells that it was read from (`Decodes.rel_valueOf?`).
-/

namespace Anywhere

open Anywhere.Action Anywhere.Operation Schema

variable {σ κ η α β : Type}

/-! ## Loops -/

/-- What is true of each turn is true of each item and what comes of it. -/
theorem Action.forall₂_of_mapM {f : α → Action σ β} {P : α → β → Prop} {items : List α}
    {results : List β} {s t : σ} (hturn : ∀ a s b t, f a s = (.ok b, t) → P a b)
    (h : items.mapM f s = (.ok results, t)) : List.Forall₂ P items results := by
  induction items generalizing results s t with
  | nil =>
    rw [List.mapM_nil] at h
    obtain ⟨rfl, -⟩ := pure_eq_ok.1 h
    exact .nil
  | cons a rest ih =>
    rw [List.mapM_cons] at h
    obtain ⟨b, s₁, hfirst, h⟩ := bind_eq_ok.1 h
    obtain ⟨others, s₂, hrest, h⟩ := bind_eq_ok.1 h
    obtain ⟨rfl, -⟩ := pure_eq_ok.1 h
    exact .cons (hturn a s b s₁ hfirst) (ih hrest)

/-! ## Cells by the names of their columns -/

/-- The value of a row under a name, of which the first one counts. -/
def valueOf? (columns : List String) (row : List Value) (name : String) : Option Value :=
  (columns.findIdx? (Text.eqIgnoringCase · name)).bind (row[·]?)

/-- The cell that was read for a name, with its column. -/
def field? (columns : List ColumnInfo) (cells : List WireValue) (name : String) :
    Option (ColumnInfo × WireValue) :=
  (columns.zip cells).find? fun field => Text.eqIgnoringCase field.1.name name

theorem ResultSet.get?_eq (r : ResultSet) (row : Nat) (name : String) :
    r.get? row name = r.rows[row]?.bind (valueOf? r.columns · name) := by
  unfold get? valueOf? columnIndex?
  cases r.columns.findIdx? (Text.eqIgnoringCase · name) <;> cases r.rows[row]? <;> rfl

/-- What is read under a name is the value of the cell under that name. -/
theorem Decodes.rel_valueOf? {encoding : Text.Encoding} {columns : List ColumnInfo}
    {cells : List WireValue} {row : List Value} (h : Decodes encoding columns cells row)
    (name : String) :
    Option.Rel (fun field value => field.2.toValue field.1.type encoding = .ok value)
      (field? columns cells name) (valueOf? (columns.map ColumnInfo.name) row name) := by
  induction columns generalizing cells row with
  | nil => exact .none
  | cons column rest ih =>
    obtain ⟨cell, cells, value, row, rfl, rfl, hvalue, hrest⟩ := h.uncons
    have hsame := ih hrest
    unfold field? valueOf? at hsame ⊢
    rw [List.zip_cons_cons, List.find?_cons, List.map_cons, List.findIdx?_cons]
    cases Text.eqIgnoringCase column.name name with
    | true => exact .some hvalue
    | false =>
      rw [if_neg Bool.false_ne_true, Option.bind_map]
      exact hsame

/-! ## Numbers -/

/-- The number in a cell that holds an integer. -/
def WireValue.number? : WireValue → Option Int
  | int n => some n.toInt
  | uint n => some n.toNat
  | _ => none

/-- The types of columns that hold integers. -/
def NativeType.isInteger (type : NativeType) : Bool :=
  [tinyInt, smallInt, int, bigInt, unsignedSmallInt, unsignedInt, unsignedBigInt].contains type

/-- Integers are passed through, unless they are tiny. -/
theorem NativeType.family_of_isInteger {type : NativeType} (h : type.isInteger = true) :
    type.family = if type = tinyInt then .flag else .other := by
  have hall : ∀ type ∈ [tinyInt, smallInt, int, bigInt, unsignedSmallInt, unsignedInt,
      unsignedBigInt], type.family = if type = tinyInt then .flag else .other := by
    decide
  exact hall type (List.contains_iff_mem.mp h)

theorem Value.int64?_eq_some_iff {n : Int} {m : Int64} : int64? n = some m ↔ n = m.toInt := by
  have hlow := Int64.le_toInt m
  have hhigh := Int64.toInt_lt m
  rw [int64?]
  split
  · next h =>
    rw [Option.some_inj]
    constructor
    · rintro rfl
      exact (Int64.toInt_ofInt_of_le h.1 h.2).symm
    · rintro rfl
      exact Int64.ofInt_toInt m
  · next h =>
    refine iff_of_false nofun ?_
    rintro rfl
    exact h ⟨hlow, hhigh⟩

theorem Number.Decimal.toInt?_ofUInt64 (n : UInt64) :
    (ofUInt64 n).toInt? = some (n.toNat : Int) := by
  simp [toInt?, ofUInt64, tenTo, Nat.mod_one]

theorem Value.integer?_ofUInt64 (n : UInt64) : (ofUInt64 n).integer? = int64? n.toNat := by
  rw [ofUInt64]
  cases hroom : int64? n.toNat with
  | some k => rfl
  | none =>
    rw [Option.map_none, Option.getD_none, integer?, Number.Decimal.toInt?_ofUInt64,
      Option.bind_some, hroom]

theorem Value.ofUInt64_ne_null (n : UInt64) : ofUInt64 n ≠ null := by
  rw [ofUInt64]
  cases int64? n.toNat <;> exact Value.noConfusion

namespace WireValue

/-- A number that is passed through is the number that it was, as far as there is room for it. -/
theorem integer?_passThrough (encoding : Text.Encoding) {cell : WireValue} {n : Int}
    (h : cell.number? = some n) : (cell.passThrough encoding).integer? = Value.int64? n := by
  cases cell with
  | int m =>
    cases h
    exact (Value.int64?_eq_some_iff.mpr rfl).symm
  | uint m =>
    cases h
    exact Value.integer?_ofUInt64 m
  | _ => cases h

/-- As a truth value, a number is 1 if it is not 0. -/
theorem integer?_toFlag (encoding : Text.Encoding) {cell : WireValue} {n : Int}
    (h : cell.number? = some n) :
    (cell.toFlag encoding).integer? = some (if n = 0 then 0 else 1) := by
  cases cell with
  | int m =>
    cases h
    simp [toFlag, Value.integer?, ← Int64.toInt_inj]
  | uint m =>
    cases h
    simp [toFlag, Value.integer?, ← UInt64.toNat_inj]
  | _ => cases h

/-- In a column of integers a number is read as 1 if it is 1, and in one of tiny integers if it is
not 0. -/
theorem integer?_toValue {encoding : Text.Encoding} {type : NativeType} {cell : WireValue} {n : Int}
    {value : Value} (htype : type.isInteger = true) (hnumber : cell.number? = some n)
    (hvalue : cell.toValue type encoding = .ok value) :
    value.integer? = some 1 ↔ n = 1 ∨ type = .tinyInt ∧ n ≠ 0 := by
  have hnull : cell ≠ null := by
    rintro rfl
    cases hnumber
  rw [toValue, if_neg hnull, NativeType.family_of_isInteger htype] at hvalue
  by_cases htiny : type = .tinyInt
  · rw [if_pos htiny] at hvalue
    cases hvalue
    rw [integer?_toFlag encoding hnumber]
    by_cases hzero : n = 0 <;> simp [htiny, hzero]
  · rw [if_neg htiny] at hvalue
    cases hvalue
    rw [integer?_passThrough encoding hnumber, Value.int64?_eq_some_iff]
    simp [htiny]

theorem passThrough_ne_null {encoding : Text.Encoding} {cell : WireValue} (h : cell ≠ null) :
    cell.passThrough encoding ≠ .null := by
  cases cell with
  | null => exact absurd rfl h
  | uint n =>
    exact Value.ofUInt64_ne_null n
  | _ => exact Value.noConfusion

theorem toFlag_ne_null {encoding : Text.Encoding} {cell : WireValue} (h : cell ≠ null) :
    cell.toFlag encoding ≠ .null := by
  rw [toFlag.eq_def]
  split <;> first | exact Value.noConfusion | exact passThrough_ne_null h

theorem toText_ne_null {encoding : Text.Encoding} {cell : WireValue} (h : cell ≠ null) :
    cell.toText encoding ≠ .null := by
  rw [toText.eq_def]
  split <;> first | exact Value.noConfusion | exact passThrough_ne_null h

theorem toTemporal_ne_null {encoding : Text.Encoding} {make : α → Value} {read : String → Option α}
    {cell : WireValue} (h : cell ≠ null) (hmake : ∀ a, make a ≠ .null) :
    cell.toTemporal encoding (fun s => (read s).map make) ≠ .null := by
  cases cell with
  | text bytes =>
    rw [toTemporal]
    cases read (Text.trim (encoding.decode bytes)) with
    | none => exact Value.noConfusion
    | some a => exact hmake a
  | _ =>
    rw [toTemporal]
    · exact passThrough_ne_null h
    · nofun

/-- Only null is read as null. -/
theorem toValue_eq_null_iff (encoding : Text.Encoding) (type : NativeType) {cell : WireValue} :
    cell.toValue type encoding = .ok .null ↔ cell = null := by
  refine ⟨fun hvalue => by_contra fun h => ?_, fun h => by rw [h, toValue_null]⟩
  rw [toValue, if_neg h] at hvalue
  cases hfamily : type.family <;> rw [hfamily] at hvalue
  case decimal => cases hdecimal : cell.toDecimal <;> rw [hdecimal] at hvalue <;> cases hvalue
  case flag => exact toFlag_ne_null h (Except.ok.inj hvalue)
  case character => exact toText_ne_null h (Except.ok.inj hvalue)
  case date => exact toTemporal_ne_null h (fun _ => Value.noConfusion) (Except.ok.inj hvalue)
  case time => exact toTemporal_ne_null h (fun _ => Value.noConfusion) (Except.ok.inj hvalue)
  case timestamp => exact toTemporal_ne_null h (fun _ => Value.noConfusion) (Except.ok.inj hvalue)
  case other => exact passThrough_ne_null h (Except.ok.inj hvalue)

/-- Only a cell that is null has no text. -/
theorem textOfCell_eq_none_iff {encoding : Text.Encoding} {type : NativeType} {cell : WireValue}
    {value : Value} (h : cell.toValue type encoding = .ok value) :
    textOfCell value = none ↔ cell = null := by
  rw [← toValue_eq_null_iff encoding type, h, Except.ok.injEq]
  cases value <;> simp [textOfCell]

end WireValue

/-! ## Rows of the index query -/

namespace Schema

/-- The name and the flag of the index in a row, if there is a name. -/
def indexRow? (columns : List String) (row : List Value) : Option (String × Bool) :=
  ((valueOf? columns row "index_name").bind textOfCell).map fun name =>
    (name, (valueOf? columns row "unique").bind Value.integer? == some 1)

theorem filterMap_range_getElem? (f : α → Option β) (items : List α) :
    ((List.range items.length).filterMap fun i => items[i]?.bind f) = items.filterMap f := by
  induction items with
  | nil => rfl
  | cons a rest ih =>
    rw [List.length_cons, List.range_succ_eq_map, List.filterMap_cons, List.filterMap_map,
      List.filterMap_cons, ← ih]
    rfl

theorem indexRows_eq (r : ResultSet) : indexRows r = r.rows.filterMap (indexRow? r.columns) := by
  rw [← filterMap_range_getElem? (indexRow? r.columns) r.rows]
  refine List.filterMap_congr fun i _ => ?_
  rw [textAt?, isOneAt, ResultSet.get?_eq, ResultSet.get?_eq]
  cases r.rows[i]? <;> rfl

/-- The cells have the name of an index. -/
def hasName (columns : List ColumnInfo) (cells : List WireValue) : Bool :=
  (field? columns cells "index_name").any fun field => field.2 ≠ .null

/-- The flag is what becomes of the number under its name, if there is one in a column of
integers. -/
def FlagOf (columns : List ColumnInfo) (cells : List WireValue) (unique : Bool) : Prop :=
  ∀ column cell n, field? columns cells "unique" = some (column, cell) →
    column.type.isInteger = true → cell.number? = some n →
    (unique = true ↔ n = 1 ∨ column.type = .tinyInt ∧ n ≠ 0)

section Decodes

variable {encoding : Text.Encoding} {columns : List ColumnInfo} {cells : List WireValue}
  {row : List Value} (h : Decodes encoding columns cells row)
include h

theorem flagOf_valueOf? : FlagOf columns cells
    ((valueOf? (columns.map ColumnInfo.name) row "unique").bind Value.integer? == some 1) := by
  intro column cell n hfield htype hnumber
  have hunique := h.rel_valueOf? "unique"
  rw [hfield] at hunique
  generalize valueOf? (columns.map ColumnInfo.name) row "unique" = value at hunique ⊢
  cases hunique with
  | some hvalue =>
    rw [Option.bind_some, beq_iff_eq, WireValue.integer?_toValue htype hnumber hvalue]

theorem isSome_name : ((valueOf? (columns.map ColumnInfo.name) row "index_name").bind
    textOfCell).isSome = hasName columns cells := by
  have hname := h.rel_valueOf? "index_name"
  rw [hasName]
  generalize field? columns cells "index_name" = field at hname ⊢
  generalize valueOf? (columns.map ColumnInfo.name) row "index_name" = value at hname ⊢
  cases hname with
  | none => rfl
  | some hvalue =>
    rw [Option.bind_some, Option.any_some, Bool.eq_iff_iff, decide_eq_true_eq,
      Option.isSome_iff_ne_none]
    exact not_congr (WireValue.textOfCell_eq_none_iff hvalue)

/-- There is an index in a row exactly if there is a name in its cells, and the flag fits. -/
theorem rel_indexRow? :
    Option.Rel (fun cells index => FlagOf columns cells index.2)
      (Option.guard (hasName columns) cells) (indexRow? (columns.map ColumnInfo.name) row) := by
  rw [indexRow?, Option.guard, ← isSome_name h]
  cases (valueOf? (columns.map ColumnInfo.name) row "index_name").bind textOfCell with
  | none => exact .none
  | some name => exact .some (flagOf_valueOf? h)

end Decodes

end Schema

/-! ## Indexes -/

namespace Session

variable {client : Client σ κ η} {table : String}

/-- The indexes in the answer are those of the rows, one by one. -/
theorem indexes_eq_ok {p q : Session κ × σ} {found : List Index}
    (h : indexes client table p = (.ok found, q)) :
    ∃ result, (query client (indexesQuery table) [] p).1 = .ok result ∧
      indexRows result = found.map fun index => (index.name, index.unique) := by
  obtain ⟨result, p₁, hquery, hloop⟩ := bind_eq_ok.1 h
  refine ⟨result, by rw [hquery], ?_⟩
  rw [← List.forall₂_eq_eq_eq, List.forall₂_map_right_iff]
  refine forall₂_of_mapM ?_ hloop
  rintro ⟨name, unique⟩ s index t hturn
  obtain ⟨columns, s₁, -, hindex⟩ := bind_eq_ok.1 hturn
  obtain ⟨rfl, -⟩ := pure_eq_ok.1 hindex
  rfl

/-- **The flag of an index says whether its number is 1,** unless the number comes from a column of
tiny integers: there it says whether the number is not 0. -/
theorem indexes_unique (client : Client σ κ η) (session : Session κ) (s : σ) (table : String)
    {found : List Index} (hfound : (indexes client table (session, s)).1 = .ok found) :
    let asked := query client.recorded (indexesQuery table) [] (session, s, [])
    ∃ result statement columns rows, asked.1 = .ok result ∧
      Reads session.encoding (record asked.2).reverse statement columns rows result ∧
      List.Forall₂ (fun cells index => FlagOf columns cells index.unique)
        (rows.filter (hasName columns)) found := by
  intro asked
  obtain ⟨result, hquery, hrows⟩ := indexes_eq_ok (Prod.ext hfound rfl)
  have hasked : asked.1 = .ok result :=
    (query_matches client.recorded_matches (indexesQuery table) [] (session, s, []) (session, s)
      ⟨rfl, rfl⟩).1.trans hquery
  obtain ⟨statement, columns, rows, hreads⟩ :=
    (query_reads client (indexesQuery table) [] session s).1 result hasked
  refine ⟨result, statement, columns, rows, hasked, hreads, ?_⟩
  have hflags : List.Forall₂ (fun cells index => FlagOf columns cells index.2)
      (rows.filterMap (Option.guard (hasName columns)))
      (result.rows.filterMap (indexRow? (columns.map ColumnInfo.name))) :=
    List.rel_filterMap (fun _ _ h => rel_indexRow? h) hreads.rows_eq
  rw [List.filterMap_eq_filter, ← hreads.columns_eq, ← indexRows_eq, hrows,
    List.forall₂_map_right_iff] at hflags
  exact hflags

/-- One index, whose number is 2, as the answer to every question. -/
def answerTwo (type : NativeType) (_sql : String) : Option Answer :=
  some ⟨[⟨"index_name", .varchar⟩, ⟨"unique", type⟩], [[.text [105], .int 2]]⟩

theorem indexes_unique_int :
    let asked := query (AnswerServer.client (answerTwo .int)).recorded (indexesQuery "orders") []
      (AnswerServer.session, none, [])
    ∃ result statement columns rows, asked.1 = .ok result ∧
      Reads .utf8 (record asked.2).reverse statement columns rows result ∧
      List.Forall₂ (fun cells (index : Index) => FlagOf columns cells index.unique)
        (rows.filter (hasName columns)) [⟨"orders", "i", false, []⟩] :=
  indexes_unique (AnswerServer.client (answerTwo .int)) AnswerServer.session none "orders"
    (by decide +kernel)

/-- The number 2 makes an index unique if its column says that it is a tiny integer, and not if it
says that it is an integer. -/
theorem indexes_tinyTwo_unique :
    (indexes (AnswerServer.client (answerTwo .tinyInt)) "orders" (AnswerServer.session, none)).1 =
        .ok [⟨"orders", "i", true, []⟩] ∧
      (indexes (AnswerServer.client (answerTwo .int)) "orders" (AnswerServer.session, none)).1 =
        .ok [⟨"orders", "i", false, []⟩] := by
  decide +kernel

end Session

end Anywhere
