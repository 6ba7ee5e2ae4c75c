import Anywhere.Column.Definition
import Anywhere.Proofs.TypeGrammar

/-!
# Column types read back

Schema changes write column types that the catalog then tells. Most of them are fixed words. Those
with a size are a name and numbers in parentheses, and these are read as they were written whatever
the numbers are (`TypeName.ofText?_numbers`).

So what is told of a column is known when its type is written (`Metadata.catalogued`). It is not
always what was asked for, since there are fewer column types than logical types with a size, but a
second column that is made from it is told the same.
-/

namespace Anywhere.Column

open Anywhere.Number (digits)
open Anywhere.Text (isBlank stripBlanks)

/-! ## Numbers in parentheses -/

namespace TypeName

theorem numeral_digits (n : UInt32) : Numeral (digits n.toNat) n :=
  ⟨Number.digits_ne_nil _, Number.allDigits_digits _, Number.ofDigits_digits _⟩

/-- A width, and a scale where there is one, as they are written. -/
def numbers (width : UInt32) (scale : Option UInt32) : List Char :=
  digits width.toNat ++ scale.elim [] fun n => ',' :: digits n.toNat

theorem arguments_numbers (width : UInt32) (scale : Option UInt32) :
    Arguments ('(' :: (numbers width scale ++ [')'])) width scale := by
  have hspace : Space [] := List.forall_mem_nil _
  cases scale with
  | none =>
    rw [numbers, Option.elim_none, List.append_nil]
    exact .width hspace (numeral_digits width) hspace
  | some n =>
    rw [numbers, Option.elim_some, List.append_assoc, List.cons_append]
    exact .widthScale hspace (numeral_digits width) hspace hspace (numeral_digits n) hspace

/-- What can stand in front of a parenthesis: name characters, of which the first leaves ink. -/
structure IsName (name : List Char) : Prop where
  nonempty : name ≠ []
  named : name.all isNameChar = true
  begins : isBlank (name.head nonempty) = false

theorem stripBlanks_parenthesised {name : List Char} (h : IsName name) (inner : List Char) :
    stripBlanks (name ++ '(' :: (inner ++ [')'])) = name ++ '(' :: (inner ++ [')']) := by
  have hne : name ++ '(' :: (inner ++ [')']) ≠ [] := List.append_ne_nil_of_left_ne_nil h.nonempty _
  refine Text.stripBlanks_eq_self hne ?_ ?_
  · rw [List.head_append_of_ne_nil h.nonempty]
    exact h.begins
  · -- whatever is inside, the parenthesis is last
    have hlast : (name ++ '(' :: (inner ++ [')'])).getLast hne = ')' := by simp
    rw [hlast]
    decide

/-- **A name with numbers reads back, whatever the numbers are.** -/
theorem ofText?_numbers {name : List Char} (h : IsName name) (width : UInt32)
    (scale : Option UInt32) :
    ofText? (String.ofList (name ++ '(' :: (numbers width scale ++ [')']))) =
      .ok ⟨joinWords name, some width, scale⟩ := by
  have hname : Name name := ⟨h.nonempty, List.all_eq_true.mp h.named⟩
  have hstrip := stripBlanks_parenthesised h (numbers width scale)
  rw [joinWords_eq hname]
  refine ofText?_of_outcome ?_
  rw [String.toList_ofList, hstrip]
  exact .accepted (.sized hname (arguments_numbers width scale))

end TypeName

namespace Metadata

open Column.TypeName

/-- What is told of a type with numbers in parentheses. -/
theorem ofText?_numbers {name : List Char} (h : IsName name) {text : String} {width : UInt32}
    {scale : Option UInt32} (htext : text.toList = name ++ '(' :: (numbers width scale ++ [')'])) :
    ofText? text = .ok (ofTypeName text ⟨joinWords name, some width, scale⟩) := by
  have hlist : text = String.ofList (name ++ '(' :: (numbers width scale ++ [')'])) := by
    rw [← htext, String.ofList_toList]
  have htrim : Text.trim text = text := by
    rw [Text.trim, htext, stripBlanks_parenthesised h, ← hlist]
  have hread := TypeName.ofText?_numbers h width scale
  rw [← hlist] at hread
  rw [ofText?, hread, htrim]
  rfl

/-! ## What the catalog tells -/

/-- The width in bytes of the integer column that is made for a limit. -/
def columnWidth : Option UInt32 → UInt32
  | some 1 => 1
  | some 2 => 2
  | some n => if 5 ≤ n ∧ n ≤ 8 then 8 else 4
  | none => 4

/-- What the catalog tells of a column whose type was written for a logical type with its size. -/
def catalogued (type : LogicalType) (limit precision scale : Option UInt32) : Metadata :=
  let text := Column.definition type limit precision scale
  match type with
  | .integer =>
    if columnWidth limit = 1 then ⟨text, .boolean, some 1, none, none⟩
    else ⟨text, .integer, some (columnWidth limit), none, none⟩
  | .string => ⟨text, .string, some (limit.getD 255), none, none⟩
  | .boolean => ⟨text, .boolean, some 1, none, none⟩
  | .binary => ⟨text, .binary, limit, none, none⟩
  | .decimal => ⟨text, .decimal, none, precision, precision.bind fun _ => scale⟩
  | .timestamp => ⟨text, .dateTime, none, none, none⟩
  | .primaryKey => ⟨text, .integer, some 4, none, none⟩
  | type => ⟨text, type, none, none, none⟩

/-- What the catalog tells of the column types that are fixed words. -/
def fixedTypes : List Metadata := [
  ⟨"INTEGER PRIMARY KEY DEFAULT AUTOINCREMENT NOT NULL", .integer, some 4, none, none⟩,
  ⟨"tinyint", .boolean, some 1, none, none⟩,
  ⟨"smallint", .integer, some 2, none, none⟩,
  ⟨"integer", .integer, some 4, none, none⟩,
  ⟨"bigint", .integer, some 8, none, none⟩,
  ⟨"varchar(255)", .string, some 255, none, none⟩,
  ⟨"long varchar", .text, none, none, none⟩,
  ⟨"float", .float, none, none, none⟩,
  ⟨"decimal", .decimal, none, none, none⟩,
  ⟨"datetime", .dateTime, none, none, none⟩,
  ⟨"time", .time, none, none, none⟩,
  ⟨"date", .date, none, none, none⟩,
  ⟨"long binary", .binary, none, none, none⟩]

theorem ofText?_fixed : ∀ m ∈ fixedTypes, ofText? m.sqlType = .ok m := by
  decide +kernel

theorem catalogued_integer (limit precision scale : Option UInt32) :
    catalogued .integer limit precision scale ∈ fixedTypes := by
  have htext : Column.definition .integer limit precision scale = integerType limit := rfl
  simp only [catalogued, htext]
  fun_cases columnWidth limit with
  | case1 => decide
  | case2 => decide
  | case3 n _ _ hwide =>
    have htype : integerType (some n) = "bigint" := by simp [integerType, hwide]
    rw [htype]
    decide
  | case4 n _ _ hother =>
    have htype : integerType (some n) = "integer" := by simp [integerType, hother]
    rw [htype]
    decide
  | case5 => decide

theorem catalogued_sqlType (type : LogicalType) (limit precision scale : Option UInt32) :
    (catalogued type limit precision scale).sqlType =
      Column.definition type limit precision scale := by
  cases type with
  | integer =>
    rw [catalogued]
    split <;> rfl
  | _ => rfl

/-- A type that is fixed words is told as it stands in the list. -/
theorem ofText?_of_fixed {type : LogicalType} {limit precision scale : Option UInt32}
    (h : catalogued type limit precision scale ∈ fixedTypes) :
    ofText? (Column.definition type limit precision scale) =
      .ok (catalogued type limit precision scale) := by
  rw [← catalogued_sqlType]
  exact ofText?_fixed _ h

/-- A type with a limit. The space in front of the parenthesis is read with the name. -/
theorem ofText?_sized {name : String} (h : IsName (name ++ " ").toList)
    (hwords : joinWords (name ++ " ").toList = name)
    (hlimited : logicalType name ∉ [.decimal, .integer, .boolean]) (n : UInt32) :
    ofText? (sized name n) = .ok ⟨sized name n, logicalType name, some n, none, none⟩ := by
  have htext : (sized name n).toList =
      (name ++ " ").toList ++ '(' :: (numbers n none ++ [')']) := by
    simp [sized, numbers, Number.ofNat]
  rw [ofText?_numbers h htext, hwords, ofTypeName]
  split <;> simp_all

theorem ofText?_decimal (precision : UInt32) (scale : Option UInt32) :
    ofText? (Column.definition .decimal none (some precision) scale) =
      .ok (catalogued .decimal none (some precision) scale) := by
  have hname : IsName "decimal".toList := ⟨by decide, by decide, by decide⟩
  have hwords : joinWords "decimal".toList = "decimal" := by decide +kernel
  have htype : logicalType "decimal" = .decimal := by decide +kernel
  have htext : (Column.definition .decimal none (some precision) scale).toList =
      "decimal".toList ++ '(' :: (numbers precision scale ++ [')']) := by
    cases scale <;> simp [Column.definition, numbers, Number.ofNat]
  rw [ofText?_numbers hname htext, hwords]
  simp only [ofTypeName, htype, catalogued, Option.bind_some]

/-- A written column type reads back as what is catalogued. -/
theorem ofText?_definition (type : LogicalType) (limit precision scale : Option UInt32) :
    ofText? (Column.definition type limit precision scale) =
      .ok (catalogued type limit precision scale) := by
  cases type with
  | integer => exact ofText?_of_fixed (catalogued_integer limit precision scale)
  | string =>
    cases limit with
    | none => exact ofText?_of_fixed (by simp [catalogued, Column.definition, fixedTypes])
    | some n =>
      have hname : IsName ("varchar" ++ " ").toList := ⟨by decide, by decide, by decide⟩
      exact ofText?_sized hname (by decide +kernel) (by decide +kernel) n
  | binary =>
    cases limit with
    | none => exact ofText?_of_fixed (by simp [catalogued, Column.definition, fixedTypes])
    | some n =>
      have hname : IsName ("binary" ++ " ").toList := ⟨by decide, by decide, by decide⟩
      exact ofText?_sized hname (by decide +kernel) (by decide +kernel) n
  | decimal =>
    cases precision with
    | none => exact ofText?_of_fixed (by simp [catalogued, Column.definition, fixedTypes])
    | some n => exact ofText?_decimal n scale
  | _ =>
    exact ofText?_of_fixed
      (by simp [catalogued, Column.definition, LogicalType.defaultColumn, fixedTypes])

theorem columnWidth_columnWidth (limit : Option UInt32) :
    columnWidth (some (columnWidth limit)) = columnWidth limit := by
  fun_cases columnWidth limit <;> decide

/-- A column that is made after what is told of another is told the same. -/
theorem catalogued_catalogued (type : LogicalType) (limit precision scale : Option UInt32) :
    let m := catalogued type limit precision scale
    catalogued m.type m.limit m.precision m.scale = { m with sqlType := m.definition } := by
  cases type with
  | integer =>
    -- one byte is told as a boolean, which is written as one byte again
    by_cases hwidth : columnWidth limit = 1
    · simp [catalogued, hwidth, Metadata.definition]
    · simp [catalogued, hwidth, columnWidth_columnWidth, Metadata.definition]
  | string => rfl
  | binary => rfl
  | decimal => cases precision <;> rfl
  | _ => rfl

/-- **Column types settle after one reading.** What is read of a written column type is what is
catalogued for it, and the column type that is written for this reads as the same. -/
theorem definition_settles (type : LogicalType) (limit precision scale : Option UInt32) :
    let m := catalogued type limit precision scale
    ofText? (Column.definition type limit precision scale) = .ok m ∧
      ofText? m.definition = .ok { m with sqlType := m.definition } := by
  intro m
  have hsame := catalogued_catalogued type limit precision scale
  have hagain := ofText?_definition m.type m.limit m.precision m.scale
  rw [hsame] at hagain
  exact ⟨ofText?_definition type limit precision scale, hagain⟩

end Metadata

end Anywhere.Column
