import Anywhere.Proofs.IndexFlags
import Anywhere.Proofs.RoundTrip

/-!
# Numbers that are fetched

What a cell is read as depends on the type of its column, and there are as many types as there are
codes. Three things hold whatever the code is (`WireValue.toValue_exact`): null is read as null and
nothing else is, only a decimal column can refuse a cell, and a whole number stays the number that
it is unless its column holds flags.

A number has one of two forms. Signed words are values of their own. An unsigned word is read as a
signed one as long as it is one, so from 2⁶³ on it becomes a decimal, in which every word of 64
bits has room. A decimal column makes decimals of all numbers.
-/

namespace Anywhere

open Number

/-- The value is the number, as an integer or as a decimal. -/
def Value.Denotes : Value → Int → Prop
  | .int m, n => m.toInt = n
  | .decimal d, n => d.signedMantissa = n * Number.tenTo d.scale
  | _, _ => False

/-- The value has the form of a decimal. -/
def Value.IsDecimal (v : Value) : Prop := ∃ d, v = .decimal d

theorem Value.not_isDecimal_int (k : Int64) : ¬ (int k).IsDecimal := by
  rintro ⟨d, hd⟩
  cases hd

theorem Number.Decimal.signedMantissa_ofInt64 (n : Int64) :
    (ofInt64 n).signedMantissa = n.toInt := by
  have hsign : n < 0 ↔ n.toInt < 0 := Int64.lt_iff_toInt_lt
  rw [signedMantissa, ofInt64]
  dsimp only
  by_cases hneg : n.toInt < 0
  · rw [if_pos (decide_eq_true (hsign.mpr hneg))]
    omega
  · rw [if_neg (by simpa using mt hsign.mp hneg)]
    omega

namespace WireValue

variable {type : NativeType} {encoding : Text.Encoding} {cell : WireValue} {n : Int}

/-! ## Cells that are refused -/

/-- The cell is a double or made of bytes. -/
inductive IsInexact : WireValue → Prop
  | double (x : Double) : IsInexact (double x)
  | text (bytes : List UInt8) : IsInexact (text bytes)
  | binary (bytes : List UInt8) : IsInexact (binary bytes)

/-- Null and numbers always have a decimal. -/
theorem isInexact_of_toDecimal_eq_error {fault : Fault} (h : cell.toDecimal = .error fault) :
    cell.IsInexact := by
  cases cell with
  | null => exact nomatch h
  | int m => exact nomatch h
  | uint m => exact nomatch h
  | double x => exact .double x
  | text bytes => exact .text bytes
  | binary bytes => exact .binary bytes

/-- Every family of columns but one has a value for each cell. -/
theorem toValue_eq_error {fault : Fault} (h : cell.toValue type encoding = .error fault) :
    type = .decimal ∧ cell.toDecimal = .error fault := by
  have hnull : cell ≠ null := by
    rintro rfl
    cases h
  rw [toValue, if_neg hnull] at h
  cases hfamily : type.family <;> rw [hfamily] at h
  case decimal =>
    refine ⟨NativeType.family_eq_decimal_iff.mp hfamily, ?_⟩
    cases hdecimal : cell.toDecimal <;> rw [hdecimal] at h <;> cases h
    rfl
  all_goals cases h

/-! ## Cells that hold numbers -/

/-- The decimal of a number has no places. -/
theorem toValue_decimal_of_number (encoding : Text.Encoding) (h : cell.number? = some n) :
    ∃ d, cell.toValue .decimal encoding = .ok (.decimal d) ∧ d.signedMantissa = n ∧
      d.scale = 0 := by
  cases cell with
  | int m =>
    cases h
    exact ⟨.ofInt64 m, rfl, Decimal.signedMantissa_ofInt64 m, rfl⟩
  | uint m =>
    cases h
    exact ⟨.ofUInt64 m, rfl, Decimal.signedMantissa_ofUInt64 m, rfl⟩
  | _ => cases h

/-- Character columns and those of dates and times look at bytes only. -/
theorem toValue_of_number (h : cell.number? = some n) (hdecimal : type ≠ .decimal)
    (hflag : ¬ (type = .tinyInt ∨ type = .bit)) :
    cell.toValue type encoding = .ok (cell.passThrough encoding) := by
  have hnull : cell ≠ null := by
    rintro rfl
    cases h
  rw [toValue, if_neg hnull]
  cases hfamily : type.family
  case decimal => exact absurd (NativeType.family_eq_decimal_iff.mp hfamily) hdecimal
  case flag => exact absurd (NativeType.family_eq_flag_iff.mp hfamily) hflag
  all_goals
    cases cell with
    | int m => rfl
    | uint m => rfl
    | _ => cases h

theorem denotes_ofUInt64 (m : UInt64) :
    (Value.ofUInt64 m).Denotes m.toNat ∧
      ((Value.ofUInt64 m).IsDecimal ↔ 0x8000000000000000 ≤ (m.toNat : Int)) := by
  rw [Value.ofUInt64]
  cases hroom : Value.int64? m.toNat with
  | some k =>
    have hk := Value.int64?_eq_some_iff.mp hroom
    have hlt := Int64.toInt_lt k
    exact ⟨hk.symm, iff_of_false (Value.not_isDecimal_int k) (by omega)⟩
  | none =>
    have hlarge : ¬ (m.toNat : Int) < 0x8000000000000000 := by
      intro hlt
      rw [Value.int64?, if_pos ⟨by omega, hlt⟩] at hroom
      cases hroom
    refine ⟨?_, iff_of_true ⟨_, rfl⟩ (by omega)⟩
    exact (Decimal.signedMantissa_ofUInt64 m).trans (Int.mul_one _).symm

/-- A number is passed through as the number that it is. -/
theorem denotes_passThrough (encoding : Text.Encoding) (h : cell.number? = some n) :
    (cell.passThrough encoding).Denotes n ∧
      ((cell.passThrough encoding).IsDecimal ↔ 0x8000000000000000 ≤ n) := by
  cases cell with
  | int m =>
    cases h
    have hlt := Int64.toInt_lt m
    exact ⟨rfl, iff_of_false (Value.not_isDecimal_int m) (by omega)⟩
  | uint m =>
    cases h
    exact denotes_ofUInt64 m
  | _ => cases h

/-- **Cells are read exactly.** Only null is read as null, only a decimal column refuses a cell, and
that only if it holds no number, and where there are no flags a number is read as the same number;
it is a decimal in a decimal column, or if there is no room for it among the signed words. -/
theorem toValue_exact (type : NativeType) (encoding : Text.Encoding) (cell : WireValue) :
    (cell.toValue type encoding = .ok .null ↔ cell = .null) ∧
    (∀ fault, cell.toValue type encoding = .error fault → type = .decimal ∧ cell.IsInexact) ∧
    (type ≠ .tinyInt → type ≠ .bit → ∀ n, cell.number? = some n →
      ∃ v, cell.toValue type encoding = .ok v ∧ v.Denotes n ∧
        (v.IsDecimal ↔ type = .decimal ∨ 0x8000000000000000 ≤ n)) := by
  refine ⟨toValue_eq_null_iff encoding type, fun fault hfault => ?_, fun htiny hbit n hn => ?_⟩
  · obtain ⟨htype, hdecimal⟩ := toValue_eq_error hfault
    exact ⟨htype, isInexact_of_toDecimal_eq_error hdecimal⟩
  · by_cases hdecimal : type = .decimal
    · subst hdecimal
      obtain ⟨d, hvalue, hmantissa, hscale⟩ := toValue_decimal_of_number encoding hn
      have hdenotes : d.signedMantissa = n * Number.tenTo d.scale := by
        rw [hscale, hmantissa, Number.tenTo_zero, Int.natCast_one, Int.mul_one]
      exact ⟨.decimal d, hvalue, hdenotes, iff_of_true ⟨d, rfl⟩ (.inl rfl)⟩
    · have hflag : ¬ (type = .tinyInt ∨ type = .bit) := not_or.mpr ⟨htiny, hbit⟩
      obtain ⟨hdenotes, hform⟩ := denotes_passThrough encoding hn
      refine ⟨_, toValue_of_number hn hdecimal hflag, hdenotes, hform.trans ?_⟩
      simp [hdecimal]

end WireValue

end Anywhere
