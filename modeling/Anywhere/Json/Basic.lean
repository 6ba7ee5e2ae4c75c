import Anywhere.Number.Shortest

/-!
# JSON documents

A document keeps what readers of trees and settings need to know about its text: the order of the
members of an object and repeated keys, whether a number was written as an integer, and strings
whose escapes name half of a surrogate pair. Such a string is legal in a document but has no text.
-/

namespace Anywhere

namespace Json

open Anywhere.Number

/-- A number as it is written: `± coefficient / 10 ^ places`, times a power of ten if there is an
exponent. -/
structure Numeral where
  negative : Bool
  coefficient : Nat
  places : Nat
  exponent : Option Int
deriving DecidableEq, Repr

namespace Numeral

/-- The numeral of an integer. -/
def ofInt (n : Int) : Numeral := ⟨n < 0, n.natAbs, 0, none⟩

/-- The integer that a numeral without point and exponent denotes, if it fits into 64 bits with or
without a sign. The text `-0` denotes a number that is no integer. -/
def int? (n : Numeral) : Option Int :=
  if n.places ≠ 0 ∨ n.exponent.isSome then none
  else if n.negative then
    if n.coefficient = 0 ∨ 0x8000000000000000 < n.coefficient then none else some (-n.coefficient)
  else if n.coefficient < 0x10000000000000000 then some n.coefficient else none

/-- The double nearest to the number. -/
def toDouble (n : Numeral) : Double :=
  Double.ofScientific n.negative n.coefficient (n.exponent.getD 0 - n.places)

/-- The numeral of a finite double: its shortest digits, a tie going to an even one; positional from
10 ^ -5 up to 10 ^ 16 with at least one decimal place, and otherwise with one digit in front of the
point and an exponent. -/
def ofDouble (x : Double) : Numeral :=
  if x.isZero then ⟨x.negative, 0, 1, none⟩
  else
    let d := x.shortest .even
    let count : Int := (digits d.coefficient).length
    let leading := count + d.scale
    if 0 ≤ d.scale ∧ leading ≤ 16 then
      ⟨x.negative, d.coefficient * tenTo (d.scale.toNat + 1), 1, none⟩
    else if d.scale < 0 ∧ -5 < leading ∧ leading ≤ 16 then
      ⟨x.negative, d.coefficient, (-d.scale).toNat, none⟩
    else ⟨x.negative, d.coefficient, (count - 1).toNat, some (leading - 1)⟩

/-- The text of a numeral. -/
def text (n : Numeral) : List Char :=
  signed n.negative (fixedPoint n.coefficient n.places) ++
    match n.exponent with
    | none => []
    | some e => 'e' :: signed (e < 0) (digits e.natAbs)

theorem int?_ofInt {n : Int} (h : -0x8000000000000000 ≤ n ∧ n < 0x10000000000000000) :
    (ofInt n).int? = some n := by
  unfold ofInt int?
  by_cases hn : n < 0
  · have h₁ : ¬ (n.natAbs = 0 ∨ 0x8000000000000000 < n.natAbs) := by omega
    simp only [hn, decide_true, if_true, h₁, if_false, Option.isSome_none, ne_eq, not_true,
      Bool.false_eq_true, or_self]
    congr 1
    omega
  · have h₁ : n.natAbs < 0x10000000000000000 := by omega
    simp only [hn, decide_false, h₁, if_true, Bool.false_eq_true, if_false, Option.isSome_none,
      ne_eq, not_true, or_self]
    congr 1
    omega

end Numeral

end Json

/-- A JSON document. Strings and keys without a text stand for those with an escape that names half
of a surrogate pair; such a string also stands for a value that may be passed over but not read. -/
inductive Json where
  | null
  | bool (value : Bool)
  | number (numeral : Json.Numeral)
  | string (text : Option String)
  | array (items : List Json)
  | object (members : List (Option String × Json))

namespace Json

instance : Inhabited Json := ⟨null⟩

/-- A string with a text. -/
def text (s : String) : Json := string (some s)

/-- An integer. -/
def int (n : Int) : Json := number (.ofInt n)

/-- An object with the given members. -/
def obj (members : List (String × Json)) : Json := object (members.map fun m => (some m.1, m.2))

/-- What is there, or null. -/
def ofOption (f : α → Json) : Option α → Json
  | some a => f a
  | none => null

end Json

end Anywhere
