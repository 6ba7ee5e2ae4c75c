/-!
# Decimal digits

Numbers in SQL text are written positionally: digits, with a point in front of the last few of
them when there are decimal places, and never an exponent. This module writes such numbers and
reads runs of ASCII digits.
-/

namespace Anywhere.Number

/-- The decimal digits of a number, most significant first; zero is `0`. -/
def digits (n : Nat) : List Char := Nat.toDigits 10 n

/-- The number that a list of digits denotes, digits read from the left. -/
def ofDigits (text : List Char) : Nat := Nat.ofDigitChars 10 text 0

/-- A text of at least `width` characters, zeros being put in front. -/
def padZeros (width : Nat) (text : List Char) : List Char :=
  List.replicate (width - text.length) '0' ++ text

/-- The number `coefficient / 10 ^ places`, written with exactly `places` decimal places. -/
def fixedPoint (coefficient places : Nat) : List Char :=
  if places = 0 then digits coefficient
  else
    let padded := padZeros (places + 1) (digits coefficient)
    padded.take (padded.length - places) ++ '.' :: padded.drop (padded.length - places)

/-- A minus sign in front of the text of a negative number. -/
def signed (negative : Bool) (text : List Char) : List Char :=
  if negative then '-' :: text else text

/-- The text of an integer. -/
def ofInt (n : Int) : String := String.ofList (signed (n < 0) (digits n.natAbs))

/-- The text of a natural number. -/
def ofNat (n : Nat) : String := String.ofList (digits n)

/-- The longest run of digits that begins a text, and the rest. -/
def spanDigits (text : List Char) : List Char × List Char :=
  (text.takeWhile Char.isDigit, text.dropWhile Char.isDigit)

/-- The number that a text consisting of one or more digits denotes. -/
def nat? (text : List Char) : Option Nat :=
  if text.isEmpty || !text.all Char.isDigit then none else some (ofDigits text)

theorem ofDigits_digits (n : Nat) : ofDigits (digits n) = n :=
  Nat.ofDigitChars_ten_toDigits

theorem isDigit_of_mem_digits {c : Char} {n : Nat} (h : c ∈ digits n) : c.isDigit = true :=
  Nat.isDigit_of_mem_toDigits (by decide) (by decide) h

theorem digits_ne_nil (n : Nat) : digits n ≠ [] := Nat.toDigits_ne_nil

/-- Written digits read back. -/
theorem nat?_digits (n : Nat) : nat? (digits n) = some n := by
  have hall : (digits n).all Char.isDigit = true :=
    List.all_eq_true.2 fun _ h => isDigit_of_mem_digits h
  simp [nat?, hall, digits_ne_nil, ofDigits_digits]

theorem spanDigits_append (text : List Char) :
    (spanDigits text).1 ++ (spanDigits text).2 = text := List.takeWhile_append_dropWhile

end Anywhere.Number
