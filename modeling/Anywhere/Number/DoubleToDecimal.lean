import Anywhere.Number.Decimal
import Anywhere.Number.Double

/-!
# The decimal of a double

A double is `± mantissa · 2 ^ exponent`, and a power of two is a power of ten over a power of five.
The power of five goes into the mantissa, which stays within the 96 bits of a decimal: whole
numbers keep their value in this way, and a fraction keeps more digits than a double determines.
After that a number with decimal places is rounded, one digit after the other, to 28 places and to
a mantissa of 52 bits, and zeros at its end are dropped.
-/

namespace Anywhere.Number.Decimal

/-- The number `mantissa · 10 ^ scale`. -/
structure Scaled where
  mantissa : Nat
  scale : Int
deriving DecidableEq, Repr

/-- The number times `5 ^ count`. An odd mantissa is multiplied where there is room for it; any
other is halved and counts ten times as much, which loses the last bit of an odd one. -/
def Scaled.timesFives (x : Scaled) : (count : Nat) → Scaled
  | 0 => x
  | count + 1 =>
    if x.mantissa % 2 = 1 ∧ 5 * x.mantissa < mantissaBound then
      Scaled.timesFives ⟨5 * x.mantissa, x.scale⟩ count
    else Scaled.timesFives ⟨x.mantissa / 2, x.scale + 1⟩ count

/-- The number over `5 ^ count`. The mantissa is doubled where there is room for it and counts a
tenth as much; otherwise it is divided, which loses the remainder. -/
def Scaled.overFives (x : Scaled) : (count : Nat) → Scaled
  | 0 => x
  | count + 1 =>
    if 2 * x.mantissa < mantissaBound then
      Scaled.overFives ⟨2 * x.mantissa, x.scale - 1⟩ count
    else Scaled.overFives ⟨x.mantissa / 5, x.scale⟩ count

/-- The magnitude of a finite double with a power of ten in place of its power of two. -/
def Scaled.ofDouble (x : Double) : Scaled :=
  let magnitude : Scaled := ⟨x.mantissa, x.exponent⟩
  (magnitude.timesFives (-x.exponent).toNat).overFives x.exponent.toNat

/-- A mantissa without its last digit, a five or more rounding up. -/
def dropDigit (mantissa : Nat) : Nat :=
  if 5 ≤ mantissa % 10 then mantissa / 10 + 1 else mantissa / 10

/-- The mantissa and the places of a number that has at most 28 places. A number of which a single
digit is left that does not fit vanishes, and then it has no places. -/
def limitPlaces (mantissa : Nat) : (places : Nat) → Nat × Nat
  | 0 => (mantissa, 0)
  | places + 1 =>
    if places < maxScale then (mantissa, places + 1)
    else if mantissa < 10 then (0, 0)
    else limitPlaces (dropDigit mantissa) places

/-- The mantissa and the places of a number that keeps decimal places only as far as 52 bits hold
its mantissa. -/
def limitDigits (mantissa : Nat) : (places : Nat) → Nat × Nat
  | 0 => (mantissa, 0)
  | places + 1 =>
    if mantissa < Double.hiddenBit then (mantissa, places + 1)
    else limitDigits (dropDigit mantissa) places

/-- The mantissa and the places of a number whose decimal places do not end in a zero. -/
def dropZeros (mantissa : Nat) : (places : Nat) → Nat × Nat
  | 0 => (mantissa, 0)
  | places + 1 =>
    if mantissa % 10 = 0 then dropZeros (mantissa / 10) places else (mantissa, places + 1)

/-- The decimal of a double; infinities, values that are no number, and numbers too large for the
mantissa have none. The sign stays, also that of a zero. -/
def ofDouble? (x : Double) : Option Decimal :=
  if x.isFinite then
    let magnitude := Scaled.ofDouble x
    let (mantissa, places) :=
      limitPlaces (magnitude.mantissa * tenTo magnitude.scale.toNat) (-magnitude.scale).toNat
    let (mantissa, places) := limitDigits mantissa places
    let (mantissa, places) := dropZeros mantissa places
    ofParts? x.negative mantissa places
  else none

end Anywhere.Number.Decimal
