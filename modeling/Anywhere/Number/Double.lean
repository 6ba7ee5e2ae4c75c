import Anywhere.Number.Power

/-!
# Binary floating-point numbers

A double is its 64 bits. The functions here take the bits apart and put them together exactly, in
integer arithmetic, so that what a text reads as and what a number prints as can be reasoned about
without an opaque arithmetic unit: a finite double is `± mantissa · 2 ^ exponent`, and reading
`coefficient · 10 ^ scale` rounds to the nearest double, a tie going to the even mantissa.
-/

namespace Anywhere.Number

/-- An IEEE 754 number of 64 bits. Equality of the structure is equality of the bits; `Double.same`
is the comparison of numbers. -/
structure Double where
  bits : UInt64
deriving DecidableEq, Repr

namespace Double

/-- Two to the power of 52: below this many units of the mantissa a number has no leading one
bit. -/
def hiddenBit : Nat := 0x10000000000000

/-- The biased exponent of infinities and of values that are no number. -/
def specialField : Nat := 2047

/-- The sign bit is set. -/
def negative (x : Double) : Bool := 0x8000000000000000 ≤ x.bits.toNat

/-- The biased exponent. -/
def exponentField (x : Double) : Nat := x.bits.toNat / hiddenBit % 2048

/-- The stored part of the mantissa. -/
def fraction (x : Double) : Nat := x.bits.toNat % hiddenBit

/-- Neither infinite nor without a value. -/
def isFinite (x : Double) : Bool := x.exponentField != specialField

/-- The value is no number. -/
def isNaN (x : Double) : Bool := x.exponentField == specialField && x.fraction != 0

/-- Zero of either sign. -/
def isZero (x : Double) : Bool := x.exponentField == 0 && x.fraction == 0

/-- The integer `m` in the magnitude `m · 2 ^ q` of a finite number. -/
def mantissa (x : Double) : Nat :=
  if x.exponentField = 0 then x.fraction else x.fraction + hiddenBit

/-- The exponent `q` in the magnitude `m · 2 ^ q` of a finite number. -/
def exponent (x : Double) : Int := (max x.exponentField 1 : Nat) - 1075

/-- The two are equal as numbers: a value that is no number equals nothing, and the two zeros are
equal. -/
def same (x y : Double) : Bool :=
  !x.isNaN && !y.isNaN && (x == y || (x.isZero && y.isZero))

/-- The number with the given sign and the magnitude bits `magnitude`. -/
def ofMagnitude (negative : Bool) (magnitude : Nat) : Double :=
  ⟨UInt64.ofNat (if negative then 0x8000000000000000 + magnitude else magnitude)⟩

/-- The infinity of the given sign. -/
def infinity (negative : Bool) : Double := ofMagnitude negative (specialField * hiddenBit)

/-- A quiet value that is no number. -/
def nan : Double := ofMagnitude false (specialField * hiddenBit + 0x8000000000000)

/-- `numerator / denominator` rounded to an integer, a tie going to the even neighbour. -/
def divEven (numerator denominator : Nat) : Nat :=
  let quotient := numerator / denominator
  let rest := 2 * (numerator % denominator)
  if rest < denominator then quotient
  else if rest = denominator then quotient + quotient % 2
  else quotient + 1

/-- `numerator / denominator · 2 ^ (-q)` as a fraction of integers. -/
def scaled (numerator denominator : Nat) (q : Int) : Nat × Nat :=
  (numerator * twoTo (-q).toNat, denominator * twoTo q.toNat)

/-- The magnitude bits of the double nearest to a positive fraction.

The exponent is the one that leaves 53 bits in front of the point, or the least there is; adding
the rounded mantissa to the exponent's bits carries into them exactly when rounding reaches the
next power of two. -/
def magnitudeOfRatio (numerator denominator : Nat) : Nat :=
  let guess : Int := (Nat.log2 numerator : Int) - Nat.log2 denominator - 53
  let (n, d) := scaled numerator denominator guess
  let q := max (if n / d < 2 * hiddenBit then guess else guess + 1) (-1074)
  let (n, d) := scaled numerator denominator q
  (q + 1074).toNat * hiddenBit + divEven n d

/-- The double nearest to `± coefficient · 10 ^ scale`. Beyond the largest finite number this is an
infinity. -/
def ofScientific (negative : Bool) (coefficient : Nat) (scale : Int) : Double :=
  let size : Int := (Nat.log2 coefficient / 3 : Nat) + 1 + scale
  if coefficient = 0 || size < -400 then ofMagnitude negative 0
  else if scale > 400 then infinity negative
  else
    let magnitude := magnitudeOfRatio (coefficient * tenTo scale.toNat) (tenTo (-scale).toNat)
    if specialField * hiddenBit ≤ magnitude then infinity negative
    else ofMagnitude negative magnitude

/-- The double nearest to an integer. -/
def ofInt (n : Int) : Double := ofScientific (n < 0) n.natAbs 0

@[simp] theorem same_self {x : Double} : same x x = !x.isNaN := by
  simp [same]

theorem same_comm (x y : Double) : same x y = same y x := by
  by_cases h : x = y
  · rw [h]
  · have h' : y ≠ x := fun e => h e.symm
    have e₁ : (x == y) = false := by simpa using h
    have e₂ : (y == x) = false := by simpa using h'
    simp only [same, e₁, e₂, Bool.false_or]
    rw [Bool.and_comm (!x.isNaN), Bool.and_comm x.isZero]

end Double

end Anywhere.Number
