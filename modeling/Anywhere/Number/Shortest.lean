import Anywhere.Number.Digits
import Anywhere.Number.Double

/-!
# The shortest text of a double

A double prints as the shortest decimal that reads back as the same number. The reals that round
to a double form an interval around it, closed exactly when its mantissa is even. For one digit,
two digits and so on, only the two neighbours of the number on the grid of decimals with that many
digits can be the nearest hits, so the search tests these two and stops at the first grid with a
hit; seventeen digits always have one.
-/

namespace Anywhere.Number.Double

/-- A positive decimal `coefficient · 10 ^ scale`. -/
structure Shortest where
  coefficient : Nat
  scale : Int
deriving DecidableEq, Repr

/-- What is taken of two decimals that are equally near. -/
inductive Tie where
  | larger
  /-- The one whose last digit is even. -/
  | even
deriving DecidableEq, Repr

/-- Powers of ten on either side of a fraction: `10 ^ e` as numerator and denominator. -/
def tenPower (e : Int) : Nat × Nat := (tenTo e.toNat, tenTo (-e).toNat)

/-- The exponent of the leading decimal digit of a positive fraction. -/
def leadingExponent (numerator denominator : Nat) : Int :=
  let guess : Int := ((digits numerator).length : Int) - (digits denominator).length
  let (up, down) := tenPower guess
  if denominator * up ≤ numerator * down then guess else guess - 1

/-- A positive number with the interval of reals that round to it, all four times as large and over
one denominator. -/
structure Interval where
  value : Nat
  below : Nat
  above : Nat
  denominator : Nat
  closed : Bool

/-- The interval of a positive finite number. Below a power of two the neighbour is half as far. -/
def interval (x : Double) : Interval :=
  let unit := twoTo x.exponent.toNat
  let m := x.mantissa
  let gap := if m = hiddenBit ∧ 1 < x.exponentField then 1 else 2
  { value := 4 * m * unit
    below := (4 * m - gap) * unit
    above := (4 * m + 2) * unit
    denominator := 4 * twoTo (-x.exponent).toNat
    closed := m % 2 == 0 }

/-- The decimal `coefficient · 10 ^ scale` lies in the interval. -/
def Interval.holds (i : Interval) (d : Shortest) : Bool :=
  let (up, down) := tenPower d.scale
  let point := d.coefficient * up * i.denominator
  (i.below * down < point && point < i.above * down) ||
    (i.closed && (point == i.below * down || point == i.above * down))

/-- The lower of two neighbours is taken, the number being `rest / step` of the way above it. -/
def Tie.takesLower (tie : Tie) (lower rest step : Nat) : Bool :=
  2 * rest < step || (tie == .even && 2 * rest == step && lower % 2 == 0)

/-- The hit of the grid with step `10 ^ scale` that is nearest to the number, if it has one. -/
def Interval.nearest? (i : Interval) (tie : Tie) (scale : Int) : Option Shortest :=
  let (up, down) := tenPower scale
  let step := up * i.denominator
  let value := i.value * down
  let low : Shortest := ⟨value / step, scale⟩
  let high : Shortest := ⟨value / step + 1, scale⟩
  match i.holds low, i.holds high with
  | true, true => some (if tie.takesLower low.coefficient (value % step) step then low else high)
  | true, false => some low
  | false, true => some high
  | false, false => none

/-- The first hit on the grids with `count`, `count + 1`, … digits, `left` of them to be tried. -/
def Interval.search (i : Interval) (tie : Tie) (leading : Int) (count : Nat) :
    (left : Nat) → Option Shortest
  | 0 => none
  | left + 1 =>
    (i.nearest? tie (leading - count + 1)).or (i.search tie leading (count + 1) left)

/-- A decimal without the zeros at its end, at most `limit` of them. -/
def Shortest.dropZeros (d : Shortest) : (limit : Nat) → Shortest
  | 0 => d
  | limit + 1 =>
    if d.coefficient ≠ 0 ∧ d.coefficient % 10 = 0 then
      Shortest.dropZeros ⟨d.coefficient / 10, d.scale + 1⟩ limit
    else d

/-- The shortest decimal that reads back as a finite number other than zero, its sign aside; zero
has the coefficient zero. -/
def shortest (tie : Tie) (x : Double) : Shortest :=
  if x.isZero then ⟨0, 0⟩
  else
    let i := x.interval
    match i.search tie (leadingExponent i.value i.denominator) 1 17 with
    | some d => d.dropZeros 18
    | none => ⟨0, 0⟩

/-- The text of a number: positional, with no more decimal places than needed and never an
exponent; a tie goes up. -/
def text (x : Double) : List Char :=
  if x.isNaN then "NaN".toList
  else signed x.negative <|
    if x.isFinite then
      let d := x.shortest .larger
      fixedPoint (d.coefficient * tenTo d.scale.toNat) (-d.scale).toNat
    else "inf".toList

/-- The text of a number. -/
def toText (x : Double) : String := String.ofList x.text

end Anywhere.Number.Double
