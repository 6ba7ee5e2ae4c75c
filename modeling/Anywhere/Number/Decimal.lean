import Anywhere.Number.Digits
import Anywhere.Number.Power

/-!
# Exact decimals

A decimal has a sign, a mantissa of 96 bits and up to 28 decimal places. The number of places is
part of the value, so `1.50` stays `1.50`; two decimals are the same number when they are equal as
fractions. A text with more digits than fit is rounded half up at the first digit that is dropped,
as long as what is dropped belongs to the fraction; it has to be well-formed up to its end.
-/

namespace Anywhere.Number

/-- The mantissa stays below this bound, two to the power of 96. -/
def Decimal.mantissaBound : Nat := 0x1000000000000000000000000

/-- There are at most this many decimal places. -/
def Decimal.maxScale : Nat := 28

/-- The number `± mantissa / 10 ^ scale`. -/
structure Decimal where
  negative : Bool
  mantissa : Nat
  scale : Nat
  mantissa_lt : mantissa < Decimal.mantissaBound
  scale_le : scale ≤ Decimal.maxScale
deriving DecidableEq, Repr

namespace Decimal

/-- The decimal with the given parts, if they fit. -/
def ofParts? (negative : Bool) (mantissa scale : Nat) : Option Decimal :=
  if h : mantissa < mantissaBound ∧ scale ≤ maxScale then
    some ⟨negative, mantissa, scale, h.1, h.2⟩
  else none

/-- Zero without decimal places. -/
def zero : Decimal := ⟨false, 0, 0, by decide, by decide⟩

instance : Inhabited Decimal := ⟨zero⟩

/-- The mantissa with its sign. -/
def signedMantissa (d : Decimal) : Int := if d.negative then -d.mantissa else d.mantissa

/-- The two are equal as numbers, whatever their decimal places. -/
def same (a b : Decimal) : Bool :=
  a.signedMantissa * tenTo b.scale == b.signedMantissa * tenTo a.scale

/-- The integer that the decimal equals, if there is one. -/
def toInt? (d : Decimal) : Option Int :=
  if d.mantissa % tenTo d.scale = 0 then
    let whole : Int := d.mantissa / tenTo d.scale
    some (if d.negative then -whole else whole)
  else none

/-! ## Integers -/

/-- A word of 64 bits has a decimal. -/
def ofUInt64 (n : UInt64) : Decimal :=
  ⟨false, n.toNat, 0, Nat.lt_trans n.toNat_lt (by decide), by decide⟩

/-- A signed word of 64 bits has a decimal. -/
def ofInt64 (n : Int64) : Decimal :=
  ⟨n < 0, n.toInt.natAbs, 0, by
    have hl := Int64.le_toInt n
    have hu := Int64.toInt_lt n
    have : n.toInt.natAbs ≤ 0x8000000000000000 := by omega
    exact Nat.lt_of_le_of_lt this (by decide), by decide⟩

/-! ## Text -/

/-- All decimal places are written, and at least one digit in front of them. -/
def text (d : Decimal) : List Char := signed d.negative (fixedPoint d.mantissa d.scale)

/-- The text of a decimal. -/
def toText (d : Decimal) : String := String.ofList d.text

/-- The decimal whose mantissa is raised by one because the first digit dropped is five or more. A
mantissa that reaches its bound in this way gives up a place. -/
def roundedUp (negative : Bool) (mantissa scale : Nat) : Option Decimal :=
  if mantissa + 1 < mantissaBound then ofParts? negative (mantissa + 1) scale
  else if scale = 0 then none
  else ofParts? negative ((mantissa + 5) / 10) (scale - 1)

/-- The decimal that is read; a zero has no sign. -/
def ofRead? (negative : Bool) (mantissa scale : Nat) : Option Decimal :=
  ofParts? (negative && mantissa != 0) mantissa scale

/-- A character that may stand behind the first digit wherever a digit may. -/
def isFiller (c : Char) : Bool := c.isDigit || c == '_'

/-- The decimal that is read where no further digit fits. What is dropped may consist of digits and
underscores only, and its first digit says which way to round. -/
def roundedBy (negative : Bool) (mantissa scale : Nat) (dropped : List Char) : Option Decimal :=
  if dropped.all isFiller then
    match dropped.find? Char.isDigit with
    | some digit =>
      if '5' ≤ digit then roundedUp negative mantissa scale else ofRead? negative mantissa scale
    | none => ofRead? negative mantissa scale
  else none

/-- Reads digits behind a sign. `point` says that the decimal point has been passed, `seen` that
there has been a digit. -/
def readFrom (negative : Bool) (mantissa scale : Nat) (point seen : Bool) :
    List Char → Option Decimal
  | [] => if seen then ofRead? negative mantissa scale else none
  | c :: rest =>
    if c.isDigit then
      let longer := mantissa * 10 + (c.toNat - '0'.toNat)
      if mantissaBound ≤ longer then
        if point then roundedBy negative mantissa scale (c :: rest) else none
      else if point && maxScale ≤ scale + 1 then roundedBy negative longer (scale + 1) rest
      else readFrom negative longer (if point then scale + 1 else 0) point true rest
    else if c == '.' && !point then readFrom negative mantissa scale true seen rest
    else if c == '_' && seen then readFrom negative mantissa scale point seen rest
    else none

/-- Reads positional notation: an optional sign, and digits with at most one point. Underscores may
stand anywhere behind the first digit. -/
def ofPositional? : List Char → Option Decimal
  | '-' :: rest => readFrom true 0 0 false false rest
  | '+' :: rest => readFrom false 0 0 false false rest
  | text => readFrom false 0 0 false false text

/-- A natural number below 2 ^ 32, with an optional plus sign. -/
def exponent? (text : List Char) : Option Nat := do
  let n ← nat? (match text with | '+' :: rest => rest | _ => text)
  if n < UInt32.size then some n else none

/-- The decimal with `places` decimal places, a half going away from zero. -/
def roundTo (d : Decimal) (places : Nat) : Option Decimal :=
  if d.scale ≤ places then some d
  else
    let unit := tenTo (d.scale - places)
    let kept := d.mantissa / unit
    ofParts? d.negative (if unit ≤ 2 * (d.mantissa % unit) then kept + 1 else kept) places

/-- The decimal times `10 ^ (-e)`, places being dropped where more than 28 would be needed. -/
def scaleDown (d : Decimal) (e : Nat) : Option Decimal :=
  if maxScale < e then none
  else do
    let d ← d.roundTo (maxScale - e)
    ofParts? d.negative d.mantissa (d.scale + e)

/-- The decimal times `10 ^ e`: places are used up first, then zeros are appended. -/
def scaleUp (d : Decimal) (e : Nat) : Option Decimal :=
  if e ≤ d.scale then ofParts? d.negative d.mantissa (d.scale - e)
  else if maxScale < e then none
  else ofParts? d.negative (d.mantissa * tenTo (e - d.scale)) 0

/-- Reads scientific notation: positional notation, the letter e in either case, and an integer. -/
def ofScientific? (text : List Char) : Option Decimal := do
  let isMark (c : Char) : Bool := c == 'e' || c == 'E'
  let base ← ofPositional? (text.takeWhile (!isMark ·))
  match text.dropWhile (!isMark ·) with
  | [] => none
  | _ :: '-' :: power => base.scaleDown (← exponent? power)
  | _ :: power => base.scaleUp (← exponent? power)

/-- Reads either notation. -/
def ofText? (text : List Char) : Option Decimal :=
  (ofPositional? text).or (ofScientific? text)

@[simp] theorem same_self (d : Decimal) : same d d = true := by simp [same]

theorem same_comm (a b : Decimal) : same a b = same b a := by
  rw [same, same, Bool.eq_iff_iff, beq_iff_eq, beq_iff_eq]
  exact eq_comm

theorem signedMantissa_ofUInt64 (n : UInt64) : (ofUInt64 n).signedMantissa = n.toNat := rfl

end Decimal

end Anywhere.Number
