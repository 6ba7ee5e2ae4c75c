/-!
# Hexadecimal digits

Bytes written as pairs of hexadecimal digits, in either case, and read back.
-/

namespace Anywhere.Text.Hex

/-- The value of a hexadecimal digit of either case. -/
def digit? (c : Char) : Option Nat :=
  if c.isDigit then some (c.toNat - '0'.toNat)
  else if 'a' ≤ c ∧ c ≤ 'f' then some (c.toNat - 'a'.toNat + 10)
  else if 'A' ≤ c ∧ c ≤ 'F' then some (c.toNat - 'A'.toNat + 10)
  else none

/-- The byte that two digits denote. -/
def byte? (high low : Char) : Option UInt8 := do
  return UInt8.ofNat ((← digit? high) * 16 + (← digit? low))

/-- The two lower case digits of a byte. -/
def lowerByte (b : UInt8) : List Char :=
  [Nat.digitChar (b.toNat / 16), Nat.digitChar (b.toNat % 16)]

/-- Two lower case digits for every byte. -/
def lower (bytes : List UInt8) : String := String.ofList (bytes.flatMap lowerByte)

/-- Two upper case digits for every byte. -/
def upper (bytes : List UInt8) : String :=
  String.ofList ((bytes.flatMap lowerByte).map Char.toUpper)

/-- The bytes of a text that consists of pairs of digits. -/
def bytes? : List Char → Option (List UInt8)
  | [] => some []
  | high :: low :: rest => do return (← byte? high low) :: (← bytes? rest)
  | [_] => none

end Anywhere.Text.Hex
