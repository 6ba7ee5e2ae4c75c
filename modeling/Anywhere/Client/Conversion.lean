import Anywhere.Client.Wire
import Anywhere.Fault
import Anywhere.Number.DoubleToDecimal
import Anywhere.Text.Encoding
import Anywhere.Value

/-!
# Values across the boundary

On the way out a truth value becomes 1 or 0, decimals, dates and times become their text, and bytes
stay as they are in a slot that is marked as binary. On the way in the type of the column decides:
decimal columns are read as exact numbers, flags as truth values, character data by the encoding of
the session, and date and time columns as what their text denotes, or as that text when it denotes
nothing. Whatever does not fit its column passes through.
-/

namespace Anywhere

open Number Calendar Text

/-! ## Out -/

/-- The representation of a value; null has none. -/
def Value.toWire (encoding : Encoding) : Value → Option WireValue
  | null => none
  | bool b => some (.int (if b then 1 else 0))
  | int n => some (.int n)
  | float x => some (.double x)
  | decimal d => some (.text (Utf8.encode d.text))
  | date d => some (.text (Utf8.encode d.text))
  | time t => some (.text (Utf8.encode t.text))
  | dateTime t => some (.text (Utf8.encode (t.text ' ')))
  | text s => some (.text (encoding.encode s))
  | binary bytes => some (.binary bytes)

/-- The slot with an input value in it. -/
def BindSlot.fill (slot : BindSlot) (encoding : Encoding) (value : Value) : BindSlot :=
  let slot := { slot with direction := .input }.withValue (value.toWire encoding)
  match value with
  | .binary _ => { slot with type := .binary }
  | _ => slot

@[simp] theorem BindSlot.name_fill (slot : BindSlot) (encoding : Encoding) (value : Value) :
    (slot.fill encoding value).name = slot.name := by
  cases value <;> rfl

@[simp] theorem BindSlot.direction_fill (slot : BindSlot) (encoding : Encoding) (value : Value) :
    (slot.fill encoding value).direction = .input := by
  cases value <;> rfl

@[simp] theorem BindSlot.value_fill (slot : BindSlot) (encoding : Encoding) (value : Value) :
    (slot.fill encoding value).value = value.toWire encoding := by
  cases value <;> rfl

/-! ## In -/

/-- The ways in which columns are read. -/
inductive ColumnFamily where
  | decimal
  /-- Truth values are stored in small integers and bits. -/
  | flag
  | character
  | date
  | time
  | timestamp
  | other
deriving DecidableEq, Repr

/-- How columns of a type are read. -/
def NativeType.family (t : NativeType) : ColumnFamily :=
  if t = decimal then .decimal
  else if t = tinyInt ∨ t = bit then .flag
  else if t.isCharacter then .character
  else if t = date then .date
  else if t = time then .time
  else if t = timestamp then .timestamp
  else .other

/-- The value of an unsigned integer, which becomes a decimal beyond the signed range. -/
def Value.ofUInt64 (n : UInt64) : Value :=
  ((int64? n.toNat).map int).getD (.decimal (Decimal.ofUInt64 n))

namespace WireValue

/-- The value of a cell whose column asks for nothing special. -/
def passThrough (encoding : Encoding) : WireValue → Value
  | null => .null
  | int n => .int n
  | uint n => .ofUInt64 n
  | double x => .float x
  | text bytes => .text (encoding.decode bytes)
  | binary bytes => .binary bytes

/-- The decimal that bytes denote, white space at the ends aside. -/
def decimalOfBytes (bytes : List UInt8) : Except Fault Decimal :=
  let text := stripBlanks (Utf8.decode bytes)
  match Decimal.ofText? text with
  | some d => .ok d
  | none => .error (.argument (.invalidDecimalText (String.ofList text)))

/-- The value of a cell of a decimal column. -/
def toDecimal : WireValue → Except Fault Decimal
  | null => .ok Decimal.zero
  | int n => .ok (Decimal.ofInt64 n)
  | uint n => .ok (Decimal.ofUInt64 n)
  | double x => match Decimal.ofDouble? x with
    | some d => .ok d
    | none => .error (.argument (.invalidDecimalDouble x))
  | text bytes => decimalOfBytes bytes
  | binary bytes => decimalOfBytes bytes

/-- The value of a cell of a flag column. -/
def toFlag (encoding : Encoding) : WireValue → Value
  | int n => .bool (n != 0)
  | uint n => .bool (n != 0)
  | cell => cell.passThrough encoding

/-- The value of a cell of a character column. -/
def toText (encoding : Encoding) : WireValue → Value
  | text bytes => .text (encoding.decode bytes)
  | binary bytes => .text (encoding.decode bytes)
  | cell => cell.passThrough encoding

/-- The value of a cell of a date or time column: what `read` makes of its text without the white
space at the ends, and otherwise the text. -/
def toTemporal (encoding : Encoding) (read : String → Option Value) : WireValue → Value
  | text bytes =>
    let text := encoding.decode bytes
    (read (trim text)).getD (.text text)
  | cell => cell.passThrough encoding

/-- The value of a cell of a column of the given type. -/
def toValue (type : NativeType) (encoding : Encoding) (cell : WireValue) : Except Fault Value :=
  if cell = null then .ok .null
  else match type.family with
    | .decimal => cell.toDecimal.map .decimal
    | .flag => .ok (cell.toFlag encoding)
    | .character => .ok (cell.toText encoding)
    | .date => .ok (cell.toTemporal encoding fun s => (Date.ofText? .tight s).map .date)
    | .time => .ok (cell.toTemporal encoding fun s => (Time.ofText? .tight s).map .time)
    | .timestamp =>
      .ok (cell.toTemporal encoding fun s => (DateTime.ofText? .tight s).map .dateTime)
    | .other => .ok (cell.passThrough encoding)

/-- Null is null in every column. -/
@[simp] theorem toValue_null (type : NativeType) (encoding : Encoding) :
    toValue type encoding null = .ok .null := rfl

end WireValue

end Anywhere
