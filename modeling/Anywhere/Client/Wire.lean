import Anywhere.Number.Double

/-!
# Data at the boundary to the client library

The client library knows columns by type codes and hands cells over in one of a few
representations. A value goes to the library in a *bind slot*, which the library describes first
and the adapter fills in.
-/

namespace Anywhere

/-- A cell as the client library hands it over, or a value as it is handed to it. -/
inductive WireValue where
  | null
  | int (value : Int64)
  | uint (value : UInt64)
  | double (value : Number.Double)
  /-- Character data in the character set of the connection. -/
  | text (bytes : List UInt8)
  | binary (bytes : List UInt8)
deriving DecidableEq, Repr

/-- The representation of a value in the host's memory. -/
inductive HostType where
  | invalid
  | binary
  | string
  | double
  | val64
  | uval64
  | val32
  | uval32
  | val16
  | uval16
  | val8
  | uval8
deriving DecidableEq, Repr

/-- The direction in which a bind slot carries its value. -/
inductive SlotDirection where
  | invalid
  | input
  | output
  | inputOutput
deriving DecidableEq, Repr

/-- The representation that the client library infers for a value. -/
def WireValue.hostType : WireValue → HostType
  | null => .string
  | int _ => .val64
  | uint _ => .uval64
  | double _ => .double
  | text _ => .string
  | binary _ => .binary

/-- The place of one parameter of a statement. -/
structure BindSlot where
  name : String
  direction : SlotDirection
  type : HostType
  value : Option WireValue
deriving DecidableEq, Repr

namespace BindSlot

/-- The slot with a value in it. Bytes count as a string as long as nobody says otherwise, and so
does the absence of a value, which means null. -/
def withValue (slot : BindSlot) (value : Option WireValue) : BindSlot :=
  { slot with
    value := value
    type := match value with
      | none => .string
      | some (.binary _) => .string
      | some v => v.hostType }

/-- The slot carries null. -/
def isNull (slot : BindSlot) : Bool := slot.value == none || slot.value == some .null

@[simp] theorem name_withValue (slot : BindSlot) (value : Option WireValue) :
    (slot.withValue value).name = slot.name := rfl

@[simp] theorem value_withValue (slot : BindSlot) (value : Option WireValue) :
    (slot.withValue value).value = value := rfl

end BindSlot

/-- A column type code. Codes that no constant names are legal. -/
structure NativeType where
  code : Int
deriving DecidableEq, Repr

namespace NativeType

def date : NativeType := ⟨384⟩
def time : NativeType := ⟨388⟩
def timestamp : NativeType := ⟨392⟩
def varchar : NativeType := ⟨448⟩
def fixChar : NativeType := ⟨452⟩
def longVarchar : NativeType := ⟨456⟩
def string : NativeType := ⟨460⟩
def double : NativeType := ⟨480⟩
def float : NativeType := ⟨482⟩
def decimal : NativeType := ⟨484⟩
def int : NativeType := ⟨496⟩
def smallInt : NativeType := ⟨500⟩
def binary : NativeType := ⟨524⟩
def longBinary : NativeType := ⟨528⟩
def tinyInt : NativeType := ⟨604⟩
def bigInt : NativeType := ⟨608⟩
def unsignedInt : NativeType := ⟨612⟩
def unsignedSmallInt : NativeType := ⟨616⟩
def unsignedBigInt : NativeType := ⟨620⟩
def bit : NativeType := ⟨624⟩
def longNVarchar : NativeType := ⟨640⟩

/-- Columns whose cells are text in the character set of the connection. -/
def isCharacter (t : NativeType) : Bool :=
  [varchar, fixChar, longVarchar, string, longNVarchar].contains t

end NativeType

/-- What the client library tells about a column of a result. -/
structure ColumnInfo where
  name : String
  type : NativeType
deriving DecidableEq, Repr

end Anywhere
