import Anywhere.Json.Basic

/-!
# Reading documents as data

A structure is read from an object with its field names as keys, other keys being passed over, or
from an array with its fields in order, of which the last may be missing. A choice is read from a
string that names it or from an object whose only key names it; choices without data may also be
written as such an object around null.
-/

namespace Anywhere.Json

/-- Some key of `names` occurs twice. -/
def repeats (names : List String) (members : List (String × Json)) : Bool :=
  names.any fun name => 1 < members.countP (·.1 == name)

/-- The members of an object, if all keys have a text. -/
def members? : Json → Option (List (String × Json))
  | .object members => members.mapM fun member => member.1.map (·, member.2)
  | _ => none

/-- The fields of a structure with the given field names, absent ones being `none`. A field must
not be given twice. -/
def fields? (names : List String) : Json → Option (List (Option Json))
  | .array items =>
    if items.length ≤ names.length then
      some ((List.range names.length).map fun i => items[i]?)
    else none
  | document => do
    let members ← document.members?
    if repeats names members then none else some (names.map (List.lookup · members))

/-- The name of a choice and the data that come with it. -/
def choice? : Json → Option (String × Option Json)
  | .string name => name.map (·, none)
  | .object [(some name, data)] => some (name, some data)
  | _ => none

/-- The name of a choice that comes without data. -/
def bareChoice? (document : Json) : Option String :=
  match document.choice? with
  | some (name, none) => some name
  | some (name, some .null) => some name
  | _ => none

/-- A field that must be there. -/
def required (field : Option Json) (read : Json → Option α) : Option α := field.bind read

/-- A field that may be missing or null. -/
def optional (field : Option Json) (read : Json → Option α) : Option (Option α) :=
  match field with
  | none | some .null => some none
  | some document => (read document).map some

/-- A field that has a default when it is missing. -/
def defaulting (field : Option Json) (default : α) (read : Json → Option α) : Option α :=
  match field with
  | none => some default
  | some document => read document

/-- The text of a string. -/
def text? : Json → Option String
  | .string text => text
  | _ => none

/-- A truth value. -/
def bool? : Json → Option Bool
  | .bool value => some value
  | _ => none

/-- An integer of 64 bits, with or without a sign. -/
def int? : Json → Option Int
  | .number numeral => numeral.int?
  | _ => none

/-- A natural number below the bound. -/
def natBelow? (bound : Nat) (document : Json) : Option Nat := do
  let n ← document.int?
  if 0 ≤ n ∧ n < bound then some n.toNat else none

/-- A finite number. -/
def double? : Json → Option Number.Double
  | .number numeral => if numeral.toDouble.isFinite then some numeral.toDouble else none
  | _ => none

/-- The items of an array. -/
def items? : Json → Option (List Json)
  | .array items => some items
  | _ => none

/-- The items of an array, each of them read. -/
def list? (read : Json → Option α) (document : Json) : Option (List α) := do
  (← document.items?).mapM read

end Anywhere.Json
