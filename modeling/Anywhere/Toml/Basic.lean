import Anywhere.Number.Double

/-!
# TOML documents

A document is a table of tables. What may still be said about a table depends on how it came about:
a header opens a table once, unless only its children were named before; dotted keys may add to
the tables that dotted keys made, and to nothing else; a table that is written as a value is
complete. A name in an array of tables stands for the last element.
-/

namespace Anywhere

/-- How a table came about. -/
inductive Toml.Origin where
  /-- By a header, or it is the document itself. -/
  | header
  /-- On the way to what a header names. -/
  | path
  /-- By a dotted key. -/
  | dotted
  /-- As a value. -/
  | inline
deriving DecidableEq, Repr

/-- A value of a document. -/
inductive Toml where
  | string (text : String)
  | integer (value : Int)
  | float (value : Number.Double)
  | bool (value : Bool)
  /-- A date, a time or both, as it is written. -/
  | moment (text : String)
  | array (items : List Toml)
  | table (origin : Toml.Origin) (members : List (String × Toml))
  /-- The tables that headers in double brackets made. -/
  | tables (elements : List (List (String × Toml)))

namespace Toml

instance : Inhabited Toml := ⟨bool false⟩

/-- The members of a table, in the order in which they were first named. -/
abbrev Members := List (String × Toml)

namespace Members

/-- The value of a member. -/
def get? (members : Members) (key : String) : Option Toml := members.lookup key

/-- The members with another value for a key that is there. -/
def replace (members : Members) (key : String) (value : Toml) : Members :=
  members.map fun member => if member.1 == key then (key, value) else member

/-- The members with a new one. -/
def add (members : Members) (key : String) (value : Toml) : Members := members ++ [(key, value)]

/-- Changes the last element of an array of tables. -/
def inLast (f : Members → Option Members) : List Members → Option (List Members)
  | [] => none
  | [last] => return [← f last]
  | first :: rest => return first :: (← inLast f rest)

/-- Changes the table at the end of a path, tables that are missing on the way being made with the
origin `created`. Dotted keys pass only through tables that no header has opened. -/
def within (created : Origin) (f : Origin → Members → Option Members) :
    List String → Origin → Members → Option Members
  | [], origin, members => f origin members
  | key :: path, _, members =>
    match members.get? key with
    | none => do return members.add key (.table created (← within created f path created []))
    | some (.table origin inner) =>
      if origin = .inline ∨ (created = .dotted ∧ origin = .header) then none
      else do return members.replace key (.table origin (← within created f path origin inner))
    | some (.tables elements) => do
      return members.replace key (.tables (← inLast (within created f path .header) elements))
    | some _ => none

/-- Adds what a key with one or more parts names. The table that gets it is the one at hand for a
key of one part, and one that dotted keys made for a longer key. -/
def insert (path : List String) (key : String) (value : Toml) (origin : Origin)
    (members : Members) : Option Members :=
  within .dotted
    (fun target inner =>
      if (target = .dotted) = (path = []) ∨ (inner.get? key).isSome then none
      else some (inner.add key value))
    path origin members

/-- Opens the table that a header names. -/
def openTable (key : String) (members : Members) : Option Members :=
  match members.get? key with
  | none => some (members.add key (.table .header []))
  | some (.table .path inner) => some (members.replace key (.table .header inner))
  | some _ => none

/-- Opens a further element of the array of tables that a header names. -/
def openElement (key : String) (members : Members) : Option Members :=
  match members.get? key with
  | none => some (members.add key (.tables [[]]))
  | some (.tables elements) => some (members.replace key (.tables (elements ++ [[]])))
  | some _ => none

end Members

end Toml

end Anywhere
