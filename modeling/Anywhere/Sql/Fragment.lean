import Anywhere.Query.Basic

/-!
# SQL text with places for parameters

Rendering yields a sequence of fragments, each of which is a piece of text or the place of a
parameter. The SQL text and the list of parameters are two views of the same sequence, so the i-th
parameter belongs to the i-th place whatever the text around the places is.
-/

namespace Anywhere

/-- A value sent along with SQL text. -/
structure Parameter where
  name : String
  type : LogicalType
  value : Value
deriving DecidableEq, Repr

/-- The parameter that a value is sent as. -/
def Parameter.ofValue (name : String) (value : Value) : Parameter :=
  ⟨name, value.logicalType, value⟩

/-- A piece of SQL text, or the place of a parameter. -/
inductive Fragment where
  | text (sql : String)
  | place (parameter : Parameter)
deriving DecidableEq, Repr

namespace Fragment

/-- What stands in the text at the place of a parameter. -/
def placeholder : String := "?"

/-- The text of a fragment. -/
def sql : Fragment → String
  | text sql => sql
  | place _ => placeholder

/-- The parameter that has its place in a fragment. -/
def parameter? : Fragment → Option Parameter
  | text _ => none
  | place p => some p

end Fragment

/-- A sequence of fragments. -/
abbrev Fragments := List Fragment

namespace Fragments

/-- The SQL text of a sequence. -/
def sql (fs : Fragments) : String := String.join (fs.map Fragment.sql)

/-- The parameters that have their places in a sequence, in order. -/
def parameters (fs : Fragments) : List Parameter := fs.filterMap Fragment.parameter?

/-- Sequences one after the other with a text between each two. -/
def joinWith (separator : String) : List Fragments → Fragments
  | [] => []
  | [fs] => fs
  | fs :: rest => fs ++ .text separator :: joinWith separator rest

/-- A sequence in parentheses. -/
def parenthesized (fs : Fragments) : Fragments := .text "(" :: fs ++ [.text ")"]

@[simp] theorem parameters_nil : parameters [] = [] := rfl

@[simp] theorem parameters_append (a b : Fragments) :
    parameters (a ++ b) = parameters a ++ parameters b := by
  simp [parameters]

@[simp] theorem parameters_text (sql : String) (fs : Fragments) :
    parameters (.text sql :: fs) = parameters fs := rfl

@[simp] theorem parameters_place (p : Parameter) (fs : Fragments) :
    parameters (.place p :: fs) = p :: parameters fs := rfl

@[simp] theorem parameters_parenthesized (fs : Fragments) :
    parameters (parenthesized fs) = parameters fs := by
  simp [parenthesized]

end Fragments

/-- SQL text with the parameters that it expects, in the order of their places. -/
structure Rendering where
  sql : String
  parameters : List Parameter
deriving DecidableEq, Repr

/-- The two views of a sequence. -/
def Fragments.rendering (fs : Fragments) : Rendering := ⟨fs.sql, fs.parameters⟩

end Anywhere
