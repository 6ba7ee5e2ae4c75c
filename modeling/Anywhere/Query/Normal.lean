import Anywhere.Query.Traversal
import Anywhere.Text.Blank

/-!
# Normal form of a query

The dialect has no `LIMIT` and `OFFSET`. A row cap is written `TOP n START AT m`, and that clause
has rules of its own, which a query is brought to obey before it becomes text:

* `START AT` needs a `TOP`, so an offset without a limit gets the largest limit there is;
* `TOP 0` is refused, so a limit of zero becomes a predicate that never holds, in every select;
* a capped query without an order is refused, so it is ordered by its first column;
* `DISTINCT` does not go together with `TOP 1` and is dropped.

Besides, the word `DISTINCT` in front of a raw projection is taken as the quantifier of its select.
The rules look at one query at a time and are applied to all queries of a tree.
-/

namespace Anywhere

/-! ## The distinct marker -/

namespace Marker

/-- The word that marks a raw projection. -/
def word : List Char := "distinct".toList

/-- The text behind the marker, if `sql` begins with the word as a word of its own: white space, a
parenthesis or the end of the text must follow it. -/
def rest? (sql : List Char) : Option (List Char) :=
  let text := Text.dropBlanks sql
  if (text.take word.length).map Char.toLower == word then
    let rest := text.drop word.length
    match rest with
    | [] => some []
    | c :: _ => if Text.isBlank c || c == '(' then some (Text.dropBlanks rest) else none
  else none

/-- A projection that carries the marker. -/
def marks : Expr → Bool
  | .raw sql => (rest? sql.toList).isSome
  | _ => false

/-- What is left of a projection when the marker is taken off; nothing may be left. -/
def strip : Expr → Option Expr
  | .raw sql =>
    match rest? sql.toList with
    | some [] => none
    | some rest => some (.raw (String.ofList rest))
    | none => some (.raw sql)
  | e => some e

theorem strip_raw (sql : String) :
    strip (.raw sql) = match rest? sql.toList with
      | some [] => none
      | some rest => some (.raw (String.ofList rest))
      | none => some (.raw sql) := rfl

end Marker

/-- Takes the markers off the projections; the select is distinct if there was one. -/
def Select.resolveMarkers (s : Select) : Select :=
  { s with
    quantifier := if s.projections.any Marker.marks then some .distinct else s.quantifier
    projections := s.projections.filterMap Marker.strip }

/-! ## The rules for one query -/

namespace Query

/-- The largest limit that the server accepts. -/
def unboundedLimit : UInt64 := 2147483647

/-- A limit of zero becomes a predicate that never holds; the offset goes with it. -/
def closeZeroLimit (q : Query) : Query :=
  if q.limit = some 0 then
    { q.mapSelects (fun s => { s with wheres := s.wheres ++ [.never] }) with
      limit := none, offset := none }
  else q

/-- An offset without a limit gets the largest limit. -/
def boundOffset (q : Query) : Query :=
  if q.offset.isSome ∧ q.limit = none then { q with limit := some unboundedLimit } else q

/-- A limit without an order gets the order by the first column. -/
def orderCapped (q : Query) : Query :=
  if q.limit.isSome ∧ q.order.isEmpty then
    { q with order := [⟨.raw "1", .ascending, none⟩] }
  else q

/-- A limit of one leaves no quantifiers. -/
def dropQuantifiers (q : Query) : Query :=
  if q.limit = some 1 then q.mapSelects fun s => { s with quantifier := none } else q

/-- All rules, for this query alone. -/
def settle (q : Query) : Query :=
  (q.mapSelects Select.resolveMarkers).closeZeroLimit.boundOffset.orderCapped.dropQuantifiers

/-- The query with the rules applied to it and to all queries in it. -/
def normalize (q : Query) : Query := q.everywhere settle

end Query

namespace Expr

/-- The expression with all queries in it normalized. -/
def normalize (e : Expr) : Expr := e.everywhere Query.settle

end Expr

/-! ## What a rule does to the row cap -/

namespace Query

@[simp] theorem limit_mapSelects (f : Select → Select) (q : Query) :
    (q.mapSelects f).limit = q.limit := rfl

@[simp] theorem offset_mapSelects (f : Select → Select) (q : Query) :
    (q.mapSelects f).offset = q.offset := rfl

@[simp] theorem order_mapSelects (f : Select → Select) (q : Query) :
    (q.mapSelects f).order = q.order := rfl

@[simp] theorem limit_orderCapped (q : Query) : q.orderCapped.limit = q.limit := by
  unfold orderCapped; split <;> rfl

@[simp] theorem limit_dropQuantifiers (q : Query) : q.dropQuantifiers.limit = q.limit := by
  unfold dropQuantifiers; split <;> simp

theorem limit_boundOffset (q : Query) :
    q.boundOffset.limit =
      if q.offset.isSome ∧ q.limit = none then some unboundedLimit else q.limit := by
  unfold boundOffset; split <;> rfl

theorem limit_closeZeroLimit (q : Query) :
    q.closeZeroLimit.limit = if q.limit = some 0 then none else q.limit := by
  unfold closeZeroLimit; split <;> simp_all

end Query

end Anywhere
