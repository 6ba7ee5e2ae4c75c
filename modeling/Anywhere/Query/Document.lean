import Anywhere.Json.Depth
import Anywhere.Json.Record
import Anywhere.Query.Basic

/-!
# Query trees as documents

How a query tree is written as a JSON document and read from one. A node of an expression is a
choice named in lower case with underscores; queries, selects, sort keys and joins are structures
all of whose lists may be missing. Reading goes down one level of the document with every node, so
its depth bounds the recursion.
-/

namespace Anywhere

open Json (optional defaulting)

/-! ## Choices without data -/

namespace BinaryOp

/-- The name of an operator in documents. -/
def documentName : BinaryOp → String
  | eq => "eq"
  | notEq => "not_eq"
  | lt => "lt"
  | ltEq => "lt_eq"
  | gt => "gt"
  | gtEq => "gt_eq"
  | like => "like"
  | notLike => "not_like"
  | add => "add"
  | sub => "sub"
  | mul => "mul"
  | div => "div"
  | concat => "concat"

/-- All operators. -/
def all : List BinaryOp :=
  [eq, notEq, lt, ltEq, gt, gtEq, like, notLike, add, sub, mul, div, concat]

end BinaryOp

namespace Quantifier

/-- The name of a quantifier in documents. -/
def documentName : Quantifier → String
  | distinct => "distinct"
  | all => "all"

end Quantifier

namespace SetOp

/-- The name of a set operation in documents. -/
def documentName : SetOp → String
  | union => "union"
  | unionAll => "union_all"
  | intersect => "intersect"
  | except => "except"

end SetOp

namespace Direction

/-- The name of a direction in documents. -/
def documentName : Direction → String
  | ascending => "asc"
  | descending => "desc"

end Direction

namespace NullPlacement

/-- The name of a null placement in documents. -/
def documentName : NullPlacement → String
  | first => "first"
  | last => "last"

end NullPlacement

namespace JoinKind

/-- The name of a join in documents. -/
def documentName : JoinKind → String
  | inner => "inner"
  | left => "left"
  | right => "right"
  | full => "full"
  | cross => "cross"

end JoinKind

namespace Json

/-- The member of `choices` that the document names. -/
def oneOf? (choices : List α) (name : α → String) (document : Json) : Option α := do
  let wanted ← document.bareChoice?
  choices.find? (name · == wanted)

/-- A natural number of 64 bits. -/
def word? (document : Json) : Option UInt64 :=
  (document.natBelow? UInt64.size).map UInt64.ofNat

end Json

/-- The operator that a document names. -/
def BinaryOp.ofJson? : Json → Option BinaryOp := Json.oneOf? all documentName

/-- The quantifier that a document names. -/
def Quantifier.ofJson? : Json → Option Quantifier := Json.oneOf? [distinct, all] documentName

/-- The set operation that a document names. -/
def SetOp.ofJson? : Json → Option SetOp :=
  Json.oneOf? [union, unionAll, intersect, except] documentName

/-- The direction that a document names. -/
def Direction.ofJson? : Json → Option Direction :=
  Json.oneOf? [ascending, descending] documentName

/-- The null placement that a document names. -/
def NullPlacement.ofJson? : Json → Option NullPlacement := Json.oneOf? [first, last] documentName

/-- The kind of join that a document names. -/
def JoinKind.ofJson? : Json → Option JoinKind :=
  Json.oneOf? [inner, left, right, full, cross] documentName

/-- The lock that a document describes. -/
def Lock.ofJson? (document : Json) : Option Lock :=
  match document.choice? with
  | some ("custom", some text) => text.text?.map .clause
  | some ("for_update", none) => some .forUpdate
  | some ("for_update", some .null) => some .forUpdate
  | _ => none

/-- The document of a lock. -/
def Lock.toJson : Lock → Json
  | forUpdate => .text "for_update"
  | clause text => .obj [("custom", .text text)]

/-- The expression of a kind without data. -/
def Expr.ofBareName? : String → Option Expr
  | "star" => some .star
  | "true" => some .always
  | "false" => some .never
  | _ => none

/-! ## Reading -/

namespace Query.Reading

mutual

/-- Reads an expression. -/
def expr : Nat → Json → Option Expr
  | 0, _ => none
  | depth + 1, document =>
    match document.choice? with
    | none => none
    | some (name, none) => Expr.ofBareName? name
    | some (name, some .null) => Expr.ofBareName? name
    | some (name, some data) =>
      match name with
      | "table_star" => data.text?.map .tableStar
      | "column" => do
        let [table, name] ← data.fields? ["table", "name"] | none
        return .column (← optional table Json.text?) (← (← name).text?)
      | "literal" => (Value.ofJson? data).map .literal
      | "bind" => do
        let [name, value] ← data.fields? ["name", "value"] | none
        return .bind (← (← name).text?) (← Value.ofJson? (← value))
      | "raw" => data.text?.map .raw
      | "binary" => do
        let [left, op, right] ← data.fields? ["left", "op", "right"] | none
        return .binary (← expr depth (← left)) (← BinaryOp.ofJson? (← op)) (← expr depth (← right))
      | "and" => (data.list? (expr depth)).map .conj
      | "or" => (data.list? (expr depth)).map .disj
      | "not" => (expr depth data).map .negation
      | "is_null" => (expr depth data).map .isNull
      | "is_not_null" => (expr depth data).map .isNotNull
      | "in" => do
        let [inner, items, negated] ← data.fields? ["expr", "list", "negated"] | none
        return .inList (← expr depth (← inner)) (← (← items).list? (expr depth))
          (← (← negated).bool?)
      | "in_subquery" => do
        let [inner, query', negated] ← data.fields? ["expr", "query", "negated"] | none
        return .inQuery (← expr depth (← inner)) (← query depth (← query')) (← (← negated).bool?)
      | "exists" => (query depth data).map .hasRows
      | "subquery" => (query depth data).map .subquery
      | "function" => do
        let [name, args, distinct] ← data.fields? ["name", "args", "distinct"] | none
        return .call (← (← name).text?) (← (← args).list? (expr depth)) (← (← distinct).bool?)
      | "alias" => do
        let [inner, label] ← data.fields? ["expr", "alias"] | none
        return .named (← expr depth (← inner)) (← (← label).text?)
      | "grouping" => (expr depth data).map .grouping
      | _ => none

/-- Reads a query. -/
def query : Nat → Json → Option Query
  | 0, _ => none
  | depth + 1, document => do
    let [core, setOps, orders, limit, offset, lock] ←
      document.fields? ["core", "set_ops", "orders", "limit", "offset", "lock"] | none
    return ⟨← defaulting core .empty (select depth),
      ← defaulting setOps [] (Json.list? (operand depth)),
      ← defaulting orders [] (Json.list? (sortKey depth)),
      ← optional limit Json.word?, ← optional offset Json.word?, ← optional lock Lock.ofJson?⟩

/-- Reads a select. -/
def select : Nat → Json → Option Select
  | 0, _ => none
  | depth + 1, document => do
    let [quantifier, projections, source', joins, wheres, groups, havings] ←
      document.fields? ["set_quantifier", "projections", "source", "joins", "wheres", "groups",
        "havings"] | none
    return ⟨← optional quantifier Quantifier.ofJson?,
      ← defaulting projections [] (Json.list? (expr depth)),
      ← optional source' (source depth),
      ← defaulting joins [] (Json.list? (join depth)),
      ← defaulting wheres [] (Json.list? (expr depth)),
      ← defaulting groups [] (Json.list? (expr depth)),
      ← defaulting havings [] (Json.list? (expr depth))⟩

/-- Reads a further select with its set operation. -/
def operand : Nat → Json → Option Operand
  | 0, _ => none
  | depth + 1, document => do
    let [op, core] ← document.items? | none
    return ⟨← SetOp.ofJson? op, ← select depth core⟩

/-- Reads a sort key. -/
def sortKey : Nat → Json → Option SortKey
  | 0, _ => none
  | depth + 1, document => do
    let [key, direction, nulls] ← document.fields? ["expr", "direction", "nulls"] | none
    return ⟨← expr depth (← key), ← defaulting direction .ascending Direction.ofJson?,
      ← optional nulls NullPlacement.ofJson?⟩

/-- Reads a source. -/
def source : Nat → Json → Option Source
  | 0, _ => none
  | depth + 1, document =>
    match document.choice? with
    | some ("table", some data) => do
      let [name, label] ← data.fields? ["name", "alias"] | none
      return .table (← (← name).text?) (← optional label Json.text?)
    | some ("subquery", some data) => do
      let [query', label] ← data.fields? ["query", "alias"] | none
      return .subquery (← query depth (← query')) (← (← label).text?)
    | some ("raw", some data) => data.text?.map .raw
    | _ => none

/-- Reads a join. -/
def join : Nat → Json → Option Join
  | 0, _ => none
  | depth + 1, document => do
    let [kind, source', on] ← document.fields? ["kind", "source", "on"] | none
    return ⟨← JoinKind.ofJson? (← kind), ← source depth (← source'), ← optional on (expr depth)⟩

end

end Query.Reading

/-- The expression that a document describes. -/
def Expr.ofJson? (document : Json) : Option Expr := Query.Reading.expr document.depth document

/-- The query that a document describes. -/
def Query.ofJson? (document : Json) : Option Query := Query.Reading.query document.depth document

/-- The select that a document describes. -/
def Select.ofJson? (document : Json) : Option Select := Query.Reading.select document.depth document

/-- The join that a document describes. -/
def Join.ofJson? (document : Json) : Option Join := Query.Reading.join document.depth document

/-! ## Writing -/

/-- The name of the kind of an expression in documents. -/
def Expr.kind : Expr → String
  | .star => "star"
  | .tableStar _ => "table_star"
  | .column .. => "column"
  | .literal _ => "literal"
  | .bind .. => "bind"
  | .always => "true"
  | .never => "false"
  | .raw _ => "raw"
  | .binary .. => "binary"
  | .conj _ => "and"
  | .disj _ => "or"
  | .negation _ => "not"
  | .isNull _ => "is_null"
  | .isNotNull _ => "is_not_null"
  | .inList .. => "in"
  | .inQuery .. => "in_subquery"
  | .hasRows _ => "exists"
  | .subquery _ => "subquery"
  | .call .. => "function"
  | .named .. => "alias"
  | .grouping _ => "grouping"

mutual

/-- The document of an expression, doubles being written by `float`. -/
def Expr.toJson (float : Number.Double → Json) : Expr → Json
  | .star => .text "star"
  | .always => .text "true"
  | .never => .text "false"
  | .tableStar table => .obj [("table_star", .text table)]
  | .column table name =>
    .obj [("column", .obj [("table", .ofOption .text table), ("name", .text name)])]
  | .literal value => .obj [("literal", value.toJson float)]
  | .bind name value =>
    .obj [("bind", .obj [("name", .text name), ("value", value.toJson float)])]
  | .raw sql => .obj [("raw", .text sql)]
  | .binary left op right =>
    .obj [("binary", .obj [("left", left.toJson float), ("op", .text op.documentName),
      ("right", right.toJson float)])]
  | .conj items => .obj [("and", .array (Expr.listToJson float items))]
  | .disj items => .obj [("or", .array (Expr.listToJson float items))]
  | .negation inner => .obj [("not", inner.toJson float)]
  | .isNull inner => .obj [("is_null", inner.toJson float)]
  | .isNotNull inner => .obj [("is_not_null", inner.toJson float)]
  | .inList inner items negated =>
    .obj [("in", .obj [("expr", inner.toJson float),
      ("list", .array (Expr.listToJson float items)), ("negated", .bool negated)])]
  | .inQuery inner query negated =>
    .obj [("in_subquery", .obj [("expr", inner.toJson float), ("query", query.toJson float),
      ("negated", .bool negated)])]
  | .hasRows query => .obj [("exists", query.toJson float)]
  | .subquery query => .obj [("subquery", query.toJson float)]
  | .call name args distinct =>
    .obj [("function", .obj [("name", .text name),
      ("args", .array (Expr.listToJson float args)), ("distinct", .bool distinct)])]
  | .named inner name =>
    .obj [("alias", .obj [("expr", inner.toJson float), ("alias", .text name)])]
  | .grouping inner => .obj [("grouping", inner.toJson float)]

/-- The documents of expressions. -/
def Expr.listToJson (float : Number.Double → Json) : List Expr → List Json
  | [] => []
  | e :: rest => e.toJson float :: Expr.listToJson float rest

/-- The document of a query. -/
def Query.toJson (float : Number.Double → Json) : Query → Json
  | ⟨first, rest, order, limit, offset, lock⟩ =>
    .obj [("core", first.toJson float), ("set_ops", .array (Operand.listToJson float rest)),
      ("orders", .array (SortKey.listToJson float order)),
      ("limit", .ofOption (fun n => .int n.toNat) limit),
      ("offset", .ofOption (fun n => .int n.toNat) offset), ("lock", .ofOption Lock.toJson lock)]

/-- The document of a select. -/
def Select.toJson (float : Number.Double → Json) : Select → Json
  | ⟨quantifier, projections, source, joins, wheres, groups, havings⟩ =>
    .obj [("set_quantifier", .ofOption (fun q => .text q.documentName) quantifier),
      ("projections", .array (Expr.listToJson float projections)),
      ("source", match source with
        | none => .null
        | some source => source.toJson float),
      ("joins", .array (Join.listToJson float joins)),
      ("wheres", .array (Expr.listToJson float wheres)),
      ("groups", .array (Expr.listToJson float groups)),
      ("havings", .array (Expr.listToJson float havings))]

/-- The documents of further selects. -/
def Operand.listToJson (float : Number.Double → Json) : List Operand → List Json
  | [] => []
  | ⟨op, select⟩ :: rest =>
    .array [.text op.documentName, select.toJson float] :: Operand.listToJson float rest

/-- The documents of sort keys. -/
def SortKey.listToJson (float : Number.Double → Json) : List SortKey → List Json
  | [] => []
  | ⟨expr, direction, nulls⟩ :: rest =>
    .obj [("expr", expr.toJson float), ("direction", .text direction.documentName),
      ("nulls", .ofOption (fun n => .text n.documentName) nulls)] :: SortKey.listToJson float rest

/-- The document of a source. -/
def Source.toJson (float : Number.Double → Json) : Source → Json
  | .table name label =>
    .obj [("table", .obj [("name", .text name), ("alias", .ofOption .text label)])]
  | .subquery query label =>
    .obj [("subquery", .obj [("query", query.toJson float), ("alias", .text label)])]
  | .raw sql => .obj [("raw", .text sql)]

/-- The documents of joins. -/
def Join.listToJson (float : Number.Double → Json) : List Join → List Json
  | [] => []
  | ⟨kind, source, on⟩ :: rest =>
    .obj [("kind", .text kind.documentName), ("source", source.toJson float),
      ("on", match on with
        | none => .null
        | some e => e.toJson float)] :: Join.listToJson float rest

end

end Anywhere
