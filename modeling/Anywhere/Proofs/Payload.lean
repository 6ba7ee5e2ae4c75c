import Anywhere.Proofs.OutermostQueries
import Anywhere.Proofs.RowCap
import Anywhere.Proofs.Scanning

/-!
# What a query is made of

The texts and names that a query says are found in its SQL text inside quotes, one after the other,
and `Query.payload` lists them by a plain look at the tree that knows nothing of quotes, together
with the places of the parameters. Bringing a query to its normal form changes none of this, for all
that is put into it or taken out of it is numbers and raw SQL.

Raw SQL, the name of a function and the clause of a lock are handed on as they are. They are kept
apart from the rest as the `verbatim` texts of a query, and a query is tame when none of them has a
quote or a question mark.
-/

namespace Anywhere

namespace Sql

/-- The token is a string, a name or a place. -/
def Token.isPayload : Token → Bool
  | string _ => true
  | name _ => true
  | char c => c == '?'

/-- A name in double quotes. -/
def nameToken (name : String) : Token := .name (Name.plain name.toList)

/-- The names that a table name consists of, one for each part between the dots. -/
def nameTokens (name : String) : List Token :=
  (Text.pieces '.' name.toList).map fun part => .name (Name.plain part)

/-- The place of a parameter. -/
def placeToken : Token := .char '?'

end Sql

open Sql

/-- The string that a value is written as, or its place. Numbers and null are neither. -/
def Value.payload (v : Value) : List Token :=
  match v.quotedText? with
  | some content => [.string content]
  | none => if v.hasLiteral then [] else [placeToken]

mutual

/-- The strings, names and places of an expression in the order in which they are written. -/
def Expr.payload : Expr → List Token
  | .tableStar table => nameTokens table
  | .column none name => [nameToken name]
  | .column (some table) name => nameTokens table ++ [nameToken name]
  | .literal value => value.payload
  | .bind _ _ => [placeToken]
  | .binary left _ right => left.payload ++ right.payload
  | .conj items => Expr.payloadOfList items
  | .disj items => Expr.payloadOfList items
  | .negation inner => inner.payload
  | .isNull inner => inner.payload
  | .isNotNull inner => inner.payload
  -- what stands to the left of an empty list is not written
  | .inList _ [] _ => []
  | .inList inner (item :: rest) _ =>
    inner.payload ++ item.payload ++ Expr.payloadOfList rest
  | .inQuery inner query _ => inner.payload ++ query.payload
  | .hasRows query => query.payload
  | .subquery query => query.payload
  | .call _ args _ => Expr.payloadOfList args
  | .named inner name => inner.payload ++ [nameToken name]
  | .grouping inner => inner.payload
  | .star => []
  | .always => []
  | .never => []
  | .raw _ => []

/-- The strings, names and places of expressions. -/
def Expr.payloadOfList : List Expr → List Token
  | [] => []
  | e :: rest => e.payload ++ Expr.payloadOfList rest

/-- The strings, names and places of a query. -/
def Query.payload : Query → List Token
  | ⟨first, rest, order, _, _, _⟩ =>
    first.payload ++ Operand.payloadOfList rest ++ SortKey.payloadOfList order

/-- The strings, names and places of a select. -/
def Select.payload : Select → List Token
  | ⟨_, projections, source, joins, wheres, groups, havings⟩ =>
    Expr.payloadOfList projections ++ Source.payloadFrom source ++ Join.payloadOfList joins ++
      Expr.payloadOfList wheres ++ Expr.payloadOfList groups ++ Expr.payloadOfList havings

/-- The strings, names and places of further selects. -/
def Operand.payloadOfList : List Operand → List Token
  | [] => []
  | ⟨_, select⟩ :: rest => select.payload ++ Operand.payloadOfList rest

/-- The strings, names and places of sort keys. -/
def SortKey.payloadOfList : List SortKey → List Token
  | [] => []
  | ⟨expr, _, _⟩ :: rest => expr.payload ++ SortKey.payloadOfList rest

/-- The strings, names and places of a source. -/
def Source.payload : Source → List Token
  | .table name none => nameTokens name
  | .table name (some label) => nameTokens name ++ [nameToken label]
  | .subquery query label => query.payload ++ [nameToken label]
  | .raw _ => []

/-- The strings, names and places of what a select reads from first. -/
def Source.payloadFrom : Option Source → List Token
  | none => []
  | some source => source.payload

/-- The strings, names and places of joins. -/
def Join.payloadOfList : List Join → List Token
  | [] => []
  | ⟨_, source, on⟩ :: rest => source.payload ++ Expr.payloadOn on ++ Join.payloadOfList rest

/-- The strings, names and places of the condition of a join. -/
def Expr.payloadOn : Option Expr → List Token
  | none => []
  | some e => e.payload

end

/-! ## Text that is handed on as it is -/

/-- The text that the node hands on as it is. -/
def Expr.verbatim? : Expr → Option String
  | .raw sql => some sql
  | .call name _ _ => some name
  | _ => none

/-- The texts that an expression hands on as they are, nested queries aside. -/
def Expr.verbatim (e : Expr) : List String := e.nodes.filterMap Expr.verbatim?

/-- The texts that a source hands on as they are. -/
def Source.verbatim : Source → List String
  | .raw sql => [sql]
  | _ => []

/-- The texts that a join hands on as they are. -/
def Join.verbatim (j : Join) : List String :=
  j.source.verbatim ++ j.on.toList.flatMap Expr.verbatim

/-- The texts that a select hands on as they are. -/
def Select.verbatim (s : Select) : List String :=
  s.projections.flatMap Expr.verbatim ++ s.source.toList.flatMap Source.verbatim ++
    s.joins.flatMap Join.verbatim ++ s.wheres.flatMap Expr.verbatim ++
    s.groups.flatMap Expr.verbatim ++ s.havings.flatMap Expr.verbatim

/-- The text that a lock hands on as it is. -/
def Lock.verbatim : Lock → List String
  | .forUpdate => []
  | .clause text => [text]

/-- The texts that a query hands on as they are, nested queries aside. -/
def Query.verbatim (q : Query) : List String :=
  q.selects.flatMap Select.verbatim ++ q.order.flatMap (·.expr.verbatim) ++
    q.lock.toList.flatMap Lock.verbatim

/-- The text that the query hands on as it is has neither quotes nor question marks. -/
def Query.Tame (q : Query) : Prop := ∀ text ∈ q.verbatim, Inert text.toList

instance (q : Query) : Decidable q.Tame := List.decidableBAll _ q.verbatim

namespace Expr

theorem verbatim_nodesOfList (es : List Expr) :
    (nodesOfList es).filterMap verbatim? = es.flatMap verbatim := by
  induction es with
  | nil => rfl
  | cons e es ih => rw [nodesOfList, List.filterMap_append, ih, List.flatMap_cons]; rfl

theorem verbatim_binary (left right : Expr) (op : BinaryOp) :
    (binary left op right).verbatim = left.verbatim ++ right.verbatim := by
  rw [verbatim, nodes, List.cons_append, List.filterMap_cons_none rfl, List.filterMap_append]
  rfl

theorem verbatim_conj (items : List Expr) : (conj items).verbatim = items.flatMap verbatim := by
  rw [verbatim, nodes, List.filterMap_cons_none rfl, verbatim_nodesOfList]

theorem verbatim_disj (items : List Expr) : (disj items).verbatim = items.flatMap verbatim := by
  rw [verbatim, nodes, List.filterMap_cons_none rfl, verbatim_nodesOfList]

theorem verbatim_inList (inner : Expr) (items : List Expr) (negated : Bool) :
    (inList inner items negated).verbatim = inner.verbatim ++ items.flatMap verbatim := by
  rw [verbatim, nodes, List.cons_append, List.filterMap_cons_none rfl, List.filterMap_append,
    verbatim_nodesOfList]
  rfl

theorem verbatim_call (name : String) (args : List Expr) (distinct : Bool) :
    (call name args distinct).verbatim = name :: args.flatMap verbatim := by
  rw [verbatim, nodes]
  exact congrArg (name :: ·) (verbatim_nodesOfList args)

end Expr

/-! ## A normal form is made of the same -/

section Everywhere

variable {f : Query → Query}

mutual

theorem Expr.payload_everywhere (hf : ∀ q, (f q).payload = q.payload) (e : Expr) :
    (e.everywhere f).payload = e.payload := by
  cases e with
  | subquery query => rw [Expr.everywhere, Expr.payload, Expr.payload, query.payload_everywhere hf]
  | hasRows query => rw [Expr.everywhere, Expr.payload, Expr.payload, query.payload_everywhere hf]
  | inQuery inner query negated =>
    rw [Expr.everywhere, Expr.payload, Expr.payload, inner.payload_everywhere hf,
      query.payload_everywhere hf]
  | binary left op right =>
    rw [Expr.everywhere, Expr.payload, Expr.payload, left.payload_everywhere hf,
      right.payload_everywhere hf]
  | conj items | disj items =>
    rw [Expr.everywhere, Expr.payload, Expr.payload, Expr.payloadOfList_everywhere hf items]
  | inList inner items negated =>
    cases items with
    | nil => rfl
    | cons item rest =>
      rw [Expr.everywhere, Expr.everywhereOfList, Expr.payload, Expr.payload,
        inner.payload_everywhere hf, item.payload_everywhere hf,
        Expr.payloadOfList_everywhere hf rest]
  | call name args distinct =>
    rw [Expr.everywhere, Expr.payload, Expr.payload, Expr.payloadOfList_everywhere hf args]
  | negation inner | isNull inner | isNotNull inner | named inner _ | grouping inner =>
    rw [Expr.everywhere, Expr.payload, Expr.payload, inner.payload_everywhere hf]
  | _ => rfl

theorem Expr.payloadOfList_everywhere (hf : ∀ q, (f q).payload = q.payload) (es : List Expr) :
    Expr.payloadOfList (Expr.everywhereOfList f es) = Expr.payloadOfList es := by
  cases es with
  | nil => rfl
  | cons e rest =>
    rw [Expr.everywhereOfList, Expr.payloadOfList, Expr.payloadOfList, e.payload_everywhere hf,
      Expr.payloadOfList_everywhere hf rest]

/-- **A function that keeps what single queries are made of keeps what trees are made of.** -/
theorem Query.payload_everywhere (hf : ∀ q, (f q).payload = q.payload) (q : Query) :
    (q.everywhere f).payload = q.payload := by
  obtain ⟨first, rest, order, limit, offset, lock⟩ := q
  rw [Query.everywhere, hf, Query.payload, Query.payload, first.payload_everywhere hf,
    Operand.payloadOfList_everywhere hf rest, SortKey.payloadOfList_everywhere hf order]

theorem Select.payload_everywhere (hf : ∀ q, (f q).payload = q.payload) (s : Select) :
    (s.everywhere f).payload = s.payload := by
  obtain ⟨quantifier, projections, source, joins, wheres, groups, havings⟩ := s
  rw [Select.everywhere.eq_def, Select.payload, Select.payload,
    Expr.payloadOfList_everywhere hf projections, Join.payloadOfList_everywhere hf joins,
    Expr.payloadOfList_everywhere hf wheres, Expr.payloadOfList_everywhere hf groups,
    Expr.payloadOfList_everywhere hf havings]
  cases source with
  | none => rfl
  | some source => rw [Source.payloadFrom, Source.payloadFrom, source.payload_everywhere hf]

theorem Operand.payloadOfList_everywhere (hf : ∀ q, (f q).payload = q.payload)
    (os : List Operand) :
    Operand.payloadOfList (Operand.everywhereOfList f os) = Operand.payloadOfList os := by
  cases os with
  | nil => rfl
  | cons o rest =>
    obtain ⟨op, select⟩ := o
    rw [Operand.everywhereOfList, Operand.payloadOfList, Operand.payloadOfList,
      select.payload_everywhere hf, Operand.payloadOfList_everywhere hf rest]

theorem SortKey.payloadOfList_everywhere (hf : ∀ q, (f q).payload = q.payload)
    (ks : List SortKey) :
    SortKey.payloadOfList (SortKey.everywhereOfList f ks) = SortKey.payloadOfList ks := by
  cases ks with
  | nil => rfl
  | cons k rest =>
    obtain ⟨expr, direction, nulls⟩ := k
    rw [SortKey.everywhereOfList, SortKey.payloadOfList, SortKey.payloadOfList,
      expr.payload_everywhere hf, SortKey.payloadOfList_everywhere hf rest]

theorem Source.payload_everywhere (hf : ∀ q, (f q).payload = q.payload) (s : Source) :
    (s.everywhere f).payload = s.payload := by
  cases s with
  | subquery query label =>
    rw [Source.everywhere, Source.payload, Source.payload, query.payload_everywhere hf]
  | _ => rfl

theorem Join.payloadOfList_everywhere (hf : ∀ q, (f q).payload = q.payload) (js : List Join) :
    Join.payloadOfList (Join.everywhereOfList f js) = Join.payloadOfList js := by
  cases js with
  | nil => rfl
  | cons j rest =>
    obtain ⟨kind, source, on⟩ := j
    rw [Join.everywhereOfList.eq_def, Join.payloadOfList, Join.payloadOfList,
      source.payload_everywhere hf, Join.payloadOfList_everywhere hf rest]
    cases on with
    | none => rfl
    | some e => rw [Expr.payloadOn, Expr.payloadOn, e.payload_everywhere hf]

end

end Everywhere

theorem Expr.payloadOfList_eq_flatMap (es : List Expr) :
    Expr.payloadOfList es = es.flatMap Expr.payload := by
  induction es with
  | nil => rfl
  | cons e es ih => rw [Expr.payloadOfList, ih, List.flatMap_cons]

theorem SortKey.payloadOfList_eq_flatMap (ks : List SortKey) :
    SortKey.payloadOfList ks = ks.flatMap (·.expr.payload) := by
  induction ks with
  | nil => rfl
  | cons k ks ih => cases k; rw [SortKey.payloadOfList, ih, List.flatMap_cons]

namespace Query

theorem payload_eq (q : Query) :
    q.payload = q.selects.flatMap Select.payload ++ SortKey.payloadOfList q.order := by
  have hrest : ∀ os, Operand.payloadOfList os = os.flatMap (·.select.payload) := by
    intro os
    induction os with
    | nil => rfl
    | cons o os ih => cases o; rw [Operand.payloadOfList, ih, List.flatMap_cons]
  cases q
  rw [payload, hrest, selects, List.flatMap_cons, List.flatMap_map]

/-- A projection that is left out has no strings and names, and one that is changed has the same. -/
theorem payload_strip (p : Expr) : (Marker.strip p).elim [] Expr.payload = p.payload := by
  cases p with
  | raw sql =>
    rw [Marker.strip_raw]
    split <;> rfl
  | _ => rfl

theorem payloadOfList_strip (projections : List Expr) :
    Expr.payloadOfList (projections.filterMap Marker.strip) = Expr.payloadOfList projections := by
  induction projections with
  | nil => rfl
  | cons p rest ih =>
    have hp := payload_strip p
    rw [List.filterMap_cons, Expr.payloadOfList, ← hp, ← ih]
    cases Marker.strip p with
    | none => rfl
    | some p' => rw [Expr.payloadOfList]; rfl

theorem payload_settledSelect (limit cap : Option UInt64) (s : Select) :
    (settledSelect limit cap s).payload = s.payload := by
  have hnever : ∀ wheres : List Expr,
      Expr.payloadOfList (wheres ++ [.never]) = Expr.payloadOfList wheres := by
    intro wheres
    rw [Expr.payloadOfList_eq_flatMap, Expr.payloadOfList_eq_flatMap, List.flatMap_append]
    exact List.append_nil _
  obtain ⟨quantifier, projections, source, joins, wheres, groups, havings⟩ := s
  unfold settledSelect Select.resolveMarkers
  simp only [Select.payload, payloadOfList_strip]
  split
  · rw [hnever]
  · rfl

theorem payload_settle (q : Query) : q.settle.payload = q.payload := by
  rw [payload_eq, payload_eq, selects_settle, List.flatMap_map, order_settle]
  congr 1
  · exact congrArg (q.selects.flatMap ·) (funext fun s => payload_settledSelect _ _ s)
  · split
    · next h => rw [List.isEmpty_iff.mp h.2]; rfl
    · rfl

/-- **Normalizing keeps the strings, names and places of a query**, and their order. -/
theorem payload_normalize (q : Query) : q.normalize.payload = q.payload :=
  q.payload_everywhere payload_settle

end Query

/-! ## A normal form is as tame as the query -/

section Everywhere

variable {f : Query → Query}

@[simp] theorem Expr.verbatim_everywhere (e : Expr) : (e.everywhere f).verbatim = e.verbatim := by
  have hnode : ∀ node : Expr, (node.everywhere f).verbatim? = node.verbatim? := by
    intro node
    cases node <;> rfl
  rw [Expr.verbatim, Expr.nodes_everywhere, List.filterMap_map]
  exact List.filterMap_congr fun node _ => hnode node

theorem Expr.flatMap_verbatim_everywhere (es : List Expr) :
    (Expr.everywhereOfList f es).flatMap Expr.verbatim = es.flatMap Expr.verbatim := by
  rw [Expr.everywhereOfList_eq_map, List.flatMap_map]
  simp only [Expr.verbatim_everywhere]

theorem Source.verbatim_everywhere (s : Source) : (s.everywhere f).verbatim = s.verbatim := by
  cases s <;> rfl

theorem Join.flatMap_verbatim_everywhere (js : List Join) :
    (Join.everywhereOfList f js).flatMap Join.verbatim = js.flatMap Join.verbatim := by
  induction js with
  | nil => rfl
  | cons j js ih =>
    obtain ⟨kind, source, on⟩ := j
    rw [Join.everywhereOfList.eq_def, List.flatMap_cons, List.flatMap_cons, ih, Join.verbatim,
      Join.verbatim, Source.verbatim_everywhere]
    cases on with
    | none => rfl
    | some e => simp

theorem Select.verbatim_everywhere (s : Select) : (s.everywhere f).verbatim = s.verbatim := by
  obtain ⟨quantifier, projections, source, joins, wheres, groups, havings⟩ := s
  rw [Select.everywhere.eq_def]
  simp only [Select.verbatim, Expr.flatMap_verbatim_everywhere, Join.flatMap_verbatim_everywhere]
  cases source with
  | none => rfl
  | some source => simp [Source.verbatim_everywhere]

/-- What is handed on as it is does not change with the queries that are nested. -/
theorem Query.verbatim_inside (q : Query) : (q.inside f).verbatim = q.verbatim := by
  have hselects : (q.inside f).selects.flatMap Select.verbatim =
      q.selects.flatMap Select.verbatim := by
    rw [selects_inside, List.flatMap_map]
    simp only [Select.verbatim_everywhere]
  have horder : (q.inside f).order.flatMap (·.expr.verbatim) =
      q.order.flatMap (·.expr.verbatim) := by
    rw [inside, SortKey.everywhereOfList_eq_map, List.flatMap_map]
    simp only [Expr.verbatim_everywhere]
  rw [verbatim, verbatim, hselects, horder]
  rfl

end Everywhere

/-- Taking the marker off leaves nothing that was not there. -/
theorem Marker.mem_of_mem_rest? {sql rest : List Char} (h : rest? sql = some rest) :
    ∀ c ∈ rest, c ∈ sql := by
  have hblanks : ∀ text : List Char, ∀ c ∈ Text.dropBlanks text, c ∈ text :=
    fun text c hc => (List.dropWhile_sublist _).subset hc
  unfold rest? at h
  dsimp only at h
  split at h
  · split at h
    · cases h
      exact fun c hc => absurd hc List.not_mem_nil
    · split at h
      · cases h
        intro c hc
        exact hblanks _ c ((List.drop_sublist _ _).subset (hblanks _ c hc))
      · cases h
  · cases h

/-- What holds of a text holds of what is behind its marker, and of the only text that the rules
add. -/
structure Query.Survives (P : List Char → Prop) : Prop where
  rest : ∀ {sql rest : List Char}, Marker.rest? sql = some rest → P sql → P rest
  added : P ['1']

theorem Query.Survives.strip {P : List Char → Prop} (hP : Survives P) {p p' : Expr}
    (h : Marker.strip p = some p') (hp : ∀ text ∈ p.verbatim, P text.toList) :
    ∀ text ∈ p'.verbatim, P text.toList := by
  cases p with
  | raw sql =>
    have hsql : P sql.toList := hp sql List.mem_cons_self
    rw [Marker.strip_raw] at h
    split at h
    · cases h
    · next rest _ hrest =>
      cases h
      intro text htext
      rw [List.mem_singleton.mp htext, String.toList_ofList]
      exact hP.rest hrest hsql
    · cases h
      exact hp
  | _ =>
    cases h
    exact hp

namespace Query

@[simp] theorem lock_closeZeroLimit (q : Query) : q.closeZeroLimit.lock = q.lock := by
  unfold closeZeroLimit
  split <;> rfl

@[simp] theorem lock_boundOffset (q : Query) : q.boundOffset.lock = q.lock := by
  unfold boundOffset
  split <;> rfl

@[simp] theorem lock_orderCapped (q : Query) : q.orderCapped.lock = q.lock := by
  unfold orderCapped
  split <;> rfl

@[simp] theorem lock_dropQuantifiers (q : Query) : q.dropQuantifiers.lock = q.lock := by
  unfold dropQuantifiers
  split <;> rfl

theorem lock_settle (q : Query) : q.settle.lock = q.lock := by
  unfold settle
  rw [lock_dropQuantifiers, lock_orderCapped, lock_boundOffset, lock_closeZeroLimit]
  rfl

theorem Survives.settledSelect {P : List Char → Prop} (hP : Survives P)
    {limit cap : Option UInt64} {s : Select} (h : ∀ text ∈ s.verbatim, P text.toList) :
    ∀ text ∈ (settledSelect limit cap s).verbatim, P text.toList := by
  have hnever : Expr.never.verbatim = [] := rfl
  obtain ⟨quantifier, projections, source, joins, wheres, groups, havings⟩ := s
  simp only [Select.verbatim, List.forall_mem_append] at h
  obtain ⟨⟨⟨⟨⟨hprojections, hsource⟩, hjoins⟩, hwheres⟩, hgroups⟩, hhavings⟩ := h
  simp only [Query.settledSelect, Select.resolveMarkers, Select.verbatim, List.forall_mem_append]
  -- only projections lose their markers, and only the predicates can become one more
  refine ⟨⟨⟨⟨⟨?_, hsource⟩, hjoins⟩, ?_⟩, hgroups⟩, hhavings⟩
  · intro text htext
    obtain ⟨p', hp', htext⟩ := List.mem_flatMap.mp htext
    obtain ⟨p, hp, hstrip⟩ := List.mem_filterMap.mp hp'
    exact hP.strip hstrip
      (fun text htext => hprojections text (List.mem_flatMap_of_mem hp htext)) text htext
  · split
    · rw [List.flatMap_append, List.flatMap_singleton, hnever, List.append_nil]
      exact hwheres
    · exact hwheres

theorem Survives.settle {P : List Char → Prop} (hP : Survives P) {q : Query}
    (h : ∀ text ∈ q.verbatim, P text.toList) : ∀ text ∈ q.settle.verbatim, P text.toList := by
  unfold verbatim at h ⊢
  simp only [List.forall_mem_append, List.forall_mem_flatMap] at h ⊢
  obtain ⟨⟨hselects, horder⟩, hlock⟩ := h
  refine ⟨⟨?_, ?_⟩, ?_⟩
  · rw [selects_settle]
    intro s hs
    obtain ⟨s', hs', rfl⟩ := List.mem_map.mp hs
    exact hP.settledSelect (hselects s' hs')
  · rw [order_settle]
    split
    · intro k hk text htext
      rw [List.mem_singleton.mp hk] at htext
      rw [List.mem_singleton.mp htext]
      exact hP.added
    · exact horder
  · rw [lock_settle]
    exact hlock

/-- **A normal form hands on texts like those of the query.** -/
theorem Survives.normalize {P : List Char → Prop} (hP : Survives P) {q : Query}
    (h : ∀ text ∈ q.verbatim, P text.toList) : ∀ text ∈ q.normalize.verbatim, P text.toList := by
  rw [Query.normalize, everywhere_eq]
  refine hP.settle ?_
  rwa [verbatim_inside]

theorem survives_inert : Survives Inert :=
  ⟨fun hrest h => h.of_subset (Marker.mem_of_mem_rest? hrest), by decide⟩

/-- **A normal form is tame when the query is**, with all queries in it. -/
theorem tame_all_normalize {q : Query} (h : ∀ t ∈ q.all, t.Tame) :
    ∀ t ∈ q.normalize.all, t.Tame := by
  rw [all_normalize, List.forall_mem_map]
  exact fun t ht => survives_inert.normalize (h t ht)

end Query

end Anywhere
