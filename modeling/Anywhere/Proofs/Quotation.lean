import Anywhere.Proofs.Payload

/-!
# Nothing breaks out of its quotes

Whatever texts and names a query is made of, the server must find in the SQL text the strings and
names that were meant, and as many places as there are parameters. The two sides of this are the
scanner, which is run on the text, and the payload of the query. Each part of a tree shows its
payload in its text, and no string in front of a part can run on into it, for a part that follows
another one never begins with a single quote.

Text that is handed on as it is can hold quotes of its own, so it has to be free of quotes and
question marks, as function names of letters, digits and underscores are. Nothing is asked of any
other text.
-/

namespace Anywhere

open Sql

/-! ## Text around the places -/

namespace Sql

theorem filter_map_char {text : List Char} (h : Inert text) :
    (text.map Token.char).filter Token.isPayload = [] := by
  refine List.filter_eq_nil_iff.mpr fun token htoken => ?_
  obtain ⟨c, hc, rfl⟩ := List.mem_map.mp htoken
  rw [Token.isPayload, beq_iff_eq]
  exact (h c hc).2.2

/-- The points between the parts of a table name are nothing but characters. -/
theorem filter_pathTokens (name : String) :
    (pathTokens name).filter Token.isPayload = nameTokens name := by
  rw [pathTokens, nameTokens]
  induction Text.pieces '.' name.toList with
  | nil => rfl
  | cons part parts ih =>
    cases parts with
    | nil => rfl
    | cons next parts =>
      simp only [List.map_cons] at ih ⊢
      rw [List.intercalate_cons_cons, List.filter_append, List.filter_append, ih]
      rfl

/-- Whatever follows, scanning the text finds these strings and names, and no place. -/
structure Quotes (sql : String) (payload : List Token) : Prop where
  closes : ∃ tokens, Closes sql.toList tokens ∧ tokens.filter Token.isPayload = payload
  placeless : placeToken ∉ payload

namespace Quotes

theorem append {a b : String} {ps qs : List Token} (ha : Quotes a ps) (hb : Quotes b qs) :
    Quotes (a ++ b) (ps ++ qs) := by
  obtain ⟨ts, hts, hps⟩ := ha.closes
  obtain ⟨us, hus, hqs⟩ := hb.closes
  refine ⟨⟨ts ++ us, ?_, by rw [List.filter_append, hps, hqs]⟩, ?_⟩
  · rw [String.toList_append]
    exact hts.append hus
  · rw [List.mem_append, not_or]
    exact ⟨ha.placeless, hb.placeless⟩

theorem inert {sql : String} (h : Inert sql.toList) : Quotes sql [] :=
  ⟨⟨_, h.unquoted.closes, filter_map_char h⟩, nofun⟩

theorem name (name : String) : Quotes (Name.quoted name) [nameToken name] := by
  refine ⟨⟨[nameToken name], ?_, rfl⟩, by simp [nameToken, placeToken]⟩
  rw [Name.quoted, String.toList_ofList]
  exact closes_quotedChars _

theorem path (name : String) : Quotes (Name.quotedPath name) (nameTokens name) := by
  refine ⟨⟨_, closes_quotedPath name, filter_pathTokens name⟩, ?_⟩
  intro hplace
  obtain ⟨part, -, hpart⟩ := List.mem_map.mp hplace
  exact nomatch hpart

end Quotes

end Sql

/-! ## Fragments that show what they are made of -/

/-- Bytes and numbers without a value have no literal, and nothing of them is quoted. -/
theorem Value.quotedText?_eq_none {v : Value} (h : v.hasLiteral = false) :
    v.quotedText? = none := by
  cases v with
  | float x => rfl
  | binary bytes => rfl
  | _ => exact nomatch h

namespace Fragments

/-- Scanning the text finds these strings, names and places, a place for each parameter. -/
structure Shows (fs : Fragments) (payload : List Token) : Prop where
  scans : ∃ tokens, Scans fs.sql.toList tokens ∧ tokens.filter Token.isPayload = payload
  places : fs.parameters.length = payload.count placeToken

/-- They show the same behind anything else: no string in front of them goes on with their text. -/
structure Continues (fs : Fragments) (payload : List Token) : Prop extends Shows fs payload where
  apart : fs.sql.toList.head? ≠ some '\''

namespace Shows

theorem nil : Shows [] [] := ⟨⟨[], Closes.nil.scans, rfl⟩, rfl⟩

theorem append {a b : Fragments} {ps qs : List Token} (ha : Shows a ps) (hb : Continues b qs) :
    Shows (a ++ b) (ps ++ qs) := by
  obtain ⟨ts, hts, hps⟩ := ha.scans
  obtain ⟨us, hus, hqs⟩ := hb.scans
  refine ⟨⟨ts ++ us, ?_, by rw [List.filter_append, hps, hqs]⟩, ?_⟩
  · rw [sql_append, String.toList_append]
    exact hts.append hus hb.apart
  · rw [parameters_append, List.length_append, ha.places, hb.places, List.count_append]

theorem text {sql : String} {ps qs : List Token} {fs : Fragments} (h : Quotes sql ps)
    (hfs : Shows fs qs) : Shows (.text sql :: fs) (ps ++ qs) := by
  obtain ⟨ts, hts, hps⟩ := h.closes
  obtain ⟨us, hus, hqs⟩ := hfs.scans
  refine ⟨⟨ts ++ us, ?_, by rw [List.filter_append, hps, hqs]⟩, ?_⟩
  · rw [sql_cons, Fragment.sql_text, String.toList_append]
    exact hts.appendScans hus
  · rw [parameters_text, hfs.places, List.count_append, List.count_eq_zero.mpr h.placeless,
      Nat.zero_add]

/-- Text outside and inside double quotes, with nothing behind it. -/
theorem quoted {sql : String} {ps : List Token} (h : Quotes sql ps) : Shows [.text sql] ps := by
  have hshows := text h nil
  rwa [List.append_nil] at hshows

/-- Text without quotes and question marks shows nothing. -/
theorem inert {sql : String} {fs : Fragments} {ps : List Token} (h : Inert sql.toList)
    (hfs : Shows fs ps) : Shows (.text sql :: fs) ps := text (.inert h) hfs

theorem place (p : Parameter) : Shows [.place p] [placeToken] := by
  have hunquoted : Unquoted Fragment.placeholder.toList := by decide
  refine ⟨⟨[placeToken], ?_, rfl⟩, rfl⟩
  rw [sql_cons, sql_nil, String.append_empty]
  exact hunquoted.closes.scans

theorem string (content : List Char) :
    Shows [.text (Literal.ofChars content)] [.string content] := by
  refine ⟨⟨[.string content], ?_, rfl⟩, rfl⟩
  rw [sql_cons, sql_nil, String.append_empty]
  exact scans_ofChars content

theorem value (v : Value) : Shows (ofValue v) v.payload := by
  have hliteral := v.isSome_literal?
  rw [ofValue, Value.payload]
  cases hsql : v.literal? with
  | none =>
    rw [hsql, Option.isSome_none] at hliteral
    rw [Value.quotedText?_eq_none hliteral.symm, ← hliteral]
    exact place _
  | some sql =>
    rw [hsql, Option.isSome_some] at hliteral
    rcases Value.literal?_forms hsql with ⟨content, hquoted, rfl⟩ | ⟨hquoted, hform⟩
    · rw [hquoted]
      exact string content
    · have hinert : Inert sql.toList := by
        rcases hform with ⟨-, rfl⟩ | ⟨hnumeric, -⟩
        · decide
        · exact .ofNumeric hnumeric
      rw [hquoted, ← hliteral]
      exact inert hinert nil

end Shows

namespace Continues

theorem nil : Continues [] [] := ⟨.nil, nofun⟩

theorem append {a b : Fragments} {ps qs : List Token} (ha : Continues a ps)
    (hb : Continues b qs) : Continues (a ++ b) (ps ++ qs) := by
  refine ⟨ha.toShows.append hb, ?_⟩
  rw [sql_append, String.toList_append]
  cases hsql : (sql a).toList with
  | nil => exact hb.apart
  | cons c rest =>
    have hapart := ha.apart
    rw [hsql] at hapart
    exact hapart

/-- Text that is not empty keeps what is behind it apart from what is in front of it. -/
theorem separator {sql : String} {fs : Fragments} {ps : List Token} (h : Separator sql)
    (hfs : Shows fs ps) : Continues (.text sql :: fs) ps := by
  refine ⟨.inert h.inert hfs, ?_⟩
  have hhead := h.inert.head_ne
  obtain ⟨c, rest, hsql⟩ := List.exists_cons_of_ne_nil h.nonempty
  rw [hsql] at hhead
  rw [sql_cons, Fragment.sql_text, String.toList_append, hsql]
  exact hhead

theorem inert {sql : String} (h : Inert sql.toList) : Continues [.text sql] [] := by
  refine ⟨.inert h .nil, ?_⟩
  rw [sql_cons, sql_nil, String.append_empty]
  exact h.head_ne

/-- A name behind a separator. -/
theorem name {separator : String} (h : Separator separator) (name : String) :
    Continues [.text (separator ++ Name.quoted name)] [nameToken name] := by
  refine ⟨.quoted ((Quotes.inert h.inert).append (.name name)), ?_⟩
  have hhead := h.inert.head_ne
  obtain ⟨c, rest, hsql⟩ := List.exists_cons_of_ne_nil h.nonempty
  rw [hsql] at hhead
  rw [sql_cons, Fragment.sql_text, String.toList_append, String.toList_append, hsql]
  exact hhead

end Continues

namespace Shows

/-- Text without quotes and question marks shows nothing behind something else either. -/
theorem followedBy {fs : Fragments} {ps : List Token} {sql : String} (h : Shows fs ps)
    (hinert : Inert sql.toList) : Shows (fs ++ [.text sql]) ps := by
  have hshows := h.append (.inert hinert)
  rwa [List.append_nil] at hshows

theorem parenthesized {fs : Fragments} {ps : List Token} (h : Shows fs ps) :
    Shows (parenthesized fs) ps :=
  inert (by decide) (h.followedBy (by decide))

theorem joinWith {separator : String} (hseparator : Separator separator) {xs : List α}
    {f : α → Fragments} {g : α → List Token} (h : ∀ x ∈ xs, Shows (f x) (g x)) :
    Shows (joinWith separator (xs.map f)) (xs.flatMap g) := by
  induction xs with
  | nil => exact nil
  | cons x xs ih =>
    have hx := h x List.mem_cons_self
    have hrest := ih fun y hy => h y (List.mem_cons_of_mem x hy)
    cases xs with
    | nil => simpa [Fragments.joinWith] using hx
    | cons y xs => exact hx.append (.separator hseparator hrest)

theorem isolate {e : Expr} {fs : Fragments} {ps : List Token} (h : Shows fs ps) :
    Shows (isolate e fs) ps := by
  unfold Fragments.isolate
  split
  · exact h.parenthesized
  · exact h

theorem listed {es : List Expr} (h : ∀ e ∈ es, Shows e.fragments e.payload) :
    Shows (Fragments.joinWith ", " (Expr.fragmentsOfList es)) (es.flatMap Expr.payload) := by
  rw [Expr.fragmentsOfList_eq_map]
  exact joinWith (by decide) h

theorem conjunction {items : List Expr} (h : ∀ e ∈ items, Shows e.fragments e.payload) :
    Shows (conjunction items (Expr.fragmentsOfList items)) (items.flatMap Expr.payload) := by
  rw [conjunction_fragmentsOfList]
  refine joinWith (by decide) fun e he => ?_
  split
  · exact (h e he).isolate
  · exact h e he

theorem columns {es : List Expr} (h : ∀ e ∈ es, Shows e.fragments e.payload) :
    Shows (columns (Expr.fragmentsOfList es)) (es.flatMap Expr.payload) := by
  cases es with
  | nil => exact inert (by decide) nil
  | cons e es => exact listed h

end Shows

namespace Continues

theorem membership (negated : Bool) {fs : Fragments} {ps : List Token} (h : Shows fs ps) :
    Continues (membership negated :: fs) ps := by
  cases negated with
  | false => exact separator (by decide) h
  | true => exact separator (by decide) h

theorem clause {keyword : String} (hkeyword : Separator keyword) {xs : List α}
    {f : α → Fragments} {g : α → List Token} (h : ∀ x ∈ xs, Shows (f x) (g x)) :
    Continues (clause keyword (xs.map f)) (xs.flatMap g) := by
  cases xs with
  | nil => exact nil
  | cons x xs => exact separator hkeyword (.joinWith (by decide) h)

theorem conjunctionClause {keyword : String} (hkeyword : Separator keyword) {items : List Expr}
    (h : ∀ e ∈ items, Shows e.fragments e.payload) :
    Continues (conjunctionClause keyword items (Expr.fragmentsOfList items))
      (items.flatMap Expr.payload) := by
  cases items with
  | nil => exact nil
  | cons e items => exact separator hkeyword (.conjunction h)

end Continues

end Fragments

/-! ## Every part of a tree shows what it is made of -/

/-- Neither the texts nor those that the queries hand on have quotes or question marks. -/
structure Harmless (texts : List String) (queries : List Query) : Prop where
  inert : ∀ text ∈ texts, Inert text.toList
  tame : ∀ t ∈ queries, t.Tame

namespace Harmless

theorem append_iff {texts more : List String} {queries others : List Query} :
    Harmless (texts ++ more) (queries ++ others) ↔
      Harmless texts queries ∧ Harmless more others := by
  constructor
  · rintro ⟨hinert, htame⟩
    rw [List.forall_mem_append] at hinert htame
    exact ⟨⟨hinert.1, htame.1⟩, hinert.2, htame.2⟩
  · rintro ⟨⟨hinert, htame⟩, hinert', htame'⟩
    exact ⟨List.forall_mem_append.mpr ⟨hinert, hinert'⟩,
      List.forall_mem_append.mpr ⟨htame, htame'⟩⟩

end Harmless

/-! The texts of clauses that depend on what a query says. -/

theorem Sql.Inert.ofNat (n : Nat) : Inert (Number.ofNat n).toList := by
  rw [Number.ofNat, String.toList_ofList]
  exact .ofNumeric (.ofAllDigits (Number.allDigits_digits n))

theorem Query.inert_cap (limit offset : Option UInt64) : Inert (Query.cap limit offset).toList := by
  unfold Query.cap
  rw [String.toList_append]
  refine .append ?_ ?_
  · cases limit with
    | none => decide
    | some n =>
      rw [String.toList_append]
      exact .append (by decide) (.ofNat _)
  · cases offset with
    | none => decide
    | some m =>
      rw [String.toList_append]
      exact .append (by decide) (.ofNat _)

theorem Quantifier.inert_clause (quantifier : Option Quantifier) :
    Inert (Quantifier.clause quantifier).toList := by
  unfold Quantifier.clause
  split <;> decide

theorem SortKey.inert_suffix (direction : Direction) (nulls : Option NullPlacement) :
    Inert (SortKey.suffix direction nulls).toList := by
  cases direction <;> rcases nulls with _ | _ | _ <;> decide

/-- White space at the ends is all that a clause loses. -/
theorem Lock.inert_suffix {lock : Option Lock}
    (h : ∀ text ∈ lock.toList.flatMap Lock.verbatim, Inert text.toList) :
    Inert (Lock.suffix lock).toList := by
  rcases lock with _ | _ | text
  · decide
  · decide
  · have htext : Inert text.toList := h text List.mem_cons_self
    have htrim : ∀ c ∈ (Text.trim text).toList, c ∈ text.toList := by
      intro c hc
      rw [Text.trim, String.toList_ofList, Text.stripBlanks, Text.dropBlanksRight,
        List.mem_reverse] at hc
      have hright := List.mem_reverse.mp ((List.dropWhile_sublist _).subset hc)
      exact (List.dropWhile_sublist _).subset hright
    rw [Lock.suffix, String.toList_append]
    exact .append (by decide) (htext.of_subset htrim)

mutual

/-- **Scanning an expression finds what it is made of.** -/
theorem Expr.shows (e : Expr) (h : Harmless e.verbatim e.queries) :
    e.fragments.Shows e.payload := by
  -- what is behind a subexpression always begins with text of its own, and so does not go on with a
  -- string at its end
  cases e with
  | star => exact .inert (by decide) .nil
  | tableStar table =>
    have hall : Quotes ".*" [] := .inert (by decide)
    have hshows := Fragments.Shows.quoted ((Quotes.path table).append hall)
    rwa [List.append_nil] at hshows
  | column table name =>
    cases table with
    | none => exact .quoted (.name name)
    | some table =>
      have hdot : Quotes "." [] := .inert (by decide)
      have hshows := Fragments.Shows.quoted (((Quotes.path table).append hdot).append (.name name))
      rwa [List.append_nil] at hshows
  | literal value =>
    rw [Expr.fragments, Expr.payload]
    exact .value value
  | bind name value => exact .place _
  | always => exact .inert (by decide) .nil
  | never => exact .inert (by decide) .nil
  | raw sql =>
    have hsql : Inert sql.toList := h.inert sql List.mem_cons_self
    exact .inert hsql .nil
  | binary left op right =>
    rw [Expr.verbatim_binary, Expr.queries, Harmless.append_iff] at h
    have hop : Separator (" " ++ op.symbol ++ " ") := by cases op <;> decide
    rw [Expr.fragments, Expr.payload]
    exact (left.shows h.1).append (.separator hop (right.shows h.2))
  | conj items =>
    rw [Expr.verbatim_conj, Expr.queries] at h
    rw [Expr.fragments, Expr.payload, Expr.payloadOfList_eq_flatMap]
    exact .conjunction (Expr.showsOfList items h)
  | disj items =>
    rw [Expr.verbatim_disj, Expr.queries] at h
    rw [Expr.fragments, Expr.payload, Expr.payloadOfList_eq_flatMap, Expr.fragmentsOfList_eq_map]
    exact .parenthesized (.joinWith (by decide) (Expr.showsOfList items h))
  | negation inner =>
    rw [Expr.fragments, Expr.payload]
    exact .inert (by decide) (inner.shows h).parenthesized
  | isNull inner =>
    rw [Expr.fragments, Expr.payload]
    exact (inner.shows h).followedBy (by decide)
  | isNotNull inner =>
    rw [Expr.fragments, Expr.payload]
    exact (inner.shows h).followedBy (by decide)
  | inList inner items negated =>
    cases items with
    | nil => exact .inert (by cases negated <;> decide) .nil
    | cons item rest =>
      rw [Expr.verbatim_inList, Expr.queries, Harmless.append_iff] at h
      have hitems := Fragments.Shows.listed (Expr.showsOfList (item :: rest) h.2)
      rw [Expr.fragments, Expr.payload, List.append_assoc, Expr.payloadOfList_eq_flatMap]
      exact (inner.shows h.1).append (.membership negated hitems.parenthesized)
  | inQuery inner query negated =>
    have hparts : Harmless (inner.verbatim ++ []) (inner.queries ++ query.all) := by
      rw [List.append_nil]
      exact h
    rw [Harmless.append_iff] at hparts
    have hquery := query.shows hparts.2.tame
    rw [Expr.fragments, Expr.payload]
    exact (inner.shows hparts.1).append (.membership negated hquery.parenthesized)
  | hasRows query =>
    rw [Expr.fragments, Expr.payload]
    exact .inert (by decide) (query.shows h.tame).parenthesized
  | subquery query =>
    rw [Expr.fragments, Expr.payload]
    exact (query.shows h.tame).parenthesized
  | call name args distinct =>
    rw [Expr.verbatim_call, Expr.queries] at h
    have hname : Inert (Text.uppercase name).toList :=
      .uppercase (h.inert name List.mem_cons_self)
    have hargs := Fragments.Shows.listed (Expr.showsOfList args
      ⟨fun text htext => h.inert text (List.mem_cons_of_mem name htext), h.tame⟩)
    rw [Expr.fragments, Expr.payload, Expr.payloadOfList_eq_flatMap]
    refine .inert hname (.parenthesized ?_)
    cases distinct with
    | false => exact hargs
    | true => exact .inert (by decide) hargs
  | named inner name =>
    rw [Expr.fragments, Expr.payload]
    exact (inner.shows h).append (.name (by decide) name)
  | grouping inner =>
    rw [Expr.fragments, Expr.payload]
    exact (inner.shows h).parenthesized

theorem Expr.showsOfList (es : List Expr)
    (h : Harmless (es.flatMap Expr.verbatim) (Expr.queriesOfList es)) :
    ∀ e ∈ es, e.fragments.Shows e.payload := by
  cases es with
  | nil => exact nofun
  | cons e rest =>
    rw [List.flatMap_cons, Expr.queriesOfList, Harmless.append_iff] at h
    exact List.forall_mem_cons.mpr ⟨e.shows h.1, Expr.showsOfList rest h.2⟩

/-- **Scanning a query finds what it is made of.** -/
theorem Query.shows (q : Query) (h : ∀ t ∈ q.all, t.Tame) : q.fragments.Shows q.payload := by
  obtain ⟨first, rest, order, limit, offset, lock⟩ := q
  rw [Query.all, List.cons_append, List.cons_append, List.forall_mem_cons, List.forall_mem_append,
    List.forall_mem_append] at h
  obtain ⟨hq, ⟨hfirst, hrest⟩, horder⟩ := h
  simp only [Query.Tame, Query.verbatim, Query.selects, List.flatMap_cons, List.flatMap_map,
    List.forall_mem_append] at hq
  obtain ⟨⟨⟨hfirst', hrest'⟩, horder'⟩, hlock⟩ := hq
  have hcap : Inert (Query.cap limit offset).toList := Query.inert_cap limit offset
  have hsuffix : Inert (Lock.suffix lock).toList := Lock.inert_suffix hlock
  have hselect := first.shows _ hcap ⟨hfirst', hfirst⟩
  have hoperands := Operand.continuesOfList rest ⟨hrest', hrest⟩
  have hkeys := SortKey.showsOfList order ⟨horder', horder⟩
  rw [Query.fragments, Query.payload, SortKey.payloadOfList_eq_flatMap,
    SortKey.fragmentsOfList_eq_map]
  have hclause : Fragments.Continues (Fragments.clause " ORDER BY " (order.map _)) _ :=
    .clause (by decide) hkeys
  exact ((hselect.append hoperands).append hclause).followedBy hsuffix

theorem Select.shows (s : Select) (cap : String) (hcap : Inert cap.toList)
    (h : Harmless s.verbatim s.queries) : (s.fragments cap).Shows s.payload := by
  obtain ⟨quantifier, projections, source, joins, wheres, groups, havings⟩ := s
  simp only [Select.verbatim, Select.queries, Harmless.append_iff] at h
  obtain ⟨⟨⟨⟨⟨hprojections, hsource⟩, hjoins⟩, hwheres⟩, hgroups⟩, hhavings⟩ := h
  have hhead : Inert ("SELECT" ++ Quantifier.clause quantifier ++ cap ++ " ").toList := by
    simp only [String.toList_append]
    exact (((show Inert "SELECT".toList by decide).append
      (Quantifier.inert_clause quantifier)).append hcap).append (by decide)
  have hcolumns := Fragments.Shows.columns (Expr.showsOfList projections hprojections)
  have hfrom := Source.continuesFrom source hsource
  have hjoined := Join.continuesOfList joins hjoins
  have hwhere : Fragments.Continues
      (Fragments.conjunctionClause " WHERE " wheres (Expr.fragmentsOfList wheres)) _ :=
    .conjunctionClause (by decide) (Expr.showsOfList wheres hwheres)
  have hgroup : Fragments.Continues
      (Fragments.clause " GROUP BY " (groups.map Expr.fragments)) _ :=
    .clause (by decide) (Expr.showsOfList groups hgroups)
  have hhaving : Fragments.Continues
      (Fragments.conjunctionClause " HAVING " havings (Expr.fragmentsOfList havings)) _ :=
    .conjunctionClause (by decide) (Expr.showsOfList havings hhavings)
  rw [Select.fragments, Select.payload]
  simp only [Expr.payloadOfList_eq_flatMap, List.cons_append]
  rw [Expr.fragmentsOfList_eq_map groups]
  exact .inert hhead (((((hcolumns.append hfrom).append hjoined).append hwhere).append
    hgroup).append hhaving)

theorem Operand.continuesOfList (os : List Operand)
    (h : Harmless (os.flatMap (·.select.verbatim)) (Operand.queriesOfList os)) :
    (Operand.fragmentsOfList os).Continues (Operand.payloadOfList os) := by
  cases os with
  | nil => exact .nil
  | cons o rest =>
    obtain ⟨op, select⟩ := o
    rw [List.flatMap_cons, Operand.queriesOfList, Harmless.append_iff] at h
    have hselect := select.shows "" (by decide) h.1
    have hrest := Operand.continuesOfList rest h.2
    have hop : Separator (" " ++ op.symbol ++ " ") := by cases op <;> decide
    rw [Operand.fragmentsOfList, Operand.payloadOfList]
    exact .separator hop (hselect.append hrest)

theorem SortKey.showsOfList (ks : List SortKey)
    (h : Harmless (ks.flatMap (·.expr.verbatim)) (SortKey.queriesOfList ks)) :
    ∀ k ∈ ks, Fragments.Shows
      (k.expr.fragments ++ [.text (SortKey.suffix k.direction k.nulls)]) k.expr.payload := by
  cases ks with
  | nil => exact nofun
  | cons k rest =>
    obtain ⟨expr, direction, nulls⟩ := k
    rw [List.flatMap_cons, SortKey.queriesOfList, Harmless.append_iff] at h
    exact List.forall_mem_cons.mpr
      ⟨(expr.shows h.1).followedBy (SortKey.inert_suffix direction nulls),
        SortKey.showsOfList rest h.2⟩

theorem Source.shows (s : Source) (h : Harmless s.verbatim s.queries) :
    s.fragments.Shows s.payload := by
  cases s with
  | table name label =>
    cases label with
    | none => exact .quoted (.path name)
    | some label =>
      have hblank : Quotes " " [] := .inert (by decide)
      have hshows :=
        Fragments.Shows.quoted (((Quotes.path name).append hblank).append (.name label))
      rwa [List.append_nil] at hshows
  | subquery query label =>
    rw [Source.fragments, Source.payload]
    exact (query.shows h.tame).parenthesized.append (.name (by decide) label)
  | raw sql => exact .inert (h.inert sql List.mem_cons_self) .nil

theorem Source.continuesFrom (s : Option Source)
    (h : Harmless (s.toList.flatMap Source.verbatim) (Source.queriesFrom s)) :
    (Source.fragmentsFrom s).Continues (Source.payloadFrom s) := by
  cases s with
  | none => exact .nil
  | some source =>
    rw [Option.toList_some, List.flatMap_cons, List.flatMap_nil, List.append_nil,
      Source.queriesFrom] at h
    exact .separator (by decide) (source.shows h)

theorem Join.continuesOfList (js : List Join)
    (h : Harmless (js.flatMap Join.verbatim) (Join.queriesOfList js)) :
    (Join.fragmentsOfList js).Continues (Join.payloadOfList js) := by
  cases js with
  | nil => exact .nil
  | cons j rest =>
    obtain ⟨kind, source, on⟩ := j
    rw [List.flatMap_cons, Join.verbatim, Join.queriesOfList, Harmless.append_iff,
      Harmless.append_iff] at h
    obtain ⟨⟨hsource, hon⟩, hrest⟩ := h
    have hcondition := Expr.continuesOn on hon
    have hjoined := Join.continuesOfList rest hrest
    have hkind : Separator (" " ++ kind.symbol ++ " ") := by cases kind <;> decide
    rw [Join.fragmentsOfList, Join.payloadOfList]
    exact .separator hkind (((source.shows hsource).append hcondition).append hjoined)

theorem Expr.continuesOn (on : Option Expr)
    (h : Harmless (on.toList.flatMap Expr.verbatim) (Expr.queriesOn on)) :
    (Expr.fragmentsOn on).Continues (Expr.payloadOn on) := by
  cases on with
  | none => exact .nil
  | some e =>
    rw [Option.toList_some, List.flatMap_cons, List.flatMap_nil, List.append_nil,
      Expr.queriesOn] at h
    exact .separator (by decide) (e.shows h)

end

namespace Query

/-- **Nothing breaks out of its quotes.** The text of a query is scanned to its end, outside quotes;
the strings, names and places found in it are those that the query is made of, in this order, and
there are as many places as parameters. -/
theorem scan_toSql (q : Query) (h : ∀ t ∈ q.all, t.Tame) :
    ∃ tokens, scan q.toSql = some tokens ∧ tokens.filter Token.isPayload = q.payload ∧
      tokens.count placeToken = q.render.parameters.length := by
  have hshows := q.normalize.shows (tame_all_normalize h)
  rw [payload_normalize] at hshows
  obtain ⟨tokens, hscans, hpayload⟩ := hshows.scans
  have hplaces : tokens.count placeToken = q.payload.count placeToken := by
    rw [← hpayload]
    exact (List.count_filter rfl).symm
  refine ⟨tokens, ?_, hpayload, ?_⟩
  · rw [toSql_eq_fragments]
    exact hscans.scan
  · rw [render_eq_fragments, hplaces]
    exact hshows.places.symm

/-- A query whose names and texts look like the end of a quote, and one in it that is capped. -/
def awkward : Query :=
  { Query.ofSelect { Select.empty with
      projections := [.named (.call "upper" [.column (some "o.\"x") "na'me\\"] false) "we\"ird"]
      source := some (.subquery { Query.ofSelect { Select.empty with
        source := some (.table "dba.it's" none)
        wheres := [.binary (.column none "a?") .eq (.literal (.text "'; -- \\"))] }
        with limit := some 0 } "t")
      wheres := [
        .inList (.column none "b") [.literal (.text "?''"), .bind "p0" (.text "x'")] true] }
    with offset := some 2 }

/-- Its names lose quotes and backslashes, its texts lose nothing. -/
theorem scan_toSql_awkward :
    (∀ t ∈ awkward.all, t.Tame) ∧
    ∃ tokens, scan awkward.toSql = some tokens ∧
      tokens.filter Token.isPayload =
        [.name "o".toList, .name "x".toList, .name "na'me".toList, .name "weird".toList,
          .name "dba".toList, .name "it's".toList, .name "a?".toList, .string "'; -- \\".toList,
          .name "t".toList, .name "b".toList, .string "?''".toList, placeToken] ∧
      tokens.count placeToken = awkward.render.parameters.length := by
  have htame : ∀ t ∈ awkward.all, t.Tame := by decide
  obtain ⟨tokens, hscan, hpayload, hplaces⟩ := scan_toSql awkward htame
  exact ⟨htame, tokens, hscan, hpayload.trans (by decide +kernel), hplaces⟩

end Query

end Anywhere
