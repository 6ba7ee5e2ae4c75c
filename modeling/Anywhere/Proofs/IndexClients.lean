import Anywhere.Proofs.AnsweringClients
import Anywhere.Proofs.ColumnReferences
import Anywhere.Proofs.IndexFlags
import Anywhere.Proofs.RoundTrip
import Mathlib.Data.List.Nodup
import Mathlib.Data.List.Sort

/-!
# Clients that know the indexes

An `IndexCatalog` is what a server knows about indexes: a table has no two of one name, but two
tables may have one each. There are two questions about indexes, which of them a table has and which
members those of a name have. The second one does not speak of a table, so its answer has the
members of all indexes of the name, in the order of their numbers, and
`IndexCatalog.lists_eq_members_iff` says when these are the members of one index and no others.

An `IndexClient` is any client that answers both questions. In which order it lists what has no
order, and how it represents names, is left open. `IndexServer.client` is one of them.
-/

namespace Anywhere

open Anywhere.Action Schema

variable {σ κ η : Type}

namespace Schema

/-! ## What is known about indexes -/

/-- An index of a table, with its members in order. -/
structure TableIndex where
  table : String
  name : String
  members : List String
deriving DecidableEq, Repr

/-- The indexes that there are. No two indexes of one table have one name. -/
structure IndexCatalog where
  indexes : List TableIndex
  nodup : (indexes.map fun index => (index.table, index.name)).Nodup := by decide

namespace IndexCatalog

/-- The names of the indexes of a table. -/
def namesIn (catalog : IndexCatalog) (table : String) : List String :=
  (catalog.indexes.filter (·.table = table)).map (·.name)

/-- The members of all indexes of a name, each with its number in its index. -/
def membersOf (catalog : IndexCatalog) (name : String) : List (String × Nat) :=
  (catalog.indexes.filter (·.name = name)).flatMap (·.members.zipIdx)

/-- The texts are the members of all indexes of the name in the order of their numbers, where
members of one number are in any order. -/
def Lists (catalog : IndexCatalog) (name : String) (texts : List String) : Prop :=
  ∃ listed : List (String × Nat), listed.Perm (catalog.membersOf name) ∧
    listed.Pairwise (fun a b => a.2 ≤ b.2) ∧ texts = listed.map Prod.fst

/-- No other table has an index of that name with members. -/
def Alone (catalog : IndexCatalog) (own : TableIndex) : Prop :=
  ∀ other ∈ catalog.indexes, other.table ≠ own.table → other.name = own.name → other.members = []

theorem filter_eq_singleton {α β : Type} [DecidableEq β] {f : α → β} {items : List α} {a : α}
    (hnodup : (items.map f).Nodup) (ha : a ∈ items) : items.filter (f · = f a) = [a] := by
  have hmap : (items.filter (f · = f a)).map f = [f a] := by
    have hcount := List.count_eq_one_of_mem hnodup (List.mem_map_of_mem ha)
    rw [← List.replicate_one, ← hcount, ← List.filter_eq, List.filter_map]
    rfl
  obtain ⟨b, hb, -⟩ := List.map_eq_singleton_iff.mp hmap
  have hmem : a ∈ items.filter (f · = f a) := List.mem_filter.mpr ⟨ha, decide_eq_true rfl⟩
  rw [hb, List.mem_singleton] at hmem
  rw [hb, hmem]

variable {catalog : IndexCatalog} {own : TableIndex}

/-- The members of the indexes of that name in other tables, each with its number. -/
def membersElsewhere (catalog : IndexCatalog) (own : TableIndex) : List (String × Nat) :=
  ((catalog.indexes.filter (·.name = own.name)).filter (·.table ≠ own.table)).flatMap
    (·.members.zipIdx)

theorem membersOf_perm (h : own ∈ catalog.indexes) :
    (catalog.membersOf own.name).Perm (own.members.zipIdx ++ catalog.membersElsewhere own) := by
  have hown : (catalog.indexes.filter (·.name = own.name)).filter (·.table = own.table) =
      [own] := by
    rw [List.filter_filter, ← filter_eq_singleton catalog.nodup h]
    refine List.filter_congr fun index _ => ?_
    rw [← Bool.decide_and, decide_eq_decide, Prod.mk.injEq]
  have hsplit := List.filter_append_perm (·.table = own.table)
    (catalog.indexes.filter (·.name = own.name))
  have hflat := (hsplit.flatMap_right (·.members.zipIdx)).symm
  rw [hown, List.flatMap_append, List.flatMap_singleton] at hflat
  simpa only [membersOf, membersElsewhere, ne_eq, decide_not] using hflat

theorem membersElsewhere_eq_nil_iff : catalog.membersElsewhere own = [] ↔ catalog.Alone own := by
  simp [membersElsewhere, List.flatMap_eq_nil_iff, Alone]

/-- Texts with the numbers of their places can be listed in one order only. -/
theorem eq_zipIdx_of_perm {members : List String} {listed : List (String × Nat)}
    (hperm : listed.Perm members.zipIdx) (hordered : listed.Pairwise fun a b => a.2 ≤ b.2) :
    listed = members.zipIdx := by
  have hnumbers : members.zipIdx.Pairwise fun a b => a.2 ≤ b.2 := by
    rw [← List.pairwise_map, List.zipIdx_map_snd]
    exact List.pairwise_le_range'
  refine hperm.eq_of_pairwise (fun a b ha hb hab hba => ?_) hordered hnumbers
  -- in one place there is one text
  have ha := List.mem_zipIdx_iff_getElem?.mp (hperm.mem_iff.mp ha)
  have hb := List.mem_zipIdx_iff_getElem?.mp hb
  have hnumber := Nat.le_antisymm hab hba
  rw [hnumber, hb, Option.some_inj] at ha
  exact Prod.ext ha.symm hnumber

/-- The members that are listed are those of the index exactly if it is alone with its name. -/
theorem lists_eq_members_iff {texts : List String} (h : own ∈ catalog.indexes)
    (htexts : catalog.Lists own.name texts) : texts = own.members ↔ catalog.Alone own := by
  obtain ⟨listed, hperm, hordered, rfl⟩ := htexts
  have hall := hperm.trans (membersOf_perm h)
  rw [← membersElsewhere_eq_nil_iff]
  constructor
  · intro heq
    have hlength := hall.length_eq
    rw [List.length_append, List.length_zipIdx, ← heq, List.length_map] at hlength
    exact List.eq_nil_of_length_eq_zero (by omega)
  · intro hnone
    rw [hnone, List.append_nil] at hall
    rw [eq_zipIdx_of_perm hall hordered, List.zipIdx_map_fst]

end IndexCatalog

/-! ## Questions -/

/-- What is asked about indexes. -/
inductive IndexQuestion where
  | indexesIn (table : String)
  | membersOf (name : String)
deriving DecidableEq, Repr

namespace IndexQuestion

open Sql

/-- The text of a question. -/
def sql : IndexQuestion → String
  | indexesIn table => indexesQuery table
  | membersOf name => indexColumnsQuery name

/-- The answer has what is asked for: names in a column of characters, and numbers next to those of
the indexes of a table. -/
def Fits (catalog : IndexCatalog) (encoding : Text.Encoding) : IndexQuestion → Answer → Prop
  | indexesIn table, answer => ∃ type flagType names, type.isCharacter = true ∧
      flagType.isInteger = true ∧
      answer.columns = [⟨"index_name", type⟩, ⟨"unique", flagType⟩] ∧
      names.Perm (catalog.namesIn table) ∧
      List.Forall₂ (fun cells name => ∃ bytes flag, cells = [.text bytes, .int flag] ∧
        encoding.decode bytes = name) answer.rows names
  | membersOf name, answer => ∃ type members, type.isCharacter = true ∧
      answer.columns = [⟨"column_name", type⟩] ∧ catalog.Lists name members ∧
      List.Forall₂ (fun cells member => ∃ bytes, cells = [.text bytes] ∧
        encoding.decode bytes = member) answer.rows members

/-! ### Reading a question -/

/-- What a question is about. -/
def subject : IndexQuestion → String
  | indexesIn table => table
  | membersOf name => name

/-- The text in front of what the question is about. -/
def front : IndexQuestion → String
  | indexesIn _ => query [
    "SELECT DISTINCT index_name, \"unique\" FROM SYS.SYSTABLE",
    "INNER JOIN SYS.SYSIDXCOL ON SYS.SYSTABLE.table_id = SYS.SYSIDXCOL.table_id",
    "INNER JOIN SYS.SYSIDX ON SYS.SYSTABLE.table_id = SYS.SYSIDX.table_id",
    "AND SYS.SYSIDXCOL.index_id = SYS.SYSIDX.index_id",
    "WHERE table_name = "]
  | membersOf _ => query [
    "SELECT column_name FROM SYS.SYSIDX",
    "INNER JOIN SYS.SYSIDXCOL ON SYS.SYSIDXCOL.table_id = SYS.SYSIDX.table_id",
    "AND SYS.SYSIDXCOL.index_id = SYS.SYSIDX.index_id",
    "INNER JOIN SYS.SYSCOLUMN ON SYS.SYSCOLUMN.table_id = SYS.SYSIDXCOL.table_id",
    "AND SYS.SYSCOLUMN.column_id = SYS.SYSIDXCOL.column_id",
    "WHERE index_name = "]

/-- The text behind what the question is about. -/
def back : IndexQuestion → String
  | indexesIn _ => " " ++ "AND index_category > 2"
  | membersOf _ => " " ++ "ORDER BY SYS.SYSIDXCOL.sequence"

theorem sql_eq (question : IndexQuestion) :
    question.sql = question.front ++ Literal.ofText question.subject ++ question.back := by
  cases question <;>
    simp only [sql, front, back, subject, indexesQuery, indexColumnsQuery, query,
      String.intercalate_cons_cons, String.intercalate_singleton, String.append_assoc]

theorem unquoted_query {clauses : List String} (h : ∀ clause ∈ clauses, Unquoted clause.toList) :
    Unquoted (query clauses).toList := by
  induction clauses with
  | nil => exact fun c hc => nomatch hc
  | cons clause rest ih =>
    obtain ⟨hclause, hrest⟩ := List.forall_mem_cons.mp h
    cases rest with
    | nil => rwa [query, String.intercalate_singleton]
    | cons next rest =>
      intro c hc
      rw [query, String.intercalate_cons_cons, String.toList_append, String.toList_append] at hc
      rcases List.mem_append.mp hc with hc | hc
      · rcases List.mem_append.mp hc with hc | hc
        · exact hclause c hc
        · have hblank : Unquoted " ".toList := by decide
          exact hblank c hc
      · exact ih hrest c hc

/-- A text between a front and a back without quotes is read as a string. -/
theorem scan_framed {front back : String} {tokens : List Token}
    (hfront : Closes front.toList tokens) (hback : Unquoted back.toList) (text : String) :
    scan (front ++ Literal.ofText text ++ back) =
      some (tokens ++ [.string text.toList] ++ Command.plain back) := by
  have hhead : back.toList.head? ≠ some '\'' := fun h =>
    (hback _ (List.mem_of_mem_head? h)).1 rfl
  have hall := (hfront.appendScans (scans_ofChars text.toList)).append
    (Command.closes_plain back hback).scans hhead
  refine Scans.scan ?_
  rw [String.toList_append, String.toList_append]
  exact hall

theorem unquoted_back (question : IndexQuestion) : Unquoted question.back.toList := by
  have hindexes : Unquoted (back (indexesIn "")).toList := by decide +kernel
  have hmembers : Unquoted (back (membersOf "")).toList := by decide +kernel
  cases question with
  | indexesIn table => exact hindexes
  | membersOf name => exact hmembers

theorem closes_firstClause :
    Closes "SELECT DISTINCT index_name, \"unique\" FROM SYS.SYSTABLE".toList
      (Command.plain "SELECT DISTINCT index_name, " ++ [.name "unique".toList] ++
        Command.plain " FROM SYS.SYSTABLE") := by
  have hparts : "SELECT DISTINCT index_name, \"unique\" FROM SYS.SYSTABLE" =
      "SELECT DISTINCT index_name, " ++ Name.quoted "unique" ++ " FROM SYS.SYSTABLE" := by
    decide +kernel
  have hselect := Command.closes_plain "SELECT DISTINCT index_name, " (by decide)
  have hname : Name.Clean "unique" := by decide
  have htable := Command.closes_plain " FROM SYS.SYSTABLE" (by decide)
  rw [hparts, String.toList_append, String.toList_append]
  exact (hselect.append hname.closes_quoted).append htable

/-- In front of what a question is about there is no string, and there is a name only if it is
about a table. -/
theorem closes_front (question : IndexQuestion) :
    ∃ tokens, Closes question.front.toList tokens ∧ tokens.filterMap Token.string? = [] ∧
      tokens.filterMap Token.name? = match question with
        | indexesIn _ => ["unique".toList]
        | membersOf _ => [] := by
  cases question with
  | indexesIn table =>
    have hblank := Command.closes_plain " " (by decide)
    have hrest := Command.closes_plain (query [
      "INNER JOIN SYS.SYSIDXCOL ON SYS.SYSTABLE.table_id = SYS.SYSIDXCOL.table_id",
      "INNER JOIN SYS.SYSIDX ON SYS.SYSTABLE.table_id = SYS.SYSIDX.table_id",
      "AND SYS.SYSIDXCOL.index_id = SYS.SYSIDX.index_id",
      "WHERE table_name = "]) (unquoted_query (by decide +kernel))
    have hall := (closes_firstClause.append hblank).append hrest
    rw [← String.toList_append, ← String.toList_append] at hall
    refine ⟨_, hall, ?_, ?_⟩
    · simp only [List.filterMap_append, filterMap_string?_plain]
      rfl
    · simp only [List.filterMap_append, filterMap_name?_plain]
      rfl
  | membersOf name =>
    exact ⟨_, Command.closes_plain _ (unquoted_query (by decide +kernel)),
      filterMap_string?_plain _, filterMap_name?_plain _⟩

/-- The question in a text: the only string in it says what it is about, and only the question for
the indexes of a table has a name between quotes. -/
def ofText? (text : String) : Option IndexQuestion := do
  let tokens ← scan text
  match tokens.filterMap Token.string?, tokens.filterMap Token.name? with
  | [table], [_] => some (indexesIn (String.ofList table))
  | [name], [] => some (membersOf (String.ofList name))
  | _, _ => none

theorem ofText?_sql (question : IndexQuestion) : ofText? question.sql = some question := by
  obtain ⟨tokens, hfront, hstrings, hnames⟩ := closes_front question
  rw [ofText?, sql_eq, scan_framed hfront (unquoted_back question), Option.bind_eq_bind,
    Option.bind_some]
  have htexts : (tokens ++ [Token.string question.subject.toList] ++
      Command.plain question.back).filterMap Token.string? = [question.subject.toList] := by
    simp only [List.filterMap_append, filterMap_string?_plain, hstrings]
    rfl
  have hquoted : (tokens ++ [Token.string question.subject.toList] ++
      Command.plain question.back).filterMap Token.name? = tokens.filterMap Token.name? := by
    simp only [List.filterMap_append, filterMap_name?_plain, List.append_nil]
    exact List.append_nil _
  rw [htexts, hquoted, hnames]
  cases question with
  | indexesIn table => exact congrArg (some <| indexesIn ·) String.ofList_toList
  | membersOf name => exact congrArg (some <| membersOf ·) String.ofList_toList

end IndexQuestion

/-! ## Clients -/

/-- A client that answers the questions about indexes from a catalog. -/
abbrev IndexClient (client : Client σ κ η) (connection : κ) (encoding : Text.Encoding)
    (catalog : IndexCatalog) :=
  AnsweringClient client connection (fun text => ∃ question : IndexQuestion, text = question.sql)
    fun text answer => ∀ question : IndexQuestion, text = question.sql →
      question.Fits catalog encoding answer

namespace IndexServer

/-- The members of all indexes of a name, put in order. -/
def listed (catalog : IndexCatalog) (name : String) : List (String × Nat) :=
  (catalog.membersOf name).mergeSort (·.2 ≤ ·.2)

/-- A text as it is sent. -/
def cell (text : String) : WireValue := .text (Text.Encoding.utf8.encode text)

/-- The answer to a question. -/
def answer (catalog : IndexCatalog) : IndexQuestion → Answer
  | .indexesIn table => ⟨[⟨"index_name", .varchar⟩, ⟨"unique", .int⟩],
      (catalog.namesIn table).map fun name => [cell name, .int 1]⟩
  | .membersOf name => ⟨[⟨"column_name", .varchar⟩],
      (listed catalog name).map fun member => [cell member.1]⟩

theorem fits_answer (catalog : IndexCatalog) (question : IndexQuestion) :
    question.Fits catalog .utf8 (answer catalog question) := by
  have hdecode : ∀ text, Text.Encoding.utf8.decode (Text.Encoding.utf8.encode text) = text :=
    fun text => Text.Encoding.decode_encode trivial
  cases question with
  | indexesIn table =>
    refine ⟨.varchar, .int, catalog.namesIn table, by decide, by decide, rfl, .refl _, ?_⟩
    rw [answer, List.forall₂_map_left_iff, List.forall₂_same]
    exact fun name _ => ⟨_, 1, rfl, hdecode name⟩
  | membersOf name =>
    have hordered : (listed catalog name).Pairwise fun a b => a.2 ≤ b.2 := by
      have htrans : ∀ a b c : String × Nat, decide (a.2 ≤ b.2) = true →
          decide (b.2 ≤ c.2) = true → decide (a.2 ≤ c.2) = true := by
        simpa using fun _ _ _ => Nat.le_trans
      have htotal : ∀ a b : String × Nat, (decide (a.2 ≤ b.2) || decide (b.2 ≤ a.2)) = true := by
        simpa using fun _ _ => Nat.le_total _ _
      exact (List.pairwise_mergeSort htrans htotal (catalog.membersOf name)).imp of_decide_eq_true
    refine ⟨.varchar, (listed catalog name).map Prod.fst, by decide, rfl,
      ⟨_, List.mergeSort_perm _ _, hordered, rfl⟩, ?_⟩
    rw [answer, List.forall₂_map_left_iff, List.forall₂_map_right_iff, List.forall₂_same]
    exact fun member _ => ⟨_, rfl, hdecode member.1⟩

/-- The client of a server that has indexes and nothing else. -/
def client (catalog : IndexCatalog) : Client AnswerServer.State Unit Unit :=
  AnswerServer.client fun text => (IndexQuestion.ofText? text).map (answer catalog)

/-- It answers from the catalog. -/
def indexClient (catalog : IndexCatalog) : IndexClient (client catalog) () .utf8 catalog := by
  refine (AnswerServer.answeringClient _).weaken ?_ ?_
  · rintro _ ⟨question, rfl⟩
    rw [IndexQuestion.ofText?_sql]
    rfl
  · rintro _ answer hanswer question rfl
    rw [IndexQuestion.ofText?_sql] at hanswer
    cases hanswer
    exact fits_answer catalog question

end IndexServer

/-! ## What is read in the answers -/

namespace IndexQuestion

variable {catalog : IndexCatalog} {encoding : Text.Encoding} {answer : Answer}

theorem exists_toValue_int (encoding : Text.Encoding) {type : NativeType}
    (h : type.isInteger = true) (n : Int64) :
    ∃ value, (WireValue.int n).toValue type encoding = .ok value := by
  rw [WireValue.toValue, if_neg (by exact WireValue.noConfusion),
    NativeType.family_of_isInteger h]
  split <;> exact ⟨_, rfl⟩

/-- What is read are the names of the indexes. -/
theorem Fits.reads_names {table : String} (h : (indexesIn table).Fits catalog encoding answer) :
    ∃ rows, List.Forall₂ (Decodes encoding answer.columns) answer.rows rows ∧
      ((indexRows ⟨answer.columns.map ColumnInfo.name, rows⟩).map Prod.fst).Perm
        (catalog.namesIn table) := by
  obtain ⟨type, flagType, names, htype, hflag, hcolumns, hnames, hrows⟩ := h
  rw [hcolumns]
  suffices ∃ rows, List.Forall₂ (Decodes encoding [⟨"index_name", type⟩, ⟨"unique", flagType⟩])
      answer.rows rows ∧
      (rows.filterMap (indexRow? ["index_name", "unique"])).map Prod.fst = names by
    obtain ⟨rows, hdecodes, hread⟩ := this
    refine ⟨rows, hdecodes, ?_⟩
    rw [indexRows_eq]
    exact hread ▸ hnames
  clear hnames
  generalize answer.rows = cells at hrows ⊢
  induction hrows with
  | nil => exact ⟨[], .nil, rfl⟩
  | cons hrow _ ih =>
    obtain ⟨bytes, flag, rfl, rfl⟩ := hrow
    obtain ⟨value, hvalue⟩ := exists_toValue_int encoding hflag flag
    obtain ⟨rows, hdecodes, hread⟩ := ih
    refine ⟨[.text (encoding.decode bytes), value] :: rows, .cons
      (.cons (WireValue.toValue_character htype) (.cons hvalue (.nil encoding))) hdecodes, ?_⟩
    rw [← hread]
    rfl

/-- What is read are the members. -/
theorem Fits.reads_members {name : String} (h : (membersOf name).Fits catalog encoding answer) :
    ∃ rows, List.Forall₂ (Decodes encoding answer.columns) answer.rows rows ∧
      catalog.Lists name
        (textsOf ⟨answer.columns.map ColumnInfo.name, rows⟩ "column_name") := by
  obtain ⟨type, members, htype, hcolumns, hmembers, hrows⟩ := h
  rw [hcolumns]
  suffices ∃ rows, List.Forall₂ (Decodes encoding [⟨"column_name", type⟩]) answer.rows rows ∧
      textsOf ⟨["column_name"], rows⟩ "column_name" = members by
    obtain ⟨rows, hdecodes, hread⟩ := this
    exact ⟨rows, hdecodes, hread ▸ hmembers⟩
  clear hmembers
  generalize answer.rows = cells at hrows ⊢
  induction hrows with
  | nil => exact ⟨[], .nil, rfl⟩
  | cons hrow _ ih =>
    obtain ⟨bytes, rfl, rfl⟩ := hrow
    obtain ⟨rows, hdecodes, hread⟩ := ih
    refine ⟨[.text (encoding.decode bytes)] :: rows, .cons
      (.cons (WireValue.toValue_character htype) (.nil encoding)) hdecodes, ?_⟩
    rw [← hread]
    rfl

end IndexQuestion

end Schema

end Anywhere
