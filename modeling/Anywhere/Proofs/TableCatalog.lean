import Anywhere.Proofs.Scanning
import Anywhere.Session.Schema
import Mathlib.Data.List.Nodup

/-!
# What a table has, and the statements about it

What a server does with a statement about a table depends on what the table has: its columns, and
its indexes with the columns that are members of them. A `Catalog` is just that, and a `Command` is
a statement that has to do with it.

A server does not see commands but SQL text, which it reads by strings, names and characters outside
of both. `Command.tokens` says what is read where a command is meant. The statements of a schema
change and the question for the indexes of a column are read as commands, whatever the texts in
them; a name has to be clean, as characters that are left out between quotes would make another name
of it.
-/

namespace Anywhere

open Schema

/-! ## Catalogs -/

namespace Schema

/-- An index with the columns that are its members. -/
structure Catalog.Index where
  name : String
  members : List String
deriving DecidableEq, Repr

/-- What a table has. No two of its indexes have one name. -/
@[ext] structure Catalog where
  columns : List String
  indexes : List Catalog.Index
  nodup : (indexes.map (·.name)).Nodup := by decide
deriving DecidableEq, Repr

namespace Catalog

/-- The names of the indexes of which the column is a member. -/
def indexesOf (catalog : Catalog) (column : String) : List String :=
  (catalog.indexes.filter (column ∈ ·.members)).map (·.name)

/-- The catalog with those indexes only that are wanted. -/
def filterIndexes (catalog : Catalog) (wanted : Index → Bool) : Catalog :=
  { catalog with
    indexes := catalog.indexes.filter wanted
    nodup := catalog.nodup.sublist (List.filter_sublist.map _) }

/-- The catalog without an index that must be there. -/
def dropIndex? (catalog : Catalog) (name : String) : Option Catalog :=
  if name ∈ catalog.indexes.map (·.name) then some (catalog.filterIndexes (·.name ≠ name)) else none

/-- The catalog without a column that must be there, and of which no index has need. -/
def dropColumn? (catalog : Catalog) (column : String) : Option Catalog :=
  if column ∈ catalog.columns ∧ catalog.indexesOf column = [] then
    some { catalog with columns := catalog.columns.filter (· ≠ column) }
  else none

/-- The catalog without columns and without the indexes of which one of them is a member. -/
def without (catalog : Catalog) (columns : List String) : Catalog :=
  { catalog.filterIndexes fun index => ∀ column ∈ columns, column ∉ index.members with
    columns := catalog.columns.filter (· ∉ columns) }

theorem mem_indexesOf {catalog : Catalog} {index : Index} (h : index ∈ catalog.indexes)
    (column : String) : index.name ∈ catalog.indexesOf column ↔ column ∈ index.members := by
  constructor
  · intro hname
    obtain ⟨other, hother, heq⟩ := List.mem_map.mp hname
    obtain ⟨hmem, hcolumn⟩ := List.mem_filter.mp hother
    -- an index of the same name is the index itself
    rw [← List.inj_on_of_nodup_map catalog.nodup hmem h heq]
    exact of_decide_eq_true hcolumn
  · intro hcolumn
    exact List.mem_map.mpr ⟨index, List.mem_filter.mpr ⟨h, decide_eq_true hcolumn⟩, rfl⟩

theorem nodup_indexesOf (catalog : Catalog) (column : String) :
    (catalog.indexesOf column).Nodup :=
  catalog.nodup.sublist (List.filter_sublist.map _)

theorem mem_names_of_mem_indexesOf {catalog : Catalog} {column name : String}
    (h : name ∈ catalog.indexesOf column) : name ∈ catalog.indexes.map (·.name) :=
  (List.filter_sublist.map _).subset h

theorem filterIndexes_filterIndexes (catalog : Catalog) (wanted wanted' : Index → Bool) :
    (catalog.filterIndexes wanted).filterIndexes wanted' =
      catalog.filterIndexes fun index => wanted index && wanted' index := by
  ext1
  · rfl
  · exact List.filter_filter.trans (List.filter_congr fun _ _ => Bool.and_comm ..)

theorem filterIndexes_congr {catalog : Catalog} {wanted wanted' : Index → Bool}
    (h : ∀ index ∈ catalog.indexes, wanted index = wanted' index) :
    catalog.filterIndexes wanted = catalog.filterIndexes wanted' := by
  ext1
  · rfl
  · exact List.filter_congr h

theorem without_without (catalog : Catalog) (column : String) (columns : List String) :
    (catalog.without [column]).without columns = catalog.without (column :: columns) := by
  ext1
  · simp [without, filterIndexes, List.filter_filter, Bool.and_comm]
  · simp [without, filterIndexes, List.filter_filter, Bool.and_comm]

/-- When the indexes of a column are gone, so can the column. -/
theorem dropColumn?_filterIndexes {catalog : Catalog} {column : String}
    (h : column ∈ catalog.columns) :
    (catalog.filterIndexes (·.name ∉ catalog.indexesOf column)).dropColumn? column =
      some (catalog.without [column]) := by
  have hwanted : catalog.filterIndexes (·.name ∉ catalog.indexesOf column) =
      catalog.filterIndexes (column ∉ ·.members) :=
    filterIndexes_congr fun index hindex => by simp [mem_indexesOf hindex]
  have hnone : (catalog.filterIndexes (column ∉ ·.members)).indexesOf column = [] := by
    simp [indexesOf, filterIndexes]
  rw [hwanted, dropColumn?, if_pos ⟨h, hnone⟩]
  simp [without, filterIndexes]

end Catalog

/-! ## Commands -/

/-- A statement about a table that has to do with its catalog. -/
inductive Command where
  /-- Asks for the indexes of a column. -/
  | askIndexes (column : String)
  | dropIndex (name : String)
  | dropColumn (column : String)
deriving DecidableEq, Repr

namespace Command

open Sql

/-- The catalog behind a command; there is none if the command fails. -/
def run (catalog : Catalog) : Command → Option Catalog
  | askIndexes _ => some catalog
  | dropIndex name => catalog.dropIndex? name
  | dropColumn column => catalog.dropColumn? column

/-- The command takes something away. -/
def isDrop : Command → Bool
  | askIndexes _ => false
  | dropIndex _ => true
  | dropColumn _ => true

/-- Characters outside quotes. -/
def plain (text : String) : List Token := text.toList.map .char

/-- The command about a table as it is read: keywords, names and strings. -/
def tokens (table : String) : Command → List Token
  | askIndexes column =>
    plain "SELECT " ++ [.name "index_name".toList] ++
      plain " FROM SYS.SYSTAB join SYS.SYSTABCOL join SYS.SYSIDXCOL join SYS.SYSIDX WHERE " ++
      [.name "column_name".toList] ++ plain " = " ++ [.string column.toList] ++ plain " AND " ++
      [.name "table_name".toList] ++ plain " = " ++ [.string table.toList]
  | dropIndex name =>
    plain "DROP INDEX " ++ [.name table.toList, .char '.', .name name.toList]
  | dropColumn column =>
    plain "ALTER TABLE " ++ [.name table.toList] ++ plain " DROP " ++ [.name column.toList]

/-- The text of a token, unless it is a character outside of quotes. -/
def textOfToken : Token → Option String
  | .string content => some (String.ofList content)
  | .name content => some (String.ofList content)
  | .char _ => none

/-- The command that is meant by a text, which is about one of its quoted texts. -/
def ofText? (table sql : String) : Option Command := do
  let tokens ← scan sql
  let quoted := tokens.filterMap textOfToken
  (quoted.flatMap fun text => [askIndexes text, dropIndex text, dropColumn text]).find?
    (·.tokens table = tokens)

theorem filterMap_plain (text : String) : (plain text).filterMap textOfToken = [] := by
  simp [plain, textOfToken, List.filterMap_map, Function.comp_def]

/-- No two commands read alike. -/
theorem tokens_inj {table : String} {command command' : Command} :
    command.tokens table = command'.tokens table ↔ command = command' := by
  constructor
  · intro h
    cases command <;> cases command' <;> simp_all [tokens, plain, String.toList_inj]
  · exact congrArg _

theorem ofText?_of_scan {table sql : String} {command : Command}
    (h : scan sql = some (command.tokens table)) : ofText? table sql = some command := by
  have hmem : command ∈ ((command.tokens table).filterMap textOfToken).flatMap fun text =>
      [askIndexes text, dropIndex text, dropColumn text] := by
    cases command <;> simp [tokens, filterMap_plain, textOfToken]
  rw [ofText?, h, Option.bind_eq_bind, Option.bind_some]
  dsimp only
  -- the command is found, and nothing else can be
  generalize (((command.tokens table).filterMap textOfToken).flatMap fun text =>
    [askIndexes text, dropIndex text, dropColumn text]) = candidates at hmem ⊢
  cases hfind : candidates.find? (·.tokens table = command.tokens table) with
  | none => simpa using List.find?_eq_none.mp hfind command hmem
  | some found =>
    have htokens := List.find?_some hfind
    rw [decide_eq_true_eq, tokens_inj] at htokens
    rw [htokens]

end Command

end Schema

/-! ## Names that stay as they are -/

/-- The name has no character that is left out between quotes, and no dot. -/
def Name.Clean (name : String) : Prop := ∀ c ∈ name.toList, c ≠ '.' ∧ c ≠ '\\' ∧ c ≠ '"'

instance (name : String) : Decidable (Name.Clean name) := List.decidableBAll _ name.toList

theorem Text.pieces_of_notMem {separator : Char} {text : List Char} (h : separator ∉ text) :
    pieces separator text = [text] := by
  induction text with
  | nil => rfl
  | cons c rest ih =>
    rw [List.mem_cons, not_or] at h
    rw [pieces, if_neg (Ne.symm h.1), ih h.2, growFirst]

namespace Name.Clean

variable {name : String} (h : Name.Clean name)
include h

theorem plain_eq : Name.plain name.toList = name.toList := by
  refine List.filter_eq_self.mpr fun c hc => ?_
  simp [Name.isSpecial, (h c hc).2]

theorem closes_quoted : Sql.Closes (Name.quoted name).toList [.name name.toList] := by
  have hclosed := Sql.closes_quotedChars name.toList
  rwa [h.plain_eq, ← String.toList_ofList (l := Name.quotedChars name.toList)] at hclosed

theorem closes_quotedPath : Sql.Closes (Name.quotedPath name).toList [.name name.toList] := by
  have hdot : '.' ∉ name.toList := fun hmem => (h '.' hmem).1 rfl
  have hpieces := Text.pieces_of_notMem hdot
  have htokens : Sql.pathTokens name = [.name name.toList] := by
    rw [Sql.pathTokens, hpieces, List.map_singleton, h.plain_eq]
    rfl
  have hclosed := Sql.closes_quotedPath name
  rwa [htokens] at hclosed

end Name.Clean

namespace Schema.Command

open Sql

theorem closes_plain (text : String) (h : Unquoted text.toList) :
    Closes text.toList (plain text) :=
  h.closes

theorem scan_dropIndex {table name : String} (htable : Name.Clean table) (hname : Name.Clean name) :
    scan (Statement.dropIndex table name).sql = some ((dropIndex name).tokens table) := by
  have hfront := closes_plain "DROP INDEX " (by decide)
  have hdot : Closes ".".toList [.char '.'] := Unquoted.closes (by decide)
  have hall := ((hfront.append htable.closes_quotedPath).append hdot).append hname.closes_quoted
  refine Scans.scan (Closes.scans ?_)
  change Closes ("DROP INDEX " ++ Name.quotedPath table ++ "." ++ Name.quoted name).toList _
  rw [tokens]
  simp only [String.toList_append, List.append_assoc, List.singleton_append] at hall ⊢
  exact hall

theorem scan_dropColumn {table column : String} (htable : Name.Clean table)
    (hcolumn : Name.Clean column) :
    scan (Statement.dropColumn table column).sql = some ((dropColumn column).tokens table) := by
  have hfront := closes_plain "ALTER TABLE " (by decide)
  have hdrop := closes_plain " DROP " (by decide)
  have hall := ((hfront.append htable.closes_quotedPath).append hdrop).append
    hcolumn.closes_quoted
  refine Scans.scan (Closes.scans ?_)
  change Closes ("ALTER TABLE " ++ Name.quotedPath table ++ " DROP " ++
    Name.quoted column).toList _
  rw [tokens]
  simp only [String.toList_append, List.append_assoc] at hall ⊢
  exact hall

/-- The question between its quotes. -/
theorem indexesOfColumn_eq (table column : String) :
    indexesOfColumn table column =
      "SELECT " ++ Name.quoted "index_name" ++
        " FROM SYS.SYSTAB join SYS.SYSTABCOL join SYS.SYSIDXCOL join SYS.SYSIDX WHERE " ++
        Name.quoted "column_name" ++ " = " ++ Literal.ofText column ++
        (" AND " ++ Name.quoted "table_name" ++ " = " ++ Literal.ofText table) := by
  have hfront : "SELECT \"index_name\"" ++ (" " ++
      ("FROM SYS.SYSTAB join SYS.SYSTABCOL join SYS.SYSIDXCOL join SYS.SYSIDX" ++
        (" " ++ "WHERE \"column_name\" = "))) =
      "SELECT " ++ Name.quoted "index_name" ++
        " FROM SYS.SYSTAB join SYS.SYSTABCOL join SYS.SYSIDXCOL join SYS.SYSIDX WHERE " ++
        Name.quoted "column_name" ++ " = " := by
    decide
  have hback : " " ++ "AND \"table_name\" = " = " AND " ++ Name.quoted "table_name" ++ " = " := by
    decide
  rw [← hfront, ← hback]
  simp only [indexesOfColumn, query, String.intercalate_cons_cons, String.intercalate_singleton,
    String.append_assoc]

/-- The texts in the question are strings, whatever they are. -/
theorem scan_indexesOfColumn (table column : String) :
    scan (indexesOfColumn table column) = some ((askIndexes column).tokens table) := by
  have hselect := closes_plain "SELECT " (by decide)
  have hfrom := closes_plain
    " FROM SYS.SYSTAB join SYS.SYSTABCOL join SYS.SYSIDXCOL join SYS.SYSIDX WHERE " (by decide)
  have heq := closes_plain " = " (by decide)
  have hand := closes_plain " AND " (by decide)
  have hindex : Name.Clean "index_name" := by decide
  have hcolumn : Name.Clean "column_name" := by decide
  have htable : Name.Clean "table_name" := by decide
  have hfront := (((hselect.append hindex.closes_quoted).append hfrom).append
    hcolumn.closes_quoted).append heq
  have hback := (hand.append htable.closes_quoted).append heq
  have hall := (hfront.appendScans (scans_ofChars column.toList)).append
    (hback.appendScans (scans_ofChars table.toList)) (by simp)
  refine Scans.scan ?_
  rw [indexesOfColumn_eq, tokens]
  simp only [String.toList_append, List.append_assoc, Literal.ofText] at hall ⊢
  exact hall

end Schema.Command

end Anywhere
