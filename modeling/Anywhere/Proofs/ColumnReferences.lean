import Anywhere.Client.Script
import Anywhere.Proofs.SentTexts
import Anywhere.Proofs.TableCatalog

/-!
# Which column is meant

To remove a column, a session asks for its indexes and later drops it. In the question the names
stand as strings, where every character is kept. In the statement they stand as names, where quotes
and backslashes are left out, and where a dot in the name of a table tells its owner from it. So the
two texts may be about two columns. `askedFor?` reads from the one, and `removedBy?` from the other,
which column that is, and `Session.removeColumns_asks_iff` says when they are the same.
-/

namespace Anywhere

open Anywhere.Action Anywhere.Operation Schema

variable {σ κ η α β : Type}

/-! ## References -/

namespace Sql.Token

/-- The content of a string. -/
def string? : Token → Option (List Char)
  | .string content => some content
  | _ => none

/-- The content of a name. -/
def name? : Token → Option (List Char)
  | .name content => some content
  | _ => none

end Sql.Token

namespace Schema

open Sql

/-- A column of a table, by their names. -/
structure ColumnRef where
  table : List Char
  column : List Char
deriving DecidableEq, Repr

/-- The column for which the catalog is asked: the strings in the text are its name and that of its
table. -/
def askedFor? (sql : String) : Option ColumnRef := do
  match (← scan sql).filterMap Token.string? with
  | [column, table] => some ⟨table, column⟩
  | _ => none

/-- The column that is taken from a table: its name is the last one in the text, behind that of the
table, in front of which its owner may stand. -/
def removedBy? (sql : String) : Option ColumnRef := do
  let names := (← scan sql).filterMap Token.name?
  some ⟨← names.dropLast.getLast?, ← names.getLast?⟩

theorem filterMap_string?_plain (text : String) :
    (Command.plain text).filterMap Token.string? = [] := by
  simp [Command.plain, Token.string?, List.filterMap_map, Function.comp_def]

theorem filterMap_name?_plain (text : String) :
    (Command.plain text).filterMap Token.name? = [] := by
  simp [Command.plain, Token.name?, List.filterMap_map, Function.comp_def]

/-- The question is about the names as they are. -/
theorem askedFor?_indexesOfColumn (table column : String) :
    askedFor? (indexesOfColumn table column) = some ⟨table.toList, column.toList⟩ := by
  have hstrings : ((Command.askIndexes column).tokens table).filterMap Token.string? =
      [column.toList, table.toList] := by
    simp [Command.tokens, filterMap_string?_plain, List.filterMap_cons, Token.string?]
  rw [askedFor?, Command.scan_indexesOfColumn, Option.bind_eq_bind, Option.bind_some, hstrings]

end Schema

/-! ## Parts of names -/

namespace Text

theorem notMem_of_mem_pieces {separator : Char} {text piece : List Char}
    (h : piece ∈ pieces separator text) : separator ∉ piece := by
  induction text generalizing piece with
  | nil =>
    rw [pieces, List.mem_singleton] at h
    rw [h]
    exact List.not_mem_nil
  | cons c rest ih =>
    rw [pieces] at h
    split at h
    · rcases List.mem_cons.mp h with rfl | h
      · exact List.not_mem_nil
      · exact ih h
    · next hc =>
      obtain ⟨first, more, hrest⟩ := List.exists_cons_of_ne_nil (pieces_ne_nil separator rest)
      rw [hrest] at h ih
      rcases List.mem_cons.mp h with rfl | h
      · rw [List.mem_cons, not_or]
        exact ⟨Ne.symm hc, ih List.mem_cons_self⟩
      · exact ih (List.mem_cons_of_mem first h)

end Text

namespace Name

/-- The part of a name behind the last dot. -/
def lastPart (name : String) : List Char :=
  (Text.pieces '.' name.toList).getLast (Text.pieces_ne_nil '.' _)

/-- The name has no character that is left out between quotes. -/
def Whole (name : String) : Prop := ∀ c ∈ name.toList, isSpecial c = false

instance (name : String) : Decidable (Whole name) := List.decidableBAll _ name.toList

theorem eq_plain_iff {name : String} : name.toList = plain name.toList ↔ Whole name := by
  rw [eq_comm, plain, List.filter_eq_self]
  simp [Whole]

/-- A name is its last part, and whole, exactly if it is clean. -/
theorem eq_plain_lastPart_iff {name : String} :
    name.toList = plain (lastPart name) ↔ Clean name := by
  constructor
  · intro h
    have hlast := List.getLast_mem (Text.pieces_ne_nil '.' name.toList)
    have hdot : '.' ∉ name.toList := by
      rw [h]
      exact fun hmem => Text.notMem_of_mem_pieces hlast (List.mem_filter.mp hmem).1
    intro c hc
    have hspecial : isSpecial c = false := by
      rw [h] at hc
      simpa using (List.mem_filter.mp hc).2
    refine ⟨fun heq => hdot (heq ▸ hc), ?_⟩
    simpa [isSpecial] using hspecial
  · intro h
    have hdot : '.' ∉ name.toList := fun hmem => (h '.' hmem).1 rfl
    have hlast : lastPart name = name.toList := by
      simp only [lastPart, Text.pieces_of_notMem hdot, List.getLast_singleton]
    rw [hlast, h.plain_eq]

end Name

namespace Schema

open Sql

theorem filterMap_name?_pathTokens (table : String) :
    (pathTokens table).filterMap Token.name? = (Text.pieces '.' table.toList).map Name.plain := by
  rw [pathTokens]
  induction Text.pieces '.' table.toList with
  | nil => rfl
  | cons part rest ih =>
    cases rest with
    | nil => rfl
    | cons next rest =>
      rw [List.map_cons, List.map_cons, List.intercalate_cons_cons, List.filterMap_append,
        List.filterMap_append]
      exact congrArg (Name.plain part :: ·) ih

/-- The statement is about what is left of the names, and of that of the table only the last
part. -/
theorem removedBy?_dropColumn (table column : String) :
    removedBy? (Statement.dropColumn table column).sql =
      some ⟨Name.plain (Name.lastPart table), Name.plain column.toList⟩ := by
  have hfront := Command.closes_plain "ALTER TABLE " (by decide)
  have hdrop := Command.closes_plain " DROP " (by decide)
  have hcolumn : Closes (Name.quoted column).toList [.name (Name.plain column.toList)] := by
    rw [Name.quoted, String.toList_ofList]
    exact closes_quotedChars column.toList
  have hall := ((hfront.append (closes_quotedPath table)).append hdrop).append hcolumn
  have hscan : scan (Statement.dropColumn table column).sql =
      some (((Command.plain "ALTER TABLE " ++ pathTokens table) ++ Command.plain " DROP ") ++
        [.name (Name.plain column.toList)]) := by
    refine Scans.scan (Closes.scans ?_)
    change Closes ("ALTER TABLE " ++ Name.quotedPath table ++ " DROP " ++
      Name.quoted column).toList _
    simpa only [String.toList_append] using hall
  have hnames : (((Command.plain "ALTER TABLE " ++ pathTokens table) ++ Command.plain " DROP ") ++
      [Token.name (Name.plain column.toList)]).filterMap Token.name? =
      (Text.pieces '.' table.toList).map Name.plain ++ [Name.plain column.toList] := by
    simp [List.filterMap_append, filterMap_name?_plain, filterMap_name?_pathTokens, Token.name?]
  have hlast : (Text.pieces '.' table.toList).getLast? = some (Name.lastPart table) :=
    List.getLast?_eq_some_getLast _
  rw [removedBy?, hscan, Option.bind_eq_bind, Option.bind_some, hnames]
  dsimp only
  rw [List.dropLast_concat, List.getLast?_concat, List.getLast?_map, hlast]
  rfl

/-- What is asked for is what is removed exactly if no name loses anything between quotes and that
of the table has no dot. -/
theorem askedFor?_eq_removedBy?_iff (table column : String) :
    askedFor? (indexesOfColumn table column) = removedBy? (Statement.dropColumn table column).sql ↔
      Name.Clean table ∧ Name.Whole column := by
  rw [askedFor?_indexesOfColumn, removedBy?_dropColumn, Option.some_inj, ColumnRef.mk.injEq,
    Name.eq_plain_lastPart_iff, Name.eq_plain_iff]

end Schema

/-! ## Removals -/

namespace Session

/-- What a session sends of some texts, depending on what comes of it: all of them, or, if it
fails, the first ones. -/
def UpTo (texts sent : List String) (result : Except Fault α) : Prop :=
  sent <+: texts ∧ (result.isOk = true → sent = texts)

namespace UpTo

variable {texts sent more : List String} {result : Except Fault α} {fault : Fault}

theorem refl : UpTo texts texts result := ⟨List.prefix_rfl, fun _ => rfl⟩

theorem append (h : UpTo more sent result) : UpTo (texts ++ more) (texts ++ sent) result :=
  ⟨(List.prefix_append_right_inj texts).mpr h.1, fun hok => by rw [h.2 hok]⟩

/-- What comes behind a failure is not sent. -/
theorem error_append (h : UpTo texts sent (.error fault : Except Fault α)) :
    UpTo (texts ++ more) sent (.error fault : Except Fault β) :=
  ⟨h.1.trans (List.prefix_append texts more), fun hok => nomatch hok⟩

theorem eq_of_ok {a : α} (h : UpTo texts sent (.ok a : Except Fault α)) : sent = texts := h.2 rfl

end UpTo

/-- A loop sends what its turns send, and ends with the turn that fails. Each turn sends the texts
of some `r` that stands for the item. -/
theorem Sends.forM {ρ : Type} {turn : α → Step (σ × List (Event κ η)) κ Unit} {item : ρ → α}
    {texts : ρ → List String} (hitem : Function.Surjective item)
    (hturn : ∀ a, Sends (turn a) fun sent result => ∃ r, item r = a ∧ UpTo (texts r) sent result)
    (items : List α) :
    Sends (items.forM turn) fun sent result =>
      ∃ rs : List ρ, rs.map item = items ∧ UpTo (rs.flatMap texts) sent result := by
  induction items with
  | nil => exact .pure ⟨[], rfl, .refl⟩
  | cons a rest ih =>
    refine (hturn a).bind (fun sent _ hsent => ih.mono fun more result hmore => ?_)
      fun sent fault hsent => ?_
    · obtain ⟨r, hr, hsent⟩ := hsent
      obtain ⟨rs, hrs, hmore⟩ := hmore
      refine ⟨r :: rs, by rw [List.map_cons, hr, hrs], ?_⟩
      rw [List.flatMap_cons, hsent.eq_of_ok]
      exact hmore.append
    · obtain ⟨r, hr, hsent⟩ := hsent
      obtain ⟨rs, hrs⟩ := hitem.list_map rest
      refine ⟨r :: rs, by rw [List.map_cons, hr, hrs], ?_⟩
      rw [List.flatMap_cons]
      exact hsent.error_append

/-- A column that is to be removed, with the indexes that are found for it. -/
structure Removal where
  column : String
  indexes : List String

namespace Removal

/-- The text that asks for the indexes of the column. -/
def question (table : String) (removal : Removal) : String := indexesOfColumn table removal.column

/-- The text that removes the column. -/
def last (table : String) (removal : Removal) : String :=
  (Statement.dropColumn table removal.column).sql

/-- The texts that are sent: the question, the removal of each index, and that of the column. -/
def texts (table : String) (removal : Removal) : List String :=
  removal.question table :: (removal.indexes.map fun index => (Statement.dropIndex table index).sql)
    ++ [removal.last table]

theorem column_surjective : Function.Surjective column := fun name => ⟨⟨name, []⟩, rfl⟩

end Removal

variable (client : Client σ κ η) (table : String)

theorem change_sends (statement : Statement) :
    Sends (change client.recorded statement) fun sent _ => sent = [statement.sql] :=
  (Sends.execute statement.sql).bind
    (fun sent _ hsent => .pure (by rw [hsent, List.append_nil])) fun sent _ hsent => hsent

theorem removeIndexes_sends (indexes : List String) :
    Sends (indexes.forM (removeIndex client.recorded table)) fun sent result =>
      UpTo (indexes.map fun index => (Statement.dropIndex table index).sql) sent result := by
  have hturn : ∀ index, Sends (removeIndex client.recorded table index) fun sent result =>
      ∃ name, id name = index ∧ UpTo [(Statement.dropIndex table name).sql] sent result :=
    fun index => (change_sends client (.dropIndex table index)).mono fun sent result hsent =>
      ⟨index, rfl, hsent ▸ .refl⟩
  refine (Sends.forM Function.surjective_id hturn indexes).mono fun sent result hsent => ?_
  obtain ⟨names, hnames, hsent⟩ := hsent
  rw [List.map_id] at hnames
  rwa [hnames, ← List.map_eq_flatMap] at hsent

theorem removeColumn_sends (column : String) :
    Sends (removeColumn client.recorded table column) fun sent result =>
      ∃ removal : Removal, removal.column = column ∧ UpTo (removal.texts table) sent result := by
  refine (Sends.query _ _).bind (fun sent result hsent => ?_) fun sent fault hsent => ?_
  · -- the answer says which indexes there are
    refine Sends.mono (P := fun more outcome => UpTo
      (((textsOf result "index_name").map fun index => (Statement.dropIndex table index).sql) ++
        [(Statement.dropColumn table column).sql]) more outcome) ?_ fun more outcome hmore => ?_
    · refine (removeIndexes_sends client table _).bind (fun more _ hmore => ?_)
        fun more fault hmore => hmore.error_append
      refine (change_sends client _).mono fun last outcome hlast => ?_
      rw [hmore.eq_of_ok, hlast]
      exact .append .refl
    · refine ⟨⟨column, textsOf result "index_name"⟩, rfl, ?_⟩
      rw [hsent]
      exact hmore.append
  · refine ⟨⟨column, []⟩, rfl, ?_⟩
    rw [hsent]
    have hquestion : UpTo [indexesOfColumn table column] [indexesOfColumn table column]
        (.error fault : Except Fault Unit) := .refl
    exact hquestion.error_append

theorem removeColumns_of_disconnected (columns : List String) {p : Session κ × σ}
    (h : p.1.connected = false) :
    ∃ fault, removeColumns client table columns p = (.error fault, p) := by
  cases columns with
  | nil => exact ⟨.argument .noColumns, rfl⟩
  | cons column rest =>
    refine ⟨.connection .disconnected, ?_⟩
    change (removeColumn client table column >>= fun _ =>
      rest.forM (removeColumn client table)) p = _
    rw [bind_apply, removeColumn, bind_apply, query, map_apply, run_of_disconnected h]
    rfl

/-- The texts that are sent to remove columns, whether the session is connected or not. -/
theorem removeColumns_makes (columns : List String) (p : Session κ × σ × List (Event κ η)) :
    Makes record (removeColumns client.recorded table columns) p fun calls result _ =>
      ∃ removals : List Removal, removals.map (·.column) = columns ∧
        UpTo (removals.flatMap (·.texts table)) (sentTexts calls) result := by
  cases hconnected : p.1.connected with
  | false =>
    obtain ⟨fault, hfault⟩ :=
      removeColumns_of_disconnected client.recorded table columns hconnected
    obtain ⟨removals, hremovals⟩ := Removal.column_surjective.list_map columns
    unfold Makes
    rw [hfault]
    exact ⟨[], rfl, removals, hremovals, List.nil_prefix, fun hok => nomatch hok⟩
  | true =>
    have hloop := Sends.forM Removal.column_surjective (removeColumn_sends client table) columns
    cases columns with
    | nil => exact .throw ⟨[], rfl, .refl⟩
    | cons column rest =>
      obtain ⟨calls, hrecord, hsent, -⟩ := hloop p hconnected
      exact ⟨calls, hrecord, hsent⟩

/-- **Each column is removed behind a question about it** exactly if its name loses nothing between
quotes, and neither does that of the table, which has no dot: otherwise the question is about
another column. -/
theorem removeColumns_asks_iff (columns : List String) (p : Session κ × σ × List (Event κ η)) :
    Makes record (removeColumns client.recorded table columns) p fun calls result _ =>
      ∃ removals : List Removal, removals.map (·.column) = columns ∧
        UpTo (removals.flatMap (·.texts table)) (sentTexts calls) result ∧
        ∀ removal ∈ removals,
          askedFor? (removal.question table) = removedBy? (removal.last table) ↔
            Name.Clean table ∧ Name.Whole removal.column := by
  obtain ⟨calls, hrecord, removals, hcolumns, hsent⟩ :=
    removeColumns_makes client table columns p
  exact ⟨calls, hrecord, removals, hcolumns, hsent,
    fun removal _ => askedFor?_eq_removedBy?_iff table removal.column⟩

/-- A table with its owner in front is taken for one of another name. -/
theorem askedFor?_ne_removedBy?_owned :
    let removal : Removal := ⟨"status", []⟩
    askedFor? (removal.question "dba.orders") = some ⟨"dba.orders".toList, "status".toList⟩ ∧
      removedBy? (removal.last "dba.orders") = some ⟨"orders".toList, "status".toList⟩ ∧
      askedFor? (removal.question "dba.orders") ≠ removedBy? (removal.last "dba.orders") := by
  decide +kernel

end Session

end Anywhere
