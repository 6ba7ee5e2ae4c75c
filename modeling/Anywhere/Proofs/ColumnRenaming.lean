import Anywhere.Proofs.DefaultChanges

/-!
# Renaming a column

A server that compares names by their lower case form takes a new name that differs from the old one
in case only for the old one, and does nothing. So a column gets such a name by way of a temporary
one. `Schema.Tables` is what such a server keeps, and `Tables.execute?` what it makes of SQL text;
with them `Schema.renameColumn_takesEffect` says that a column gets its new name in every case, and
that nothing else changes.

The lower case form of a name is not put together from the forms of its parts, because what becomes
of a capital sigma depends on what stands behind it. But how long the form is depends on the single
characters only, so that a name and the temporary name made of it always have different forms.
-/

namespace Anywhere

open Anywhere.Action Anywhere.Operation

/-! ## Lower case forms -/

namespace Text

theorem length_lowercaseChar (before before' : List Char) (c : Char) (after after' : List Char) :
    (lowercaseChar before c after).length = (lowercaseChar before' c after').length := by
  unfold lowercaseChar
  split
  · rfl
  · split
    · rfl
    · rfl

theorem length_lowercaseFrom (before before' text : List Char) :
    (lowercaseFrom before text).length = (lowercaseFrom before' text).length := by
  induction text generalizing before before' with
  | nil => rfl
  | cons c after ih =>
    rw [lowercaseFrom, lowercaseFrom, List.length_append, List.length_append,
      length_lowercaseChar before before' c after after, ih (c :: before) (c :: before')]

/-- The lengths of the forms of two texts add up. -/
theorem length_lowercaseFrom_append (before text more : List Char) :
    (lowercaseFrom before (text ++ more)).length =
      (lowercaseFrom before text).length + (lowercaseFrom [] more).length := by
  induction text generalizing before with
  | nil =>
    rw [List.nil_append, lowercaseFrom, List.length_nil, Nat.zero_add]
    exact length_lowercaseFrom before [] more
  | cons c after ih =>
    rw [List.cons_append, lowercaseFrom, lowercaseFrom, List.length_append, List.length_append, ih,
      length_lowercaseChar before before c (after ++ more) after, Nat.add_assoc]

end Text

namespace Name

/-- A server that compares names by their lower case form takes one for the other. -/
def Same (a b : String) : Prop := Text.lowercase a = Text.lowercase b

instance (a b : String) : Decidable (Same a b) := decEq (Text.lowercase a) (Text.lowercase b)

/-- A name is never taken for the temporary name made of it. -/
theorem not_same_temporaryName (name : String) : ¬ Same (Schema.temporaryName name) name := by
  intro h
  have hending : 0 < (Text.lowercaseFrom [] Schema.temporaryEnding.toList).length := by decide
  have hlength := congrArg (fun text : String => text.toList.length) h
  simp only [Text.lowercase, Schema.temporaryName, String.toList_append, String.toList_ofList,
    Text.length_lowercaseFrom_append] at hlength
  omega

theorem Whole.ofList_plain {name : String} (h : Whole name) :
    String.ofList (plain name.toList) = name := by
  rw [← eq_plain_iff.mpr h, String.ofList_toList]

theorem Whole.temporaryName {name : String} (h : Whole name) :
    Whole (Schema.temporaryName name) := by
  have hending : ∀ c ∈ Schema.temporaryEnding.toList, (!isSpecial c) = true :=
    List.all_eq_true.mp (by decide)
  intro c hc
  rw [Schema.temporaryName, String.toList_append] at hc
  rcases List.mem_append.mp hc with hc | hc
  · exact h c hc
  · simpa using hending c hc

end Name

namespace Schema

open Sql

/-! ## A server that compares names by their lower case form -/

/-- The columns of a table in their order. None is taken for another one. -/
structure Columns where
  names : List String
  distinct : (names.map Text.lowercase).Nodup
deriving DecidableEq

namespace Columns

variable {columns : Columns} {column newName : String}

theorem same_iff {name : String} (hname : name ∈ columns.names) (hcolumn : column ∈ columns.names) :
    Name.Same name column ↔ name = column :=
  ⟨List.inj_on_of_nodup_map columns.distinct hname hcolumn, congrArg Text.lowercase⟩

/-- The names with a new one in place of those that are taken for `column`. -/
def replaced (columns : Columns) (column newName : String) : List String :=
  columns.names.map fun name => if Name.Same name column then newName else name

theorem distinct_replaced (h : ∀ name ∈ columns.names, ¬ Name.Same name newName) :
    ((columns.replaced column newName).map Text.lowercase).Nodup := by
  have hforms : (columns.replaced column newName).map Text.lowercase =
      (columns.names.map Text.lowercase).map fun form =>
        if form = Text.lowercase column then Text.lowercase newName else form := by
    simp only [replaced, List.map_map, Function.comp_def, apply_ite Text.lowercase]
    rfl
  have hfree : Text.lowercase newName ∉ columns.names.map Text.lowercase := by
    simpa [Name.Same] using h
  rw [hforms]
  refine List.Nodup.map_on (fun form hform form' hform' heq => ?_) columns.distinct
  -- the new form is that of no name that was there before
  split at heq
  · next hold =>
    split at heq
    · next hold' => rw [hold, hold']
    · exact absurd (heq ▸ hform') hfree
  · split at heq
    · exact absurd (heq ▸ hform) hfree
    · exact heq

/-- The columns behind a rename. It fails if there is no such column or another one is taken for the
new name, and it is ignored if the two names are the same. -/
def rename? (columns : Columns) (column newName : String) : Option Columns :=
  if ∃ name ∈ columns.names, Name.Same name column then
    if Name.Same column newName then some columns
    else if h : ∀ name ∈ columns.names, ¬ Name.Same name newName then
      some ⟨columns.replaced column newName, distinct_replaced h⟩
    else none
  else none

/-- A name that no column is taken for is given to the column. -/
theorem rename?_of_free (hcolumn : column ∈ columns.names)
    (hfree : ∀ name ∈ columns.names, ¬ Name.Same name newName) :
    ∃ renamed, columns.rename? column newName = some renamed ∧
      renamed.names = columns.names.map fun name => if name = column then newName else name := by
  refine ⟨⟨columns.replaced column newName, distinct_replaced hfree⟩, ?_, ?_⟩
  · rw [rename?, if_pos ⟨column, hcolumn, rfl⟩, if_neg (hfree column hcolumn), dif_pos hfree]
  · exact List.map_congr_left fun name hname => if_congr (same_iff hname hcolumn) rfl rfl

end Columns

/-- The tables of a server, each by the parts of its name. -/
abbrev Tables := List (List Char) → Option Columns

/-- The parts of the name of a table, as they are read. -/
def tablePath (table : String) : List (List Char) :=
  (Text.pieces '.' table.toList).map Name.plain

/-- What a server reads in a text that renames a column. -/
structure Rename where
  path : List (List Char)
  column : String
  newName : String
deriving DecidableEq

namespace Rename

/-- The text as it is read: keywords, the path of the table, and the two names. -/
def tokens (rename : Rename) : List Token :=
  Command.plain "ALTER TABLE " ++ [Token.char '.'].intercalate (rename.path.map ([.name ·])) ++
    Command.plain " RENAME " ++ [.name rename.column.toList] ++
    Command.plain " TO " ++ [.name rename.newName.toList]

/-- The rename that is meant by a text: its last two names are those of the column, and what is in
front of them is the path of the table. -/
def ofText? (sql : String) : Option Rename := do
  let tokens ← scan sql
  let names := tokens.filterMap Token.name?
  let rename : Rename := ⟨names.dropLast.dropLast, String.ofList (← names.dropLast.getLast?),
    String.ofList (← names.getLast?)⟩
  if rename.tokens = tokens then some rename else none

theorem filterMap_name?_tokens (rename : Rename) :
    rename.tokens.filterMap Token.name? =
      rename.path ++ [rename.column.toList] ++ [rename.newName.toList] := by
  have hpath : ([Token.char '.'].intercalate (rename.path.map ([.name ·]))).filterMap Token.name? =
      rename.path := by
    induction rename.path with
    | nil => rfl
    | cons part rest ih =>
      cases rest with
      | nil => rfl
      | cons next rest =>
        rw [List.map_cons, List.map_cons, List.intercalate_cons_cons, List.filterMap_append,
          List.filterMap_append]
        exact congrArg (part :: ·) ih
  simp [tokens, List.filterMap_append, filterMap_name?_plain, hpath, Token.name?]

theorem ofText?_of_scan {sql : String} {rename : Rename} (h : scan sql = some rename.tokens) :
    ofText? sql = some rename := by
  rw [ofText?, h, Option.bind_eq_bind, Option.bind_some]
  dsimp only
  rw [filterMap_name?_tokens, List.dropLast_concat, List.getLast?_concat, List.dropLast_concat,
    List.getLast?_concat]
  dsimp only [Option.bind_eq_bind, Option.bind_some]
  rw [String.ofList_toList, String.ofList_toList]
  exact if_pos rfl

/-- What is left of the names between quotes is what they are read as. -/
theorem ofText?_renameColumn (table column newName : String) :
    ofText? (Statement.renameColumn table column newName).sql =
      some ⟨tablePath table, String.ofList (Name.plain column.toList),
        String.ofList (Name.plain newName.toList)⟩ := by
  have hname : ∀ name : String,
      Closes (Name.quoted name).toList [.name (Name.plain name.toList)] := by
    intro name
    rw [Name.quoted, String.toList_ofList]
    exact closes_quotedChars name.toList
  have hfront := Command.closes_plain "ALTER TABLE " (by decide)
  have hrename := Command.closes_plain " RENAME " (by decide)
  have hto := Command.closes_plain " TO " (by decide)
  have hall := ((((hfront.append (closes_quotedPath table)).append hrename).append
    (hname column)).append hto).append (hname newName)
  refine ofText?_of_scan (Scans.scan (Closes.scans ?_))
  change Closes ("ALTER TABLE " ++ Name.quotedPath table ++ " RENAME " ++ Name.quoted column ++
    " TO " ++ Name.quoted newName).toList _
  simpa only [tokens, tablePath, pathTokens, List.map_map, Function.comp_def, String.toList_append,
    String.toList_ofList] using hall

end Rename

namespace Tables

/-- The tables behind a text that renames a column. Other texts are not understood. -/
def execute? (tables : Tables) (sql : String) : Option Tables := do
  let rename ← Rename.ofText? sql
  let columns ← tables rename.path
  let renamed ← columns.rename? rename.column rename.newName
  return Function.update tables rename.path (some renamed)

theorem execute?_renameColumn {tables : Tables} {columns renamed : Columns}
    {table column newName : String} (htable : tables (tablePath table) = some columns)
    (hcolumn : Name.Whole column) (hnewName : Name.Whole newName)
    (hrename : columns.rename? column newName = some renamed) :
    tables.execute? (Statement.renameColumn table column newName).sql =
      some (Function.update tables (tablePath table) (some renamed)) := by
  rw [execute?, Rename.ofText?_renameColumn, hcolumn.ofList_plain, hnewName.ofList_plain]
  simp [htable, hrename]

end Tables

/-! ## What a rename comes to -/

/-- A column that gets its new name by way of the temporary one. -/
theorem rename?_rename? {columns : Columns} {column newName : String}
    (hcolumn : column ∈ columns.names) (hsame : Name.Same column newName)
    (hothers : ∀ other ∈ columns.names, other ≠ column →
      ¬ Name.Same other newName ∧ ¬ Name.Same other (temporaryName newName)) :
    ∃ between renamed, columns.rename? column (temporaryName newName) = some between ∧
      between.rename? (temporaryName newName) newName = some renamed ∧
      renamed.names = columns.names.map fun name => if name = column then newName else name := by
  have hfree : ∀ name ∈ columns.names, ¬ Name.Same name (temporaryName newName) := by
    intro name hname
    by_cases heq : name = column
    · rw [heq]
      exact fun htemporary => Name.not_same_temporaryName newName (htemporary.symm.trans hsame)
    · exact (hothers name hname heq).2
  obtain ⟨between, hbetween, hnames⟩ := Columns.rename?_of_free hcolumn hfree
  have htemporary : temporaryName newName ∈ between.names := by
    rw [hnames]
    exact List.mem_map.mpr ⟨column, hcolumn, if_pos rfl⟩
  have hfree' : ∀ name ∈ between.names, ¬ Name.Same name newName := by
    rw [hnames]
    intro _ hmem
    obtain ⟨name, hname, rfl⟩ := List.mem_map.mp hmem
    split
    · exact Name.not_same_temporaryName newName
    · next hne => exact (hothers name hname hne).1
  obtain ⟨renamed, hrenamed, hnames'⟩ := Columns.rename?_of_free htemporary hfree'
  refine ⟨between, renamed, hbetween, hrenamed, ?_⟩
  rw [hnames', hnames, List.map_map]
  refine List.map_congr_left fun name hname => ?_
  -- no column had the temporary name before
  have hne : name ≠ temporaryName newName := fun heq => hfree name hname (congrArg _ heq)
  by_cases heq : name = column <;> simp [heq, hne]

/-- The texts that rename a column do so, whether the two names are the same or not. -/
theorem foldlM_execute?_renameColumn {tables : Tables} {columns : Columns}
    {table column newName : String} (htable : tables (tablePath table) = some columns)
    (hcolumn : column ∈ columns.names) (hwhole : Name.Whole column) (hwhole' : Name.Whole newName)
    (hothers : ∀ other ∈ columns.names, other ≠ column →
      ¬ Name.Same other newName ∧ ¬ Name.Same other (temporaryName newName)) :
    ∃ renamed : Columns,
      renamed.names = (columns.names.map fun name => if name = column then newName else name) ∧
      ((renameColumn table column newName).map Statement.sql).foldlM Tables.execute? tables =
        some (Function.update tables (tablePath table) (some renamed)) := by
  by_cases hsame : Name.Same column newName
  · obtain ⟨between, renamed, hbetween, hrenamed, hnames⟩ := rename?_rename? hcolumn hsame hothers
    have hfirst := Tables.execute?_renameColumn htable hwhole hwhole'.temporaryName hbetween
    have hthere := Function.update_self (tablePath table) (some between) tables
    have hsecond := Tables.execute?_renameColumn hthere hwhole'.temporaryName hwhole' hrenamed
    rw [Function.update_idem] at hsecond
    have hcase : Text.lowercase column = Text.lowercase newName := hsame
    refine ⟨renamed, hnames, ?_⟩
    rw [renameColumn, if_pos hcase]
    simp [hfirst, hsecond]
  · have hfree : ∀ name ∈ columns.names, ¬ Name.Same name newName := by
      intro name hname
      by_cases heq : name = column
      · rwa [heq]
      · exact (hothers name hname heq).1
    obtain ⟨renamed, hrenamed, hnames⟩ := Columns.rename?_of_free hcolumn hfree
    have honly := Tables.execute?_renameColumn htable hwhole hwhole' hrenamed
    have hcase : Text.lowercase column ≠ Text.lowercase newName := hsame
    refine ⟨renamed, hnames, ?_⟩
    rw [renameColumn, if_neg hcase]
    simp [honly]

/-- **A rename always takes effect.** The column has exactly the new name, all other columns and
tables are as they were, and no column is left under the temporary name. That is what the texts
come to, and so does a connected session that sends them all. -/
theorem renameColumn_takesEffect {tables : Tables} {columns : Columns}
    {table column newName : String} (htable : tables (tablePath table) = some columns)
    (hcolumn : column ∈ columns.names) (hwhole : Name.Whole column) (hwhole' : Name.Whole newName)
    (hothers : ∀ other ∈ columns.names, other ≠ column →
      ¬ Name.Same other newName ∧ ¬ Name.Same other (temporaryName newName)) :
    ∃ renamed : Columns,
      renamed.names = (columns.names.map fun name => if name = column then newName else name) ∧
      (∀ name ∈ renamed.names, ¬ Name.Same name (temporaryName newName)) ∧
      ((renameColumn table column newName).map Statement.sql).foldlM Tables.execute? tables =
        some (Function.update tables (tablePath table) (some renamed)) ∧
      ∀ {σ κ η : Type} (client : Client σ κ η) (p : Session κ × σ × List (Event κ η)),
        p.1.connected = true →
          Makes record (Session.renameColumn client.recorded table column newName) p
            fun calls result _ => result.isOk = true →
              (sentTexts calls).foldlM Tables.execute? tables =
                some (Function.update tables (tablePath table) (some renamed)) := by
  obtain ⟨renamed, hnames, hexecuted⟩ :=
    foldlM_execute?_renameColumn htable hcolumn hwhole hwhole' hothers
  refine ⟨renamed, hnames, ?_, hexecuted, fun client p hconnected => ?_⟩
  · rw [hnames]
    intro _ hmem
    obtain ⟨name, hname, rfl⟩ := List.mem_map.mp hmem
    split
    · exact fun htemporary => Name.not_same_temporaryName newName htemporary.symm
    · next hne => exact (hothers name hname hne).2
  · obtain ⟨calls, hrecord, hturn⟩ :=
      Session.changeAll_makes client (renameColumn table column newName) hconnected
    refine ⟨calls, hrecord, fun hok => ?_⟩
    rw [hturn.upTo.2 hok]
    exact hexecuted

/-- The columns of a table of streets. -/
def streets : Columns := ⟨["id", "ΟΔΟΣ"], by decide +kernel⟩

/-- A server with that table only. -/
def streetsOnly : Tables := Function.update (fun _ => none) (tablePath "dba.streets") (some streets)

/-- The sigma at the end of the new name is no longer at the end in the temporary one. -/
theorem renameColumn_takesEffect_streets :
    streetsOnly (tablePath "dba.streets") = some streets ∧ "ΟΔΟΣ" ∈ streets.names ∧
      Name.Whole "ΟΔΟΣ" ∧ Name.Whole "Οδος" ∧
      (∀ other ∈ streets.names, other ≠ "ΟΔΟΣ" →
        ¬ Name.Same other "Οδος" ∧ ¬ Name.Same other (temporaryName "Οδος")) ∧
      Name.Same "ΟΔΟΣ" "Οδος" ∧
      ∃ renamed : Columns, renamed.names = ["id", "Οδος"] ∧
        ((renameColumn "dba.streets" "ΟΔΟΣ" "Οδος").map Statement.sql).foldlM Tables.execute?
            streetsOnly =
          some (Function.update streetsOnly (tablePath "dba.streets") (some renamed)) := by
  have htable : streetsOnly (tablePath "dba.streets") = some streets := Function.update_self ..
  have hcolumn : "ΟΔΟΣ" ∈ streets.names := by decide
  have hwhole : Name.Whole "ΟΔΟΣ" := by decide
  have hwhole' : Name.Whole "Οδος" := by decide
  have hothers : ∀ other ∈ streets.names, other ≠ "ΟΔΟΣ" →
      ¬ Name.Same other "Οδος" ∧ ¬ Name.Same other (temporaryName "Οδος") := by
    decide +kernel
  obtain ⟨renamed, hnames, -, hexecuted, -⟩ :=
    renameColumn_takesEffect htable hcolumn hwhole hwhole' hothers
  exact ⟨htable, hcolumn, hwhole, hwhole', hothers, by decide +kernel, renamed, hnames, hexecuted⟩

end Schema

end Anywhere
