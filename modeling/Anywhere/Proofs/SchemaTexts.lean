import Anywhere.Proofs.TableCatalog
import Anywhere.Proofs.Templates

/-!
# The texts of schema statements

Names and defaults of all sorts are put into the statements about the schema, each of which is a
template with a few slots. `Schema.Job.templates` lists them, and with `Readable` for every template
it follows at once what a reader finds in the texts: the names and texts that were asked for, and
around them what would be there for names of one letter and the plainest of defaults
(`Schema.Job.texts_closed`).

Such plain names cannot be chosen one by one. Renaming a column takes one statement or two,
depending on whether the two names are the same in lower case, so the plain names have to be the
same in this case and in no other. Names that are the same in lower case have equally many dots, so
this can be done.
-/

namespace Anywhere

/-! ## Plain names -/

namespace Text

theorem length_pieces (separator : Char) (text : List Char) :
    (pieces separator text).length = text.count separator + 1 := by
  induction text with
  | nil => rfl
  | cons c rest ih =>
    rw [pieces]
    split
    · next hc => rw [List.length_cons, ih, hc, List.count_cons_self]
    · next hc =>
      obtain ⟨piece, more, hpieces⟩ := List.exists_cons_of_ne_nil (pieces_ne_nil separator rest)
      rw [hpieces] at ih ⊢
      rw [List.count_cons_of_ne hc, ← ih]
      rfl

/-- Lower case neither makes dots nor takes them away: letters of ASCII stay there, and the table
for all others has no code point below 64. -/
theorem count_lowercaseChar (before : List Char) (c : Char) (after : List Char) :
    (lowercaseChar before c after).count '.' = [c].count '.' := by
  have hascii : ∀ code < 128,
      [(Char.ofNat code).toLower].count '.' = [Char.ofNat code].count '.' := by
    decide +kernel
  have hruns : ∀ run ∈ lowercaseRuns, 64 ≤ run.image := by decide +kernel
  have hcode : ∀ {code : Nat}, 64 ≤ code → Char.ofNat code ≠ '.' := by
    intro code hle hdot
    have hnat := Sql.Inert.toNat_ofNat_of_le hle
    rw [hdot] at hnat
    exact absurd hnat (by decide)
  unfold lowercaseChar
  split
  · next hlt =>
    have hc := hascii c.toNat hlt
    rwa [Char.ofNat_toNat] at hc
  · next hge =>
    have hc : c ≠ '.' := by
      rintro rfl
      exact hge (by decide)
    have hnone : [c].count '.' = 0 := List.count_eq_zero.mpr (by simpa using hc.symm)
    rw [hnone]
    split
    · split <;> decide
    · split
      · decide
      · have hle : 64 ≤ c.toNat := by omega
        have himage := hcode (Sql.Inert.le_caseImage hruns hle)
        exact List.count_eq_zero.mpr (by simpa using himage.symm)

theorem count_lowercaseFrom (before text : List Char) :
    (lowercaseFrom before text).count '.' = text.count '.' := by
  induction text generalizing before with
  | nil => rfl
  | cons c after ih =>
    rw [lowercaseFrom, List.count_append, count_lowercaseChar, ih, ← List.count_append]
    rfl

theorem length_pieces_eq_of_lowercase_eq {a b : String} (h : lowercase a = lowercase b) :
    (pieces '.' a.toList).length = (pieces '.' b.toList).length := by
  have hcount := congrArg (fun text : String => text.toList.count '.') h
  simp only [lowercase, String.toList_ofList, count_lowercaseFrom] at hcount
  rw [length_pieces, length_pieces, hcount]

end Text

namespace Name

/-- The name with a single letter in place of each part between the dots. -/
def letters (letter : Char) (name : String) : String :=
  String.ofList (['.'].intercalate ((Text.pieces '.' name.toList).map fun _ => [letter]))

theorem letters_congr {a b : String} (letter : Char)
    (h : (Text.pieces '.' a.toList).length = (Text.pieces '.' b.toList).length) :
    letters letter a = letters letter b := by
  rw [letters, letters, List.map_const', List.map_const', h]

theorem length_pieces_letters {letter : Char} (h : letter ≠ '.') (name : String) :
    (Text.pieces '.' (letters letter name).toList).length =
      (Text.pieces '.' name.toList).length := by
  rw [letters, String.toList_ofList, Text.length_pieces]
  have hcount (parts : List (List Char)) (hne : parts ≠ []) :
      (['.'].intercalate (parts.map fun _ => [letter])).count '.' + 1 = parts.length := by
    induction parts with
    | nil => exact absurd rfl hne
    | cons part parts ih =>
      cases parts with
      | nil => simp [List.intercalate, h]
      | cons next parts =>
        have hrest := ih (List.cons_ne_nil _ _)
        rw [List.map_cons, List.map_cons, List.intercalate_cons_cons, List.count_append,
          List.count_append, List.length_cons, ← hrest, List.map_cons, List.count_singleton_self,
          List.count_singleton]
        simp [h]
        omega
  exact hcount _ (Text.pieces_ne_nil '.' name.toList)

/-- Names of different letters are different in lower case, too. -/
theorem lowercase_letters_ne (a b : String) :
    Text.lowercase (letters 'a' a) ≠ Text.lowercase (letters 'b' b) := by
  have hletters : ∀ letter name, ∃ rest, (letters letter name).toList = letter :: rest := by
    intro letter name
    obtain ⟨part, parts, hparts⟩ := List.exists_cons_of_ne_nil (Text.pieces_ne_nil '.' name.toList)
    rw [letters, hparts, String.toList_ofList]
    cases parts with
    | nil => exact ⟨_, rfl⟩
    | cons next parts =>
      rw [List.map_cons, List.map_cons, List.intercalate_cons_cons]
      exact ⟨_, rfl⟩
  obtain ⟨rest, ha⟩ := hletters 'a' a
  obtain ⟨rest', hb⟩ := hletters 'b' b
  intro h
  have hhead := congrArg (fun text : String => text.toList.head?) h
  simp only [Text.lowercase, ha, hb, String.toList_ofList, Text.lowercaseFrom] at hhead
  cases hhead

/-- The letters can be chosen such that two names are the same in lower case if and only if they
were so before. -/
theorem lowercase_letters_eq_iff (a b : String) :
    Text.lowercase (letters 'a' a) =
        Text.lowercase (letters (if Text.lowercase a = Text.lowercase b then 'a' else 'b') b) ↔
      Text.lowercase a = Text.lowercase b := by
  by_cases hsame : Text.lowercase a = Text.lowercase b
  · rw [if_pos hsame, letters_congr 'a' (Text.length_pieces_eq_of_lowercase_eq hsame)]
    exact iff_of_true rfl hsame
  · rw [if_neg hsame]
    exact iff_of_false (lowercase_letters_ne a b) hsame

end Name

/-! ## Plain values -/

namespace Calendar

theorem isSome_newYear : (Date.ofParts? 2000 1 1).isSome = true := by decide

/-- The first day of the year 2000. -/
def newYear : Date := (Date.ofParts? 2000 1 1).get isSome_newYear

theorem isSome_midnight : (Time.ofParts? 0 0 0 0).isSome = true := by decide

/-- The beginning of a day. -/
def midnight : Time := (Time.ofParts? 0 0 0 0).get isSome_midnight

end Calendar

/-- A value of the same kind with nothing special about it. -/
def Value.plain : Value → Value
  | null => null
  | bool _ => bool false
  | int _ => int 0
  | float _ => float ⟨0⟩
  | decimal _ => decimal (.ofInt64 0)
  | date _ => date Calendar.newYear
  | time _ => time Calendar.midnight
  | dateTime _ => dateTime ⟨Calendar.newYear, Calendar.midnight⟩
  | text _ => text "a"
  | binary _ => binary []

theorem Value.isSome_literal?_plain {v : Value} (h : v.literal?.isSome = true) :
    v.plain.literal?.isSome = true := by
  cases v with
  | binary bytes => cases h
  | _ => rfl

theorem Value.literalKind_plain (v : Value) : v.plain.literalKind = v.literalKind := by
  cases v <;> rfl

namespace Sql

@[simp] theorem Slot.kinds_path_letters (table : String) :
    (path (Name.letters 'a' table)).kinds = (path table).kinds :=
  kinds_path (Name.length_pieces_letters (by decide) table)

theorem Slot.kinds_value_plain {v : Value} (h : v.literal?.isSome = true) :
    (value v.plain).kinds = (value v).kinds := by
  rw [kinds_value h, kinds_value (Value.isSome_literal?_plain h), Value.literalKind_plain]

end Sql

open Sql

theorem Sql.Separator.append {a b : String} (ha : Separator a) (hb : Inert b.toList) :
    Separator (a ++ b) := by
  refine ⟨?_, ?_⟩
  · rw [String.toList_append]
    exact ha.inert.append hb
  · rw [String.toList_append]
    exact List.append_ne_nil_of_left_ne_nil ha.nonempty _

namespace Column

theorem separator_integerType (limit : Option UInt32) : Separator (integerType limit) := by
  unfold integerType
  split
  · decide
  · decide
  · split <;> decide
  · decide

theorem separator_sized {name : String} (h : Separator name) (size : UInt32) :
    Separator (sized name size) :=
  h.append (by decide) |>.append (.ofNat _) |>.append (by decide)

/-- Column types have neither quotes nor question marks. -/
theorem separator_definition (type : LogicalType) (limit precision scale : Option UInt32) :
    Separator (definition type limit precision scale) := by
  have hdecimal : Separator "decimal(" := by decide
  unfold definition
  split
  · exact separator_integerType limit
  · split
    · exact separator_sized (by decide) _
    · decide
  · decide
  · split
    · exact separator_sized (by decide) _
    · decide
  · split
    · exact hdecimal.append (.ofNat _) |>.append (by decide) |>.append (.ofNat _)
        |>.append (by decide)
    · exact hdecimal.append (.ofNat _) |>.append (by decide)
    · decide
  · cases type <;> decide

end Column

namespace Schema

/-! ## Jobs and their texts -/

/-- What texts about the schema are written for. -/
inductive Job where
  | renameTable (table newName : String)
  | renameColumn (table column newName : String)
  | setDefault (table column : String) (default : Value)
  | setNullable (table column : String) (nullable : Bool) (default : Option Value)
  | setType (table column : String) (type : LogicalType) (options : ColumnOptions)
  /-- Asks for the indexes of a column. -/
  | askIndexes (table column : String)
  | dropColumn (table column : String)
  | dropIndex (table index : String)

namespace Job

/-- The texts that are written, if the default can be. -/
def texts : Job → Except Fault (List String)
  | renameTable table newName => .ok [(Statement.renameTable table newName).sql]
  | renameColumn table column newName =>
    .ok ((Schema.renameColumn table column newName).map Statement.sql)
  | setDefault table column default =>
    (Schema.setDefault table column default).map ([·.sql])
  | setNullable table column nullable default =>
    (Schema.setNullable table column nullable default).map (·.map Statement.sql)
  | setType table column type options => (Schema.setType table column type options).map ([·.sql])
  | askIndexes table column => .ok [indexesOfColumn table column]
  | dropColumn table column => .ok [(Statement.dropColumn table column).sql]
  | dropIndex table index => .ok [(Statement.dropIndex table index).sql]

/-- The value that is written. -/
def written? : Job → Option Value
  | setDefault _ _ default => some default
  | setNullable _ _ false default => default
  | setType _ _ _ options => options.default
  | _ => none

/-- The front of what alters a table. -/
def alter (table : String) (rest : List Slot) : List Slot :=
  .text "ALTER TABLE " :: .path table :: rest

/-- The front of what alters a column. -/
def alterColumn (table column : String) (rest : List Slot) : List Slot :=
  alter table (.text " ALTER " :: .name column :: rest)

/-- A column under its new name. -/
def rename (table column newName : String) : List Slot :=
  alter table [.text " RENAME ", .name column, .text " TO ", .name newName]

/-- What is said about a column behind its type. -/
def modifiers (default : Option Value) (nullable : Option Bool) : List Slot :=
  (match default with
    | some default => [.text " DEFAULT ", .value default]
    | none => []) ++
  (match nullable with
    | some nullable => [.text (" " ++ nullability nullable)]
    | none => [])

/-- The templates of the texts. -/
def templates : Job → List (List Slot)
  | renameTable table newName => [alter table [.text " RENAME ", .path newName]]
  | renameColumn table column newName =>
    if Text.lowercase column = Text.lowercase newName then
      [rename table column (temporaryName newName), rename table (temporaryName newName) newName]
    else [rename table column newName]
  | setDefault table column default =>
    [alterColumn table column [.text " DEFAULT ", .value default]]
  | setNullable table column false (some default) =>
    [[.text "UPDATE ", .path table, .text " SET ", .name column, .text "=", .value default,
        .text " WHERE ", .name column, .text " IS NULL"],
      alterColumn table column [.text " NOT NULL"]]
  | setNullable table column nullable _ =>
    [alterColumn table column [.text (" " ++ nullability nullable)]]
  | setType table column type options =>
    [alterColumn table column (.text " " ::
      .text (Column.definition type options.limit options.precision options.scale) ::
        modifiers options.default options.nullable)]
  | askIndexes table column =>
    [[.text "SELECT ", .name "index_name",
      .text " FROM SYS.SYSTAB join SYS.SYSTABCOL join SYS.SYSIDXCOL join SYS.SYSIDX WHERE ",
      .name "column_name", .text " = ", .string column, .text " AND ", .name "table_name",
      .text " = ", .string table]]
  | dropColumn table column => [alter table [.text " DROP ", .name column]]
  | dropIndex table index => [[.text "DROP INDEX ", .path table, .text ".", .name index]]

/-- The names and texts that are written, in their order. -/
def payload : Job → List (List Token)
  | renameTable table newName => [nameTokens table ++ nameTokens newName]
  | renameColumn table column newName =>
    if Text.lowercase column = Text.lowercase newName then
      [nameTokens table ++ [nameToken column, nameToken (temporaryName newName)],
        nameTokens table ++ [nameToken (temporaryName newName), nameToken newName]]
    else [nameTokens table ++ [nameToken column, nameToken newName]]
  | setDefault table column default => [nameTokens table ++ nameToken column :: default.payload]
  | setNullable table column false (some default) =>
    [nameTokens table ++ nameToken column :: default.payload ++ [nameToken column],
      nameTokens table ++ [nameToken column]]
  | setNullable table column _ _ => [nameTokens table ++ [nameToken column]]
  | setType table column _ options =>
    [nameTokens table ++ nameToken column :: options.default.elim [] Value.payload]
  | askIndexes table column =>
    [[nameToken "index_name", nameToken "column_name", .string column.toList,
      nameToken "table_name", .string table.toList]]
  | dropColumn table column => [nameTokens table ++ [nameToken column]]
  | dropIndex table index => [nameTokens table ++ [nameToken index]]

/-- The job with plain names and a plain value. Names that are the same in lower case are so
afterwards, and no others are. -/
def plain : Job → Job
  | renameTable table newName => renameTable (Name.letters 'a' table) (Name.letters 'a' newName)
  | renameColumn table column newName =>
    let letter := if Text.lowercase column = Text.lowercase newName then 'a' else 'b'
    renameColumn (Name.letters 'a' table) (Name.letters 'a' column) (Name.letters letter newName)
  | setDefault table column default =>
    setDefault (Name.letters 'a' table) (Name.letters 'a' column) default.plain
  | setNullable table column nullable default =>
    setNullable (Name.letters 'a' table) (Name.letters 'a' column) nullable
      (default.map Value.plain)
  | setType table column type options =>
    setType (Name.letters 'a' table) (Name.letters 'a' column) type
      { options with default := options.default.map Value.plain }
  | askIndexes table column => askIndexes (Name.letters 'a' table) (Name.letters 'a' column)
  | dropColumn table column => dropColumn (Name.letters 'a' table) (Name.letters 'a' column)
  | dropIndex table index => dropIndex (Name.letters 'a' table) (Name.letters 'a' index)

theorem written?_plain (job : Job) : job.plain.written? = job.written?.map Value.plain := by
  cases job with
  | setNullable table column nullable default => cases nullable <;> rfl
  | _ => rfl

/-! ### The texts of the templates -/

@[simp] theorem templateSql_alter (table : String) (rest : List Slot) :
    templateSql (alter table rest) = Statement.alter table ++ templateSql rest := by
  simp [alter, Statement.alter, String.append_assoc]

@[simp] theorem templateSql_alterColumn (table column : String) (rest : List Slot) :
    templateSql (alterColumn table column rest) =
      Statement.alterColumn table column ++ templateSql rest := by
  simp [alterColumn, Statement.alterColumn, String.append_assoc]

theorem templateSql_rename (table column newName : String) :
    templateSql (rename table column newName) =
      (Statement.renameColumn table column newName).sql := by
  simp only [rename, templateSql_alter, templateSql_cons, templateSql_nil, Slot.sql, Statement.sql,
    String.append_assoc, String.append_empty]

theorem templateSql_modifiers (default : Option Value) (nullable : Option Bool) :
    templateSql (modifiers default nullable) =
      (match default with
        | some default => " DEFAULT " ++ default.literal?.getD ""
        | none => "") ++
      (match nullable with
        | some nullable => " " ++ nullability nullable
        | none => "") := by
  cases default <;> cases nullable <;> simp [modifiers, String.append_assoc]

/-- **The texts are those of the templates,** if the value has a literal. -/
theorem texts_eq {job : Job} (h : ∀ v ∈ job.written?, v.literal?.isSome = true) :
    job.texts = .ok (job.templates.map templateSql) := by
  have hliteral : ∀ v ∈ job.written?, v.literal = .ok (v.literal?.getD "") := by
    intro v hv
    obtain ⟨sql, hsql⟩ := Option.isSome_iff_exists.mp (h v hv)
    simp only [Value.literal, hsql, Option.getD_some]
  cases job with
  | renameColumn table column newName =>
    simp only [texts, templates, Schema.renameColumn]
    split <;> simp [templateSql_rename]
  | setDefault table column default =>
    have hstatement : Schema.setDefault table column default =
        .ok (.setDefault table column (default.literal?.getD "")) := by
      rw [Schema.setDefault, hliteral default rfl]
      rfl
    simp [texts, hstatement, templates, Except.map, Statement.sql, String.append_assoc]
  | setNullable table column nullable default =>
    -- only a column that is to be without nulls has them replaced, and only by a default
    cases nullable with
    | true =>
      simp [texts, Schema.setNullable, templates, Except.map, Statement.sql, String.append_assoc]
    | false =>
      cases default with
      | none =>
        simp [texts, Schema.setNullable, templates, Except.map, Statement.sql, String.append_assoc]
      | some default =>
        have hstatements : Schema.setNullable table column false (some default) =
            .ok [.fillNulls table column (default.literal?.getD ""),
              .setNullable table column false] := by
          rw [Schema.setNullable, hliteral default rfl]
          rfl
        simp [texts, hstatements, templates, Except.map, Statement.sql, nullability,
          String.append_assoc]
  | setType table column type options =>
    have hdefault : options.default.mapM Value.literal =
        .ok (options.default.map (·.literal?.getD "")) := by
      cases hdefault : options.default with
      | none => rfl
      | some default =>
        rw [Option.mapM_some, hliteral default hdefault]
        rfl
    have hstatement : Schema.setType table column type options =
        .ok (.setType table column
          (Column.definition type options.limit options.precision options.scale)
          (options.default.map (·.literal?.getD "")) options.nullable) := by
      rw [Schema.setType, hdefault]
      rfl
    cases hdefault : options.default <;> cases hnullable : options.nullable <;>
      simp [texts, hstatement, templates, templateSql_modifiers, Except.map, Statement.sql,
        hdefault, hnullable, String.append_assoc]
  | _ =>
    simp [texts, templates, Command.indexesOfColumn_eq, Statement.sql, String.append_assoc]

/-! ### What is read -/

theorem separator_nullability (nullable : Bool) :
    Separator (" " ++ nullability nullable) ∧
      (Slot.text (" " ++ nullability nullable)).apart = true := by
  revert nullable
  decide

theorem readable_modifiers {default : Option Value} (nullable : Option Bool)
    (h : ∀ v ∈ default, v.literal?.isSome = true) :
    Readable (modifiers default nullable) ∧
      (modifiers default nullable).head?.all Slot.apart = true := by
  have hnullable : Readable (modifiers none nullable) ∧
      (modifiers none nullable).head?.all Slot.apart = true := by
    cases nullable with
    | none => exact ⟨.nil, rfl⟩
    | some nullable => exact ⟨.text (separator_nullability nullable).1, (separator_nullability _).2⟩
  cases default with
  | none => exact hnullable
  | some default =>
    exact ⟨.filled (by decide) (by decide) (h default rfl) hnullable.2 hnullable.1, rfl⟩

theorem readable_alter {table : String} {rest : List Slot} (h : Readable rest) :
    Readable (alter table rest) := .path (by decide) h

theorem readable_alterColumn {table column : String} {rest : List Slot} (h : Readable rest) :
    Readable (alterColumn table column rest) := readable_alter (.name (by decide) h)

theorem readable_rename (table column newName : String) : Readable (rename table column newName) :=
  readable_alter (.name (by decide) (.name (by decide) .nil))

/-- The templates are in order. -/
theorem readable_templates {job : Job} (h : ∀ v ∈ job.written?, v.literal?.isSome = true) :
    ∀ slots ∈ job.templates, Readable slots := by
  cases job with
  | renameTable table newName =>
    exact List.forall_mem_singleton.mpr (readable_alter (.path (by decide) .nil))
  | renameColumn table column newName =>
    rw [templates]
    split
    · exact List.forall_mem_cons.mpr
        ⟨readable_rename _ _ _, List.forall_mem_singleton.mpr (readable_rename _ _ _)⟩
    · exact List.forall_mem_singleton.mpr (readable_rename _ _ _)
  | setDefault table column default =>
    exact List.forall_mem_singleton.mpr
      (readable_alterColumn (.filled (by decide) (by decide) (h default rfl) rfl .nil))
  | setNullable table column nullable default =>
    have halone : ∀ nullable, Readable (alterColumn table column
        [.text (" " ++ nullability nullable)]) :=
      fun nullable => readable_alterColumn (.text (separator_nullability nullable).1)
    cases nullable with
    | true => exact List.forall_mem_singleton.mpr (halone true)
    | false =>
      cases default with
      | none => exact List.forall_mem_singleton.mpr (halone false)
      | some default =>
        have hback : Readable [.text " WHERE ", .name column, .text " IS NULL"] :=
          .name (by decide) (.text (by decide))
        have hvalue : Readable (.text "=" :: .value default :: _) :=
          .filled (by decide) (by decide) (h default rfl) rfl hback
        exact List.forall_mem_cons.mpr ⟨.path (by decide) (.name (by decide) hvalue),
          List.forall_mem_singleton.mpr (readable_alterColumn (.text (by decide)))⟩
  | setType table column type options =>
    have hmodifiers := readable_modifiers options.nullable h
    exact List.forall_mem_singleton.mpr (readable_alterColumn (.filled (by decide) (by decide)
      (Column.separator_definition _ _ _ _) hmodifiers.2 hmodifiers.1))
  | askIndexes table column =>
    have hback : Readable [.text " AND ", .name "table_name", .text " = ", .string table] :=
      .name (by decide) (.filled (by decide) (by decide) trivial rfl .nil)
    have hcolumn : Readable (.text " = " :: .string column :: _) :=
      .filled (by decide) (by decide) trivial rfl hback
    exact List.forall_mem_singleton.mpr (.name (by decide) (.name (by decide) hcolumn))
  | dropColumn table column =>
    exact List.forall_mem_singleton.mpr (readable_alter (.name (by decide) .nil))
  | dropIndex table index =>
    exact List.forall_mem_singleton.mpr (.path (by decide) (.name (by decide) .nil))

theorem payload_templates (job : Job) :
    job.templates.map (·.flatMap Slot.payload) = job.payload := by
  cases job with
  | renameColumn table column newName =>
    rw [templates, payload]
    split <;> simp [rename, alter]
  | setNullable table column nullable default =>
    cases nullable <;> cases default <;>
      simp [templates, payload, alterColumn, alter]
  | setType table column type options =>
    obtain ⟨limit, precision, scale, default, nullable⟩ := options
    cases default <;> cases nullable <;>
      simp [templates, payload, alterColumn, alter, modifiers]
  | _ => simp [templates, payload, alterColumn, alter]

theorem kinds_templates_plain {job : Job} (h : ∀ v ∈ job.written?, v.literal?.isSome = true) :
    job.plain.templates.map (·.flatMap Slot.kinds) = job.templates.map (·.flatMap Slot.kinds) := by
  have hvalue : ∀ v ∈ job.written?, (Slot.value v.plain).kinds = (Slot.value v).kinds :=
    fun v hv => Sql.Slot.kinds_value_plain (h v hv)
  cases job with
  | renameColumn table column newName =>
    have hbranch := Name.lowercase_letters_eq_iff column newName
    by_cases hsame : Text.lowercase column = Text.lowercase newName
    · simp only [hsame, if_true] at hbranch
      simp [templates, plain, rename, alter, hsame, hbranch]
    · simp only [hsame, if_false] at hbranch
      simp [templates, plain, rename, alter, hsame, hbranch]
  | setDefault table column default =>
    simp [templates, plain, alterColumn, alter, hvalue default rfl]
  | setNullable table column nullable default =>
    cases nullable with
    | true => simp [templates, plain, alterColumn, alter]
    | false =>
      cases default with
      | none => simp [templates, plain, alterColumn, alter]
      | some default => simp [templates, plain, alterColumn, alter, hvalue default rfl]
  | setType table column type options =>
    obtain ⟨limit, precision, scale, default, nullable⟩ := options
    cases default with
    | none => cases nullable <;> simp [templates, plain, alterColumn, alter, modifiers]
    | some default =>
      have hdefault := hvalue default rfl
      cases nullable <;> simp [templates, plain, alterColumn, alter, modifiers, hdefault]
  | _ => simp [templates, plain, alter]

theorem map_kinds?_templates {job : Job} (h : ∀ v ∈ job.written?, v.literal?.isSome = true) :
    (job.templates.map templateSql).map kinds? =
      (job.templates.map (·.flatMap Slot.kinds)).map some := by
  rw [List.map_map, List.map_map]
  exact List.map_congr_left fun slots hslots => (readable_templates h slots hslots).reads.1

/-- **The texts cannot be broken out of,** whatever the names and the value are: they end outside
of quotes, are read like those for plain names and a plain value, and what is quoted in them are the
names and texts that were asked for. -/
theorem texts_closed {job : Job} (h : ∀ v ∈ job.written?, v.literal?.isSome = true) :
    ∃ texts plainTexts, job.texts = .ok texts ∧ job.plain.texts = .ok plainTexts ∧
      (∀ text ∈ texts, (kinds? text).isSome = true) ∧
      texts.map kinds? = plainTexts.map kinds? ∧
      texts.map quotedIn? = job.payload.map some := by
  have hplain : ∀ v ∈ job.plain.written?, v.literal?.isSome = true := by
    intro v hv
    rw [written?_plain] at hv
    obtain ⟨default, hdefault, rfl⟩ := Option.map_eq_some_iff.mp hv
    exact Value.isSome_literal?_plain (h default hdefault)
  refine ⟨_, _, texts_eq h, texts_eq hplain, ?_, ?_, ?_⟩
  · intro text htext
    obtain ⟨slots, hslots, rfl⟩ := List.mem_map.mp htext
    rw [(readable_templates h slots hslots).reads.1]
    rfl
  · rw [map_kinds?_templates h, map_kinds?_templates hplain, kinds_templates_plain h]
  · rw [← payload_templates, List.map_map, List.map_map]
    exact List.map_congr_left fun slots hslots => (readable_templates h slots hslots).reads.2

/-- Nulls are replaced by a text that tries to end its string, in a column whose name tries to end
its quotes. -/
def awkward : Job :=
  setNullable "dba.or\"ders" "status\\\"=1 --" false (some (.text "it's\\' --"))

theorem texts_closed_awkward :
    awkward.texts = .ok [
      "UPDATE \"dba\".\"orders\" SET \"status=1 --\"='it''s\\\\'' --' " ++
        "WHERE \"status=1 --\" IS NULL",
      "ALTER TABLE \"dba\".\"orders\" ALTER \"status=1 --\" NOT NULL"] ∧
    (∀ v ∈ awkward.written?, v.literal?.isSome = true) ∧
    ∃ texts plainTexts, awkward.texts = .ok texts ∧ awkward.plain.texts = .ok plainTexts ∧
      (∀ text ∈ texts, (kinds? text).isSome = true) ∧
      texts.map kinds? = plainTexts.map kinds? ∧
      texts.map quotedIn? = awkward.payload.map some := by
  have hwritten : ∀ v ∈ awkward.written?, v.literal?.isSome = true := by
    intro v hv
    cases hv
    rfl
  exact ⟨by decide +kernel, hwritten, texts_closed hwritten⟩

end Job

end Schema

end Anywhere
