import Anywhere.Proofs.CatalogClients

/-!
# Columns are removed behind their indexes

A server does not remove a column as long as an index has need of it, and it does not remove an
index twice. The session asks for the indexes of one column at a time, so what it is told depends
on what it did for the columns before: an index of two columns is gone when the second one has its
turn.

`CatalogClient.Turns` follows what the table has along the steps of a session: one rule for each
statement, and one for each of the two loops. From them follows `Session.removeColumns_catalog`:
removing columns works, takes away what it must and nothing else.
-/

namespace Anywhere

open Anywhere.Action Schema

variable {σ κ η α β : Type}

/-! ## Steps of a session -/

namespace CatalogClient

variable {client : Client σ κ η} {session : Session κ} {table : String}
  (server : CatalogClient client session.connection session.encoding table)

/-- From one catalog the step always succeeds, and leads to the other one. Of the session it changes
nothing but the number of affected rows. -/
def Turns (x : Session.Step σ κ α) (before after : Catalog) (Q : α → Prop) : Prop :=
  ∀ n s, server.catalog s = before → ∃ a m t,
    x ({ session with affectedRows := n }, s) = (.ok a, ({ session with affectedRows := m }, t)) ∧
      server.catalog t = after ∧ Q a

variable {server} {x : Session.Step σ κ α} {f : α → Session.Step σ κ β}
  {before between after : Catalog} {P : α → Prop} {Q : β → Prop}

theorem Turns.pure {a : α} (h : P a) : server.Turns (pure a) before before P :=
  fun n s hs => ⟨a, n, s, rfl, hs, h⟩

theorem Turns.bind (hx : server.Turns x before between P)
    (hf : ∀ a, P a → server.Turns (f a) between after Q) :
    server.Turns (x >>= f) before after Q := by
  intro n s hs
  obtain ⟨a, m, t, hx, ht, hP⟩ := hx n s hs
  obtain ⟨b, l, u, hf, hu, hQ⟩ := hf a hP m t ht
  refine ⟨b, l, u, ?_, hu, hQ⟩
  rw [bind_apply, hx]
  exact hf

theorem Turns.map {g : α → β} (hx : server.Turns x before after P) (hg : ∀ a, P a → Q (g a)) :
    server.Turns (g <$> x) before after Q := by
  intro n s hs
  obtain ⟨a, m, t, hx, ht, hP⟩ := hx n s hs
  refine ⟨g a, m, t, ?_, ht, hg a hP⟩
  rw [map_apply, hx]
  rfl

/-- A statement of a session does what the run behind it does. -/
theorem turns_run {sql : String} {values : List Value} {fetchRows : Bool}
    {Q : Outcome → Prop} (hconnected : session.connected = true)
    (h : ∀ s, server.catalog s = before → ∃ outcome t,
      client.run ⟨session.connection, sql⟩ values (session.options fetchRows) s =
        (.ok outcome, t) ∧ server.catalog t = after ∧ Q outcome) :
    server.Turns (Session.run client sql values fetchRows) before after Q := by
  intro n s hs
  obtain ⟨outcome, t, hrun, ht, hQ⟩ := h s hs
  refine ⟨outcome, outcome.affectedRows, t, ?_, ht, hQ⟩
  have hsame : client.run ⟨{ session with affectedRows := n }.connection, sql⟩ values
      ({ session with affectedRows := n }.options fetchRows) s = (.ok outcome, t) := hrun
  refine (Session.run_of_connected ?_).trans ?_
  · exact hconnected
  · rw [hsame]
    rfl

theorem turns_askIndexes (hconnected : session.connected = true) (column : String)
    (catalog : Catalog) :
    server.Turns (Session.query client (indexesOfColumn table column) []) catalog catalog
      fun result => (textsOf result "index_name").Perm (catalog.indexesOf column) := by
  refine Turns.map (P := fun outcome => (textsOf outcome.result "index_name").Perm
    (catalog.indexesOf column)) (turns_run hconnected ?_) fun _ h => h
  rintro s rfl
  obtain ⟨outcome, t, hrun, hnames, hcatalog⟩ :=
    server.run_askIndexes column session.autoCommit s
  exact ⟨outcome, t, hrun, hcatalog, hnames⟩

theorem turns_change (hconnected : session.connected = true) {statement : Statement}
    {command : Command} (hsql : Sql.scan statement.sql = some (command.tokens table))
    (hdrop : command.isDrop = true) (hrun : command.run before = some after) :
    server.Turns (Session.change client statement) before after fun _ => True := by
  have hexecute : server.Turns (Session.execute client statement.sql) before after
      fun _ => True := by
    refine Turns.map (P := fun _ => True) (turns_run hconnected ?_) fun _ _ => trivial
    rintro s rfl
    obtain ⟨outcome, t, hran, hcatalog⟩ := server.run_drop session.autoCommit hsql hdrop hrun
    exact ⟨outcome, t, hran, hcatalog, trivial⟩
  exact hexecute.bind fun _ _ => Turns.pure trivial

/-! ### Loops -/

/-- Indexes that are there are removed, one after the other. -/
theorem turns_removeIndexes (hconnected : session.connected = true) (htable : Name.Clean table)
    {names : List String} {catalog : Catalog} (hnodup : names.Nodup)
    (hmem : ∀ name ∈ names, name ∈ catalog.indexes.map (·.name))
    (hclean : ∀ name ∈ names, Name.Clean name) :
    server.Turns (names.forM (Session.removeIndex client table)) catalog
      (catalog.filterIndexes (·.name ∉ names)) fun _ => True := by
  induction names generalizing catalog with
  | nil =>
    have hall : catalog.filterIndexes (·.name ∉ ([] : List String)) = catalog := by
      ext1 <;> simp [Catalog.filterIndexes]
    rw [hall]
    exact Turns.pure trivial
  | cons name rest ih =>
    obtain ⟨hname, hrest⟩ := List.nodup_cons.mp hnodup
    rw [List.forall_mem_cons] at hmem hclean
    have hrun : (Command.dropIndex name).run catalog =
        some (catalog.filterIndexes (·.name ≠ name)) := if_pos hmem.1
    -- the others are still there, as they have other names
    have hstill : ∀ other ∈ rest,
        other ∈ (catalog.filterIndexes (·.name ≠ name)).indexes.map (·.name) := by
      intro other hother
      obtain ⟨index, hindex, rfl⟩ := List.mem_map.mp (hmem.2 other hother)
      refine List.mem_map.mpr ⟨index, List.mem_filter.mpr ⟨hindex, ?_⟩, rfl⟩
      exact decide_eq_true fun heq => hname (heq ▸ hother)
    have htwice : catalog.filterIndexes (·.name ∉ name :: rest) =
        (catalog.filterIndexes (·.name ≠ name)).filterIndexes (·.name ∉ rest) := by
      rw [Catalog.filterIndexes_filterIndexes]
      exact Catalog.filterIndexes_congr fun index _ => by simp
    rw [htwice]
    exact (turns_change hconnected (Command.scan_dropIndex htable hclean.1) rfl hrun).bind
      fun _ _ => ih hrest hstill hclean.2

/-- A column is removed, together with its indexes. -/
theorem turns_removeColumn (hconnected : session.connected = true) (htable : Name.Clean table)
    {column : String} {catalog : Catalog} (hcolumn : Name.Clean column)
    (hmem : column ∈ catalog.columns) (hclean : ∀ index ∈ catalog.indexes, Name.Clean index.name) :
    server.Turns (Session.removeColumn client table column) catalog (catalog.without [column])
      fun _ => True := by
  refine (turns_askIndexes hconnected column catalog).bind fun result hnames => ?_
  have hnodup := hnames.nodup_iff.mpr (catalog.nodup_indexesOf column)
  have hthere : ∀ name ∈ textsOf result "index_name", name ∈ catalog.indexes.map (·.name) :=
    fun name hname => Catalog.mem_names_of_mem_indexesOf (hnames.mem_iff.mp hname)
  have hcleans : ∀ name ∈ textsOf result "index_name", Name.Clean name := by
    intro name hname
    obtain ⟨index, hindex, rfl⟩ := List.mem_map.mp (hthere name hname)
    exact hclean index hindex
  refine (turns_removeIndexes hconnected htable hnodup hthere hcleans).bind fun _ _ => ?_
  refine turns_change hconnected (Command.scan_dropColumn htable hcolumn) rfl ?_
  have hwanted : catalog.filterIndexes (·.name ∉ textsOf result "index_name") =
      catalog.filterIndexes (·.name ∉ catalog.indexesOf column) :=
    Catalog.filterIndexes_congr fun index _ => by simp [hnames.mem_iff]
  rw [hwanted]
  exact Catalog.dropColumn?_filterIndexes hmem

theorem turns_removeColumns (hconnected : session.connected = true) (htable : Name.Clean table)
    {columns : List String} {catalog : Catalog} (hnodup : columns.Nodup)
    (hmem : ∀ column ∈ columns, column ∈ catalog.columns)
    (hcolumns : ∀ column ∈ columns, Name.Clean column)
    (hindexes : ∀ index ∈ catalog.indexes, Name.Clean index.name) :
    server.Turns (columns.forM (Session.removeColumn client table)) catalog
      (catalog.without columns) fun _ => True := by
  induction columns generalizing catalog with
  | nil =>
    have hall : catalog.without [] = catalog := by
      ext1 <;> simp [Catalog.without, Catalog.filterIndexes]
    rw [hall]
    exact Turns.pure trivial
  | cons column rest ih =>
    obtain ⟨hcolumn, hrest⟩ := List.nodup_cons.mp hnodup
    rw [List.forall_mem_cons] at hmem hcolumns
    have hstill : ∀ other ∈ rest, other ∈ (catalog.without [column]).columns := by
      intro other hother
      refine List.mem_filter.mpr ⟨hmem.2 other hother, decide_eq_true fun heq => ?_⟩
      exact hcolumn (List.mem_singleton.mp heq ▸ hother)
    have hcleans : ∀ index ∈ (catalog.without [column]).indexes, Name.Clean index.name :=
      fun index hindex => hindexes index (List.mem_of_mem_filter hindex)
    rw [← catalog.without_without]
    exact (turns_removeColumn hconnected htable hcolumns.1 hmem.1 hindexes).bind
      fun _ _ => ih hrest hstill hcolumns.2 hcleans

end CatalogClient

/-- **Removing columns takes away what it must, and nothing else.** Afterwards the table has the
columns that were not listed, and the indexes that had no listed member. -/
theorem Session.removeColumns_catalog {client : Client σ κ η} {session : Session κ}
    {table : String} (server : CatalogClient client session.connection session.encoding table)
    {columns : List String} {s : σ} (hconnected : session.connected = true) (hsome : columns ≠ [])
    (hnodup : columns.Nodup) (hmem : ∀ column ∈ columns, column ∈ (server.catalog s).columns)
    (htable : Name.Clean table) (hcolumns : ∀ column ∈ columns, Name.Clean column)
    (hindexes : ∀ index ∈ (server.catalog s).indexes, Name.Clean index.name) :
    ∃ n t, removeColumns client table columns (session, s) =
        (.ok (), ({ session with affectedRows := n }, t)) ∧
      (server.catalog t).columns = (server.catalog s).columns.filter (· ∉ columns) ∧
      (server.catalog t).indexes = (server.catalog s).indexes.filter fun index =>
        ∀ column ∈ columns, column ∉ index.members := by
  obtain ⟨⟨⟩, n, t, hloop, hcatalog, -⟩ := CatalogClient.turns_removeColumns hconnected htable
    hnodup hmem hcolumns hindexes session.affectedRows s rfl
  refine ⟨n, t, ?_, by rw [hcatalog]; rfl, by rw [hcatalog]; rfl⟩
  have hguard : columns.isEmpty = false := by simpa using hsome
  rw [removeColumns, hguard]
  exact hloop

/-- Two of the columns share an index. -/
def staff : Catalog where
  columns := ["id", "name", "city"]
  indexes := [⟨"by_id", ["id"]⟩, ⟨"by_name", ["name", "city"]⟩, ⟨"by_city", ["city"]⟩]

def staffSession : Session Unit := ⟨(), "", .utf8, true, true, 0⟩

/-- With the first of them goes the index, so that there is nothing in the way of the second. -/
theorem Session.removeColumns_staff :
    ∃ n t, removeColumns (TableServer.client "staff") "staff" ["city", "name"]
        (staffSession, ⟨staff, none⟩) =
        (.ok (), ({ staffSession with affectedRows := n }, t)) ∧
      t.catalog.columns = ["id"] ∧ t.catalog.indexes = [⟨"by_id", ["id"]⟩] := by
  let server : CatalogClient (TableServer.client "staff") staffSession.connection
    staffSession.encoding "staff" := TableServer.catalogClient "staff"
  have hmem : ∀ column ∈ ["city", "name"], column ∈ staff.columns := by decide
  have hcolumns : ∀ column ∈ ["city", "name"], Name.Clean column := by decide
  have hindexes : ∀ index ∈ staff.indexes, Name.Clean index.name := by decide
  obtain ⟨n, t, hremove, hleft, hkept⟩ := removeColumns_catalog server
    (s := (⟨staff, none⟩ : TableServer.State)) rfl (List.cons_ne_nil _ _) (by decide) hmem
    (by decide) hcolumns hindexes
  exact ⟨n, t, hremove, hleft, hkept⟩

end Anywhere
