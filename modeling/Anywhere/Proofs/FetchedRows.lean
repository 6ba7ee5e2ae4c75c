import Anywhere.Client.Script
import Anywhere.Proofs.SessionRun
import Anywhere.Proofs.Transcripts

/-!
# Fetching loses nothing and invents nothing

A result set is put together from columns that are described one by one and from cells that are read
one by one, while the client moves on from row to row. `Reads` says what a result set has to do with
the calls: its names are those of the columns, and its rows are what the columns make of the cells,
in the order of the calls, up to the first fetch that is answered with no.

`Session.query_reads` says that every result of a query is read in this way. So there is no result
that only holds some of it: a cell that is missing, or that its column cannot make anything of,
fails the query.
-/

namespace Anywhere

open Anywhere.Action Anywhere.Operation

variable {σ κ η : Type}

/-- The result is what was read in the calls: the columns as they were described, and as many rows
as were fetched, with the cells as the columns say. No other call has to do with fetching. -/
structure Reads (encoding : Text.Encoding) (calls : List (Event κ η)) (statement : η)
    (columns : List ColumnInfo) (rows : List (List WireValue)) (result : ResultSet) : Prop where
  calls_eq : ∃ before after, calls = before ++
      (Client.descriptionCalls statement columns ++ Client.rowsCalls statement rows) ++ after ∧
    ∀ e ∈ before ++ after, ¬ e.At (· = .fetching)
  columns_eq : result.columns = columns.map ColumnInfo.name
  rows_eq : List.Forall₂ (Decodes encoding columns) rows result.rows

/-! ## Columns and cells on record -/

namespace Client

variable {statement : η} {columns : List ColumnInfo} {rows : List (List WireValue)}

theorem mem_descriptionCalls {e : Event κ η} (he : e ∈ descriptionCalls statement columns) :
    e = ⟨.columnCount statement, some columns.length⟩ ∨
      ∃ i column, columns[i]? = some column ∧ e = ⟨.columnInfo statement i, some column⟩ := by
  rcases List.mem_cons.mp he with rfl | he
  · exact .inl rfl
  · obtain ⟨⟨column, i⟩, hcolumn, rfl⟩ := List.mem_map.mp he
    exact .inr ⟨i, column, List.mem_zipIdx_iff_getElem?.mp hcolumn, rfl⟩

theorem mem_rowsCalls {e : Event κ η} (he : e ∈ rowsCalls statement rows) :
    (∃ more, e = ⟨.fetch statement, more⟩) ∨
      ∃ row ∈ rows, ∃ i cell, row[i]? = some cell ∧ e = ⟨.cell statement i, some cell⟩ := by
  rcases List.mem_append.mp he with he | he
  · obtain ⟨row, hrow, he⟩ := List.mem_flatMap.mp he
    rcases List.mem_cons.mp he with rfl | he
    · exact .inl ⟨true, rfl⟩
    · obtain ⟨⟨cell, i⟩, hcell, rfl⟩ := List.mem_map.mp he
      exact .inr ⟨row, hrow, i, cell, List.mem_zipIdx_iff_getElem?.mp hcell, rfl⟩
  · exact .inl ⟨false, List.mem_singleton.mp he⟩

end Client

namespace Reads

variable {encoding : Text.Encoding} {calls : List (Event κ η)} {statement : η}
  {columns : List ColumnInfo} {rows : List (List WireValue)} {result : ResultSet}

/-- Whatever is called for the rows is among the calls that fetch them. -/
theorem mem_of_at (h : Reads encoding calls statement columns rows result) {e : Event κ η}
    (he : e ∈ calls) (hat : e.At (· = .fetching)) :
    e ∈ Client.descriptionCalls statement columns ∨ e ∈ Client.rowsCalls statement rows := by
  obtain ⟨before, after, rfl, hother⟩ := h.calls_eq
  simp only [List.mem_append] at he hother
  have hnot := hother e
  tauto

/-- A column that was described is that of the result. -/
theorem getElem?_columns (h : Reads encoding calls statement columns rows result) {st : η}
    {i : Nat} {column : ColumnInfo} (he : ⟨.columnInfo st i, some column⟩ ∈ calls) :
    columns[i]? = some column := by
  rcases h.mem_of_at he rfl with he | he
  · rcases Client.mem_descriptionCalls he with heq | ⟨j, column', hcolumn, heq⟩
    · cases heq
    · cases heq
      exact hcolumn
  · rcases Client.mem_rowsCalls he with ⟨_, heq⟩ | ⟨_, _, _, _, _, heq⟩ <;> cases heq

/-- A cell that was read is one of the rows. -/
theorem exists_row (h : Reads encoding calls statement columns rows result) {st : η} {i : Nat}
    {cell : WireValue} (he : ⟨.cell st i, some cell⟩ ∈ calls) :
    ∃ row ∈ rows, row[i]? = some cell := by
  rcases h.mem_of_at he rfl with he | he
  · rcases Client.mem_descriptionCalls he with heq | ⟨_, _, _, heq⟩ <;> cases heq
  · rcases Client.mem_rowsCalls he with ⟨_, heq⟩ | ⟨row, hrow, j, cell', hcell, heq⟩
    · cases heq
    · cases heq
      exact ⟨row, hrow, hcell⟩

/-- Every cell that was read makes a value of the type of its column. -/
theorem not_misread (h : Reads encoding calls statement columns rows result) :
    ¬ Client.Misread encoding calls calls := by
  rintro ⟨st, i, column, cell, fault, hcolumn, hcell, hfails⟩
  have hcolumn' := h.getElem?_columns hcolumn
  obtain ⟨row, hrow, hcell'⟩ := h.exists_row hcell
  obtain ⟨n, hn, rfl⟩ := List.getElem_of_mem hrow
  have hdecodes := h.rows_eq.get hn (h.rows_eq.length_eq ▸ hn)
  -- the row of the result has a value for each column, and so for that of the cell
  have hi : i < columns.length := (List.getElem?_eq_some_iff.mp hcolumn').1
  have hvalue := List.getElem?_eq_getElem (hdecodes.length_row ▸ hi)
  have hread := hdecodes.value_eq i column cell _ hcolumn' hcell' hvalue
  rw [hfails] at hread
  cases hread

end Reads

/-! ## Queries -/

theorem Execution.Transcript.reads {r : Request κ} {values : List Value} {options : RunOptions}
    {result : ResultSet} {calls : List (Event κ η)} (h : Transcript r values options result calls)
    (hfetch : options.fetchRows = true) :
    ∃ statement columns rows, Reads options.encoding calls statement columns rows result := by
  obtain ⟨statement, slots, fetched, count, -, -, hfetched, rfl⟩ := h
  rw [Fetched, if_pos hfetch] at hfetched
  obtain ⟨columns, rows, hcolumns, hrows, rfl⟩ := hfetched
  refine ⟨statement, columns, rows, ⟨⟨.prepare r.connection r.sql, some statement⟩ ::
    (Client.parametersCalls options.encoding statement 0 slots values ++
      [⟨.execute statement, true⟩]), ⟨.affectedRows statement, some count⟩ ::
      ⟨.free statement, ()⟩ ::
        if options.autoCommit then [⟨.commit r.connection, true⟩] else [], by simp, ?_⟩,
    hcolumns, hrows⟩
  refine List.forall_mem_append.mpr ⟨List.forall_mem_cons.mpr ⟨nofun,
    List.forall_mem_append.mpr ⟨fun e he => ?_, by simp [Event.At]⟩⟩, ?_⟩
  · rcases Client.mem_parametersCalls he with ⟨_, _, rfl⟩ | ⟨_, _, rfl⟩ <;> nofun
  · split <;> simp [Event.At]

namespace Session

/-- The calls of a statement explain what comes of it. -/
theorem run_makes_explained (client : Client σ κ η) (sql : String) (values : List Value)
    (fetchRows : Bool) {p : Session κ × σ × List (Event κ η)} (h : p.1.connected = true) :
    Makes record (run client.recorded sql values fetchRows) p fun calls result _ =>
      Execution.Explains ⟨p.1.connection, sql⟩ values (p.1.options fetchRows) calls
        (result.map Outcome.result) := by
  obtain ⟨session, s, log⟩ := p
  obtain ⟨calls, hrecord, hexplains⟩ := Execution.run_explains client ⟨session.connection, sql⟩
    values (session.options fetchRows) (s := (.idle, s, log))
  unfold Makes
  rw [run_of_connected h, client.recorded_run_eq]
  exact ⟨calls, hrecord, hexplains⟩

theorem query_explains (client : Client σ κ η) (sql : String) (values : List Value)
    (session : Session κ) (s : σ) (hconnected : session.connected = true) :
    Execution.Explains ⟨session.connection, sql⟩ values (session.options true)
      (record (query client.recorded sql values (session, s, [])).2).reverse
      (query client.recorded sql values (session, s, [])).1 := by
  obtain ⟨calls, hrecord, hexplains⟩ :=
    run_makes_explained client sql values true (p := (session, s, [])) hconnected
  rw [query_state, ← calls_eq_reverse hrecord, query, map_apply]
  exact hexplains

/-- **Fetching loses nothing and invents nothing.** A query that succeeds has read its result; it
fails, and has no result, exactly if there is a reason: a call failed, as it does when a cell is
missing, or a cell cannot be read, or there was nothing to begin with. -/
theorem query_reads (client : Client σ κ η) (sql : String) (values : List Value)
    (session : Session κ) (s : σ) :
    let made := query client.recorded sql values (session, s, [])
    let calls := (record made.2).reverse
    (∀ result, made.1 = .ok result →
      ∃ statement columns rows, Reads session.encoding calls statement columns rows result) ∧
    ((∃ fault, made.1 = .error fault) ↔
      (∃ e ∈ calls, e.Failed) ∨ Client.Misread session.encoding calls calls ∨
        Client.parameterLimit < values.length ∨ session.connected = false) := by
  dsimp only
  cases hconnected : session.connected with
  | false =>
    rw [query, map_apply, run_of_disconnected hconnected]
    exact ⟨by simp [Except.map], iff_of_true ⟨_, rfl⟩ (.inr (.inr (.inr rfl)))⟩
  | true =>
    have hexplains := query_explains client sql values session s hconnected
    cases hresult : (query client.recorded sql values (session, s, [])).1 with
    | ok result =>
      rw [hresult] at hexplains
      obtain ⟨hfine, htranscript⟩ := hexplains
      obtain ⟨statement, columns, rows, hreads⟩ := htranscript.reads rfl
      obtain ⟨-, -, -, -, hlimit, -⟩ := htranscript
      refine ⟨fun _ h => ?_, iff_of_false (by simp) ?_⟩
      · cases h
        exact ⟨statement, columns, rows, hreads⟩
      · rintro (⟨e, he, hfailed⟩ | hmisread | htoo | hdisconnected)
        · exact hfine e he hfailed
        · exact hreads.not_misread hmisread
        · exact Nat.not_lt.mpr hlimit htoo
        · cases hdisconnected
    | error fault =>
      rw [hresult] at hexplains
      refine ⟨by simp, iff_of_true ⟨fault, rfl⟩ ?_⟩
      rcases hexplains with hfailed | htoo | hmisread
      · exact .inl hfailed
      · exact .inr (.inr (.inl htoo))
      · exact .inr (.inl hmisread)

end Session

/-- Two rows, and no name in the second one. -/
def Script.twoNames : Response :=
  ⟨"", [⟨"id", .int⟩, ⟨"name", .varchar⟩], [[.int 1, .text [97]], [.int 2, .null]], some 0⟩

theorem Session.query_twoNames :
    let made := query Script.client.recorded "SELECT id, name FROM t" []
      ((⟨(), "", .utf8, true, true, 0⟩ : Session Unit), .start [Script.twoNames] [] [], [])
    let result : ResultSet := ⟨["id", "name"], [[.int 1, .text "a"], [.int 2, .null]]⟩
    made.1 = .ok result ∧ ∃ statement columns rows,
      Reads .utf8 (record made.2).reverse statement columns rows result := by
  have hresult : (query Script.client.recorded "SELECT id, name FROM t" []
      ((⟨(), "", .utf8, true, true, 0⟩ : Session Unit), .start [Script.twoNames] [] [], [])).1 =
      .ok ⟨["id", "name"], [[.int 1, .text "a"], [.int 2, .null]]⟩ := by
    decide +kernel
  exact ⟨hresult, (query_reads Script.client "SELECT id, name FROM t" []
    ⟨(), "", .utf8, true, true, 0⟩ (.start [Script.twoNames] [] [])).1 _ hresult⟩

end Anywhere
