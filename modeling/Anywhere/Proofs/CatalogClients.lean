import Anywhere.Proofs.Fetching
import Anywhere.Proofs.RoundTrip
import Anywhere.Proofs.TableCatalog

/-!
# Clients that answer from a catalog

A `CatalogClient` is any client that answers the commands about a table from a catalog. In which
order it lists the indexes of a column, how it represents their names, what it says about affected
rows, and all that it does with other statements is left open. `TableServer.client` is one of them.

What such a client answers to a single call is all that is known of it. What a run comes to follows
from that: `CatalogClient.run_drop` for a statement that takes something away, and
`CatalogClient.run_askIndexes` for the question that has names for an answer.
-/

namespace Anywhere

open Anywhere.Action Schema

variable {σ κ η : Type}

/-! ## Answers -/

/-- How far a statement is that is a command. -/
inductive Schema.Command.Progress where
  | prepared (command : Command)
  /-- It changed the catalog. -/
  | done
  /-- It asked for names: those that are still to be fetched, and the one in the current row. -/
  | answering (left : List String) (current : Option String)

/-- The calls of a run that have no say in what a table has. -/
def Call.isPassive : Call κ η → Bool
  | .prepare .. | .columnCount _ | .columnInfo .. | .fetch _ | .cell .. => true
  | .affectedRows _ | .free _ | .commit _ => true
  | _ => false

/-- A client that answers the commands about a table from a catalog. What a statement is depends on
what a server reads in its text, and a command that cannot be carried out is refused and changes
nothing. -/
structure CatalogClient (client : Client σ κ η) (connection : κ) (encoding : Text.Encoding)
    (table : String) where
  /-- What the table has. -/
  catalog : σ → Catalog
  /-- How far a statement is, if it is a command. -/
  progress : η → σ → Option Command.Progress
  catalog_passive : ∀ (call : Call κ η) s, call.isPassive = true →
    catalog (client.answer call s).2 = catalog s
  prepare : ∀ {sql command} s, Sql.scan sql = some (command.tokens table) →
    ∃ st t, client.answer (.prepare connection sql) s = (some st, t) ∧
      progress st t = some (.prepared command)
  execute : ∀ {st s command}, progress st s = some (.prepared command) →
    (client.answer (.execute st) s).1 = (command.run (catalog s)).isSome ∧
      catalog (client.answer (.execute st) s).2 = (command.run (catalog s)).getD (catalog s)
  /-- The names of the indexes come in some order, each of them once. -/
  execute_askIndexes : ∀ {st s column}, progress st s = some (.prepared (.askIndexes column)) →
    ∃ names, names.Perm ((catalog s).indexesOf column) ∧
      progress st (client.answer (.execute st) s).2 = some (.answering names none)
  execute_drop : ∀ {st s command}, progress st s = some (.prepared command) →
    command.isDrop = true → (command.run (catalog s)).isSome = true →
      progress st (client.answer (.execute st) s).2 = some .done
  /-- An answer has one column, and its cells are text. -/
  columnCount : ∀ {st s left current}, progress st s = some (.answering left current) →
    ∃ t, client.answer (.columnCount st) s = (some 1, t) ∧
      progress st t = some (.answering left current)
  columnInfo : ∀ {st s left current}, progress st s = some (.answering left current) →
    ∃ type t, client.answer (.columnInfo st 0) s = (some ⟨"index_name", type⟩, t) ∧
      type.isCharacter = true ∧ progress st t = some (.answering left current)
  fetch_cons : ∀ {st s name left current},
    progress st s = some (.answering (name :: left) current) →
      ∃ t, client.answer (.fetch st) s = (true, t) ∧
        progress st t = some (.answering left (some name))
  fetch_nil : ∀ {st s current}, progress st s = some (.answering [] current) →
    ∃ t, client.answer (.fetch st) s = (false, t) ∧ progress st t = some (.answering [] none)
  cell : ∀ {st s left name}, progress st s = some (.answering left (some name)) →
    ∃ bytes t, client.answer (.cell st 0) s = (some (.text bytes), t) ∧
      encoding.decode bytes = name ∧ progress st t = some (.answering left (some name))
  /-- What was executed has a number of affected rows, whatever it is. -/
  affectedRows_done : ∀ {st s}, progress st s = some .done →
    (client.answer (.affectedRows st) s).1.isSome = true
  affectedRows_answering : ∀ {st s left current}, progress st s = some (.answering left current) →
    (client.answer (.affectedRows st) s).1.isSome = true
  commit : ∀ s, (client.answer (.commit connection) s).1 = true

/-! ### A server of one table -/

/-- What a command comes to that can be carried out. -/
def Schema.Command.outcome (catalog : Catalog) : Command → Command.Progress
  | .askIndexes column => .answering (catalog.indexesOf column) none
  | _ => .done

namespace TableServer

/-- What the table has, and how far the only statement is. -/
structure State where
  catalog : Catalog
  progress : Option Command.Progress

namespace State

/-- Prepares a command. There are no other statements. -/
def prepare (table sql : String) (s : State) : Option Unit × State :=
  match Command.ofText? table sql with
  | some command => (some (), { s with progress := some (.prepared command) })
  | none => (none, s)

/-- Carries out the command that was prepared, if the catalog allows it. -/
def execute (s : State) : Bool × State :=
  match s.progress with
  | some (.prepared command) =>
    match command.run s.catalog with
    | some after => (true, ⟨after, some (command.outcome s.catalog)⟩)
    | none => (false, s)
  | _ => (false, s)

/-- Goes on to the next name. -/
def fetch (s : State) : Bool × State :=
  match s.progress with
  | some (.answering (name :: left) _) =>
    (true, { s with progress := some (.answering left (some name)) })
  | some (.answering [] _) => (false, { s with progress := some (.answering [] none) })
  | _ => (false, s)

/-- The number of columns of a statement that was executed. -/
def columnCount? (s : State) : Option Nat :=
  match s.progress with
  | some (.answering ..) => some 1
  | some .done => some 0
  | _ => none

/-- The only cell of the current row. -/
def cell? (s : State) : Nat → Option WireValue
  | 0 => match s.progress with
    | some (.answering _ (some name)) => some (.text (Text.Encoding.utf8.encode name))
    | _ => none
  | _ => none

/-- The names that are still to be fetched. -/
def pending (s : State) : Nat :=
  match s.progress with
  | some (.answering left _) => left.length
  | _ => 0

/-- The answer to a call. -/
def answer (table : String) : (call : Call Unit Unit) → State → call.Reply × State
  | .init, s => (true, s)
  | .fini, s => ((), s)
  | .newConnection, s => (some (), s)
  | .connect .., s => (true, s)
  | .disconnect _, s => ((), s)
  | .executeImmediate .., s => (false, s)
  | .prepare _ sql, s => s.prepare table sql
  | .describe .., s => (none, s)
  | .bind .., s => (false, s)
  | .execute _, s => s.execute
  | .columnCount _, s => (s.columnCount?, s)
  | .columnInfo _ index, s => (if index = 0 then some ⟨"index_name", .varchar⟩ else none, s)
  | .fetch _, s => s.fetch
  | .cell _ index, s => (s.cell? index, s)
  | .affectedRows _, s => (s.columnCount?, s)
  | .free _, s => ((), { s with progress := none })
  | .commit _, s => (true, s)
  | .rollback _, s => (true, s)
  | .lastError _, s => (⟨-1, "refused"⟩, s)

theorem pending_fetch (s : State) (h : s.fetch.1 = true) : s.fetch.2.pending < s.pending := by
  obtain ⟨catalog, progress⟩ := s
  match progress, h with
  | some (.answering (_ :: left) _), _ => exact Nat.lt_succ_self left.length

end State

/-- The client of a server that has one table and nothing else. -/
def client (table : String) : Client State Unit Unit where
  answer := State.answer table
  pending _ := State.pending
  pending_fetch _ := State.pending_fetch
  pending_cell _ _ _ := Nat.le_refl _

/-- It answers from the catalog that it keeps. -/
def catalogClient (table : String) : CatalogClient (client table) () .utf8 table where
  catalog := State.catalog
  progress _ := State.progress
  catalog_passive call s hpassive := by
    cases call with
    | prepare _ sql =>
      change (s.prepare table sql).2.catalog = s.catalog
      unfold State.prepare
      split <;> rfl
    | fetch _ =>
      change s.fetch.2.catalog = s.catalog
      unfold State.fetch
      split <;> rfl
    | _ => first | rfl | exact absurd hpassive Bool.false_ne_true
  prepare {_ command} s hsql := by
    refine ⟨(), { s with progress := some (.prepared command) }, ?_, rfl⟩
    change s.prepare table _ = _
    rw [State.prepare, Command.ofText?_of_scan hsql]
  execute {_ s command} hprogress := by
    change s.execute.1 = _ ∧ s.execute.2.catalog = _
    rw [State.execute, hprogress]
    cases hrun : command.run s.catalog <;> simp [hrun]
  execute_askIndexes {_ s column} hprogress := by
    refine ⟨s.catalog.indexesOf column, .refl _, ?_⟩
    change s.execute.2.progress = _
    rw [State.execute, hprogress]
    rfl
  execute_drop {_ s command} hprogress hdrop hrun := by
    change s.execute.2.progress = _
    rw [State.execute, hprogress]
    obtain ⟨after, hafter⟩ := Option.isSome_iff_exists.mp hrun
    cases command with
    | askIndexes _ => exact absurd hdrop Bool.false_ne_true
    | dropIndex _ => simp [hafter, Command.outcome]
    | dropColumn _ => simp [hafter, Command.outcome]
  columnCount {_ s _ _} hprogress := by
    refine ⟨s, ?_, hprogress⟩
    change (s.columnCount?, s) = _
    rw [State.columnCount?, hprogress]
  columnInfo {_ s _ _} hprogress := ⟨.varchar, s, rfl, by decide, hprogress⟩
  fetch_cons {_ s name left _} hprogress := by
    refine ⟨{ s with progress := some (.answering left (some name)) }, ?_, rfl⟩
    change s.fetch = _
    rw [State.fetch, hprogress]
  fetch_nil {_ s _} hprogress := by
    refine ⟨{ s with progress := some (.answering [] none) }, ?_, rfl⟩
    change s.fetch = _
    rw [State.fetch, hprogress]
  cell {_ s _ name} hprogress := by
    refine ⟨Text.Encoding.utf8.encode name, s, ?_, Text.Encoding.decode_encode trivial, hprogress⟩
    change (s.cell? 0, s) = _
    rw [State.cell?, hprogress]
  affectedRows_done {_ s} hprogress := by
    change s.columnCount?.isSome = true
    rw [State.columnCount?, hprogress]
    rfl
  affectedRows_answering {_ s _ _} hprogress := by
    change s.columnCount?.isSome = true
    rw [State.columnCount?, hprogress]
    rfl
  commit _ := rfl

end TableServer

/-! ## Runs -/

/-- What a run comes to that went well and holds nothing any more. -/
theorem Client.run_of_drive_ok {client : Client σ κ η} {r : Request κ} {values : List Value}
    {options : RunOptions} {s : σ} {result : ResultSet} {p : Execution η × σ}
    (h : Execution.drive client r values options (.idle, s) = (.ok result, p))
    (hnone : p.1.statement = none) :
    client.run r values options s = (.ok ⟨result, p.1.affectedRows⟩, p.2) := by
  rw [Client.run, Execution.run_of_drive_ok h]
  dsimp only
  rw [Execution.free_of_none hnone]

/-- A statement without rows that is prepared and executed needs to be counted and ended only. -/
theorem Execution.drive_of_executed {client : Client σ κ η} {r : Request κ} {autoCommit : Bool}
    {encoding : Text.Encoding} {statement : η} {s s₁ s₂ : σ}
    (hprepare : client.answer (.prepare r.connection r.sql) s = (some statement, s₁))
    (hexecute : client.answer (.execute statement) s₁ = (true, s₂)) :
    drive client r [] ⟨autoCommit, encoding, false⟩ (.idle, s) =
      (do countAffected client r; finish client r autoCommit; pure ResultSet.empty)
        (⟨.executed, some statement, 0⟩, s₂) := by
  simp [drive, prepare, bind, execute, requireStatement, enter, idle, bind_apply, Operation.ask,
    Operation.ofAction, Operation.update, Operation.track, ask, require, check, hprepare, hexecute,
    Client.bindAll, Client.bindFrom]

namespace CatalogClient

variable {client : Client σ κ η} {connection : κ} {encoding : Text.Encoding} {table : String}
  (server : CatalogClient client connection encoding table)

theorem catalog_of_answer {call : Call κ η} {reply : call.Reply} {s t : σ}
    (h : client.answer call s = (reply, t)) (hpassive : call.isPassive = true) :
    server.catalog t = server.catalog s := by
  rw [← server.catalog_passive call s hpassive, h]

/-- What is left to do behind the rows goes well and leaves the catalog alone. -/
theorem run_of_rest {sql : String} {values : List Value} {options : RunOptions} {phase : Phase}
    {statement : η} {s t : σ} {result : ResultSet}
    (hdrive : Execution.drive client ⟨connection, sql⟩ values options (.idle, s) =
      (do Execution.countAffected client ⟨connection, sql⟩
          Execution.finish client ⟨connection, sql⟩ options.autoCommit
          pure result) (⟨phase, some statement, 0⟩, t))
    (hcount : (client.answer (.affectedRows statement) t).1.isSome = true) :
    ∃ count u, client.run ⟨connection, sql⟩ values options s = (.ok ⟨result, count⟩, u) ∧
      server.catalog u = server.catalog t := by
  rcases hcounted : client.answer (.affectedRows statement) t with ⟨_ | count, t₁⟩
  · simp [hcounted] at hcount
  rcases hfreed : client.answer (.free statement) t₁ with ⟨⟨⟩, t₂⟩
  rcases hcommitted : client.answer (.commit connection) t₂ with ⟨committed, t₃⟩
  have htrue : committed = true := by
    rw [← server.commit t₂, hcommitted]
  have hcatalog₂ := (server.catalog_of_answer hfreed rfl).trans
    (server.catalog_of_answer hcounted rfl)
  have hcatalog₃ := (server.catalog_of_answer hcommitted rfl).trans hcatalog₂
  rw [bind_apply, Execution.countAffected_of_some _ phase 0 hcounted] at hdrive
  dsimp only at hdrive
  rw [bind_apply, Execution.finish, bind_apply, Execution.free_of_open phase count hfreed] at hdrive
  cases hauto : options.autoCommit with
  | false =>
    rw [hauto] at hdrive
    exact ⟨count, t₂, Client.run_of_drive_ok hdrive rfl, hcatalog₂⟩
  | true =>
    have hend : Execution.drive client ⟨connection, sql⟩ values options (.idle, s) =
        (.ok result, (⟨.committed, none, count⟩, t₃)) := by
      rw [hdrive]
      simp [bind_apply, Operation.ask, Operation.ofAction, Operation.update, ask, check,
        Execution.enter, hauto, hcommitted, htrue]
    exact ⟨count, t₃, Client.run_of_drive_ok hend rfl, hcatalog₃⟩

/-- A statement that takes away what it can is carried out. -/
theorem run_drop {sql : String} {command : Command} {s : σ} {after : Catalog} (autoCommit : Bool)
    (hsql : Sql.scan sql = some (command.tokens table)) (hdrop : command.isDrop = true)
    (hrun : command.run (server.catalog s) = some after) :
    ∃ outcome t, client.run ⟨connection, sql⟩ [] ⟨autoCommit, encoding, false⟩ s =
        (.ok outcome, t) ∧
      server.catalog t = after := by
  obtain ⟨statement, s₁, hprepare, hprepared⟩ := server.prepare s hsql
  rw [← server.catalog_of_answer hprepare rfl] at hrun
  obtain ⟨hreply, hcatalog⟩ := server.execute hprepared
  have hdone := server.execute_drop hprepared hdrop (by rw [hrun]; rfl)
  rcases hexecute : client.answer (.execute statement) s₁ with ⟨reply, s₂⟩
  rw [hexecute] at hreply hcatalog hdone
  rw [hrun] at hreply hcatalog
  cases hreply
  obtain ⟨count, t, hran, hkept⟩ := server.run_of_rest
    (Execution.drive_of_executed hprepare hexecute) (server.affectedRows_done hdone)
  exact ⟨_, t, hran, hkept.trans hcatalog⟩

/-! ### Names that are asked for -/

theorem columns_eq {r : Request κ} {statement : η} {s : σ} {left : List String}
    {current : Option String}
    (h : server.progress statement s = some (.answering left current)) :
    ∃ type t, client.columns r statement s = (.ok [⟨"index_name", type⟩], t) ∧
      type.isCharacter = true ∧ server.catalog t = server.catalog s ∧
      server.progress statement t = some (.answering left current) := by
  obtain ⟨s₁, hcount, h₁⟩ := server.columnCount h
  obtain ⟨type, s₂, hinfo, htype, h₂⟩ := server.columnInfo h₁
  refine ⟨type, s₂, ?_, htype, (server.catalog_of_answer hinfo rfl).trans
    (server.catalog_of_answer hcount rfl), h₂⟩
  simp [Client.columns, Client.columnsFrom, bind_apply, ask, require, hcount, hinfo]

/-- The names that are left are delivered, one in each row. -/
theorem delivers {r : Request κ} {statement : η} {type : NativeType} {names : List String} {s : σ}
    {current : Option String} (htype : type.isCharacter = true)
    (h : server.progress statement s = some (.answering names current)) :
    ∃ t last, client.Delivers r encoding [⟨"index_name", type⟩] statement s
        (names.map fun name => [.text name]) t ∧
      server.progress statement t = some (.answering [] last) ∧
      server.catalog t = server.catalog s := by
  -- one turn of the loop for each name
  induction names generalizing s current with
  | nil => exact ⟨s, current, .done s, h, rfl⟩
  | cons name rest ih =>
    obtain ⟨s₁, hfetch, h₁⟩ := server.fetch_cons h
    obtain ⟨bytes, s₂, hcell, hname, h₂⟩ := server.cell h₁
    obtain ⟨t, last, hrest, hlast, hcatalog⟩ := ih h₂
    have hread : client.cellsFrom r encoding statement 0 [⟨"index_name", type⟩] s₁ =
        (.ok [.text name], s₂) := by
      simp [Client.cellsFrom, bind_apply, map_apply, ask, require, Action.ofExcept, Except.map,
        hcell, WireValue.toValue_character htype, hname]
    exact ⟨t, last, .row hfetch hread hrest, hlast, hcatalog.trans
      ((server.catalog_of_answer hcell rfl).trans (server.catalog_of_answer hfetch rfl))⟩

theorem textsOf_names (names : List String) :
    textsOf ⟨["index_name"], names.map fun name => [.text name]⟩ "index_name" = names := by
  have hindex : (ResultSet.mk ["index_name"] (names.map fun name => [.text name])).columnIndex?
      "index_name" = some 0 := by
    rfl
  simp [textsOf, ResultSet.column, hindex, List.filterMap_map, Function.comp_def, textOfCell]

/-- The question for the indexes of a column is answered from the catalog, which stays. -/
theorem run_askIndexes (column : String) (autoCommit : Bool) (s : σ) :
    ∃ outcome t, client.run ⟨connection, indexesOfColumn table column⟩ []
        ⟨autoCommit, encoding, true⟩ s = (.ok outcome, t) ∧
      (textsOf outcome.result "index_name").Perm ((server.catalog s).indexesOf column) ∧
      server.catalog t = server.catalog s := by
  obtain ⟨statement, s₁, hprepare, hprepared⟩ :=
    server.prepare s (Command.scan_indexesOfColumn table column)
  obtain ⟨hreply, hcatalog⟩ := server.execute hprepared
  obtain ⟨names, hnames, hanswering⟩ := server.execute_askIndexes hprepared
  rcases hexecute : client.answer (.execute statement) s₁ with ⟨reply, s₂⟩
  rw [hexecute] at hreply hcatalog hanswering
  cases hreply
  obtain ⟨type, s₃, hcolumns, htype, hcatalog₃, hopened⟩ := server.columns_eq hanswering
  obtain ⟨s₄, last, hdelivers, hlast, hcatalog₄⟩ := server.delivers htype hopened
  obtain ⟨s₅, hend, hended⟩ := server.fetch_nil hlast
  let fetched : FetchedRun client ⟨connection, indexesOfColumn table column⟩ encoding [] s :=
    { statement, columns := [⟨"index_name", type⟩], rows := names.map fun name => [.text name],
      prepared := s₁, bound := s₁, executed := s₂, opened := s₃, fetched := s₄, ended := s₅,
      prepare_eq := hprepare, bind_eq := rfl, execute_eq := hexecute, columns_eq := hcolumns,
      delivers := hdelivers, fetch_eq := hend }
  obtain ⟨count, t, hran, hkept⟩ := server.run_of_rest (fetched.drive_eq autoCommit)
    (server.affectedRows_answering hended)
  have hprepared_catalog := server.catalog_of_answer hprepare rfl
  refine ⟨_, t, hran, ?_, ?_⟩
  · rw [← hprepared_catalog]
    exact (textsOf_names names).symm ▸ hnames
  · rw [hkept, server.catalog_of_answer hend rfl, hcatalog₄, hcatalog₃, ← hprepared_catalog]
    exact hcatalog

end CatalogClient

end Anywhere
