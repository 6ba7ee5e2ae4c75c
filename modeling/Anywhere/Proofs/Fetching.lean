import Anywhere.Client.Script
import Anywhere.Proofs.SessionRun

/-!
# Where the rows of a query end

A fetch that is answered with no ends the rows, and nobody asks the client why. It may be that the
cursor has none left, or that the connection broke down in the middle of them: in both cases the run
goes on with the rows it has. `Client.rows_of_delivers` says so for the loop, and
`FetchedRun.run_eq_ok` for a whole run, in which no word about the last error occurs.

A cursor that breaks off is therefore noticed only if something behind it fails, too.
`Session.query_brokenFetch` says exactly when that is: when the number of affected rows is refused,
or when the transaction is to be committed and cannot be. Otherwise the rows in front of the break
pass for all rows.
-/

namespace Anywhere

open Anywhere.Action

variable {σ κ η : Type}

/-! ## Rows that are delivered -/

namespace Client

section Delivers

variable (client : Client σ κ η) (r : Request κ) (encoding : Text.Encoding)
  (columns : List ColumnInfo) (statement : η)

/-- From the first state on, the rows are fetched one after the other, which leads to the second
state. Whether there are more of them is left open. -/
inductive Delivers : σ → List (List Value) → σ → Prop where
  | done (s : σ) : Delivers s [] s
  | row {s s₁ s₂ t : σ} {row : List Value} {rows : List (List Value)} :
      client.answer (.fetch statement) s = (true, s₁) →
      client.cellsFrom r encoding statement 0 columns s₁ = (.ok row, s₂) →
      Delivers s₂ rows t → Delivers s (row :: rows) t

end Delivers

variable {client : Client σ κ η} {r : Request κ} {encoding : Text.Encoding}
  {columns : List ColumnInfo} {statement : η}

/-- **The rows are those in front of the first fetch that is answered with no,** whatever the client
has to say about that fetch. -/
theorem rows_of_delivers {s t u : σ} {rows : List (List Value)}
    (h : client.Delivers r encoding columns statement s rows t)
    (hend : client.answer (.fetch statement) t = (false, u)) :
    client.rows r encoding columns statement s = (.ok rows, u) := by
  -- one turn of the loop for each row that is delivered
  induction h with
  | done s =>
    rw [rows_eq_bind, bind_apply, ask, hend]
    rfl
  | row hfetch hread _ ih =>
    rw [rows_eq_bind, bind_apply, ask, hfetch]
    dsimp only
    rw [if_pos rfl, bind_apply, hread]
    refine (bind_apply (client.rows r encoding columns statement) _ _).trans ?_
    rw [ih hend]
    rfl

end Client

/-! ## Cursors -/

/-- Tells how many rows the cursor of a statement holds: a fetch that succeeds takes one of them,
and reading cells takes none. -/
structure Cursor (client : Client σ κ η) where
  left : η → σ → Nat
  left_fetch : ∀ statement s, (client.answer (.fetch statement) s).1 = true →
    left statement (client.answer (.fetch statement) s).2 + 1 = left statement s
  left_cell : ∀ statement index s,
    left statement (client.answer (.cell statement index) s).2 = left statement s

namespace Cursor

variable {client : Client σ κ η} (cursor : Cursor client) {r : Request κ}
  {encoding : Text.Encoding} {statement : η}

theorem left_cellsFrom {index : Nat} {columns : List ColumnInfo} {s s' : σ} {row : List Value}
    (h : client.cellsFrom r encoding statement index columns s = (.ok row, s')) :
    cursor.left statement s' = cursor.left statement s := by
  induction columns generalizing index s row with
  | nil =>
    cases h
    rfl
  | cons column rest ih =>
    obtain ⟨reply, s₁, asked, h⟩ := bind_eq_ok.1 h
    obtain ⟨cell, s₂, there, h⟩ := bind_eq_ok.1 h
    obtain ⟨value, s₃, read, h⟩ := bind_eq_ok.1 h
    obtain ⟨others, s₄, more, h⟩ := bind_eq_ok.1 h
    obtain ⟨_, rfl⟩ := pure_eq_ok.1 h
    have hasked : (client.answer (.cell statement index) s).2 = s₁ := congrArg Prod.snd asked
    have hthere : s₂ = s₁ := client.state_require r there
    have hread : s₂ = s₃ := congrArg Prod.snd read
    rw [ih more, ← hread, hthere, ← hasked]
    exact cursor.left_cell statement index s

/-- What was delivered is what the cursor held in the beginning and does not hold any more. -/
theorem left_of_delivers {columns : List ColumnInfo} {s t : σ} {rows : List (List Value)}
    (h : client.Delivers r encoding columns statement s rows t) :
    rows.length + cursor.left statement t = cursor.left statement s := by
  induction h with
  | done s => exact Nat.zero_add _
  | @row s s₁ s₂ t row rows hfetch hread _ ih =>
    have htaken := cursor.left_fetch statement s (congrArg Prod.fst hfetch)
    have hcells := cursor.left_cellsFrom hread
    rw [show (client.answer (.fetch statement) s).2 = s₁ from congrArg Prod.snd hfetch] at htaken
    rw [List.length_cons]
    omega

end Cursor

/-! ## Runs that get to the end of their rows -/

/-- A run from the state `s` on that prepares, binds and executes its statement and fetches rows
until that is answered with no. -/
structure FetchedRun (client : Client σ κ η) (r : Request κ) (encoding : Text.Encoding)
    (values : List Value) (s : σ) where
  statement : η
  columns : List ColumnInfo
  rows : List (List Value)
  prepared : σ
  bound : σ
  executed : σ
  opened : σ
  fetched : σ
  /-- The state behind the last fetch. -/
  ended : σ
  prepare_eq : client.answer (.prepare r.connection r.sql) s = (some statement, prepared)
  bind_eq : client.bindAll r encoding statement values prepared = (.ok (), bound)
  execute_eq : client.answer (.execute statement) bound = (true, executed)
  columns_eq : client.columns r statement executed = (.ok columns, opened)
  delivers : client.Delivers r encoding columns statement opened rows fetched
  fetch_eq : client.answer (.fetch statement) fetched = (false, ended)

/-- What a run asks for behind the last fetch: the number of affected rows must be known, and a
commit that is due must succeed. -/
def Client.Settles (client : Client σ κ η) (r : Request κ) (autoCommit : Bool) (statement : η)
    (s : σ) : Prop :=
  let counted := client.answer (.affectedRows statement) s
  let freed := client.answer (.free statement) counted.2
  counted.1.isSome = true ∧
    (autoCommit = true → (client.answer (.commit r.connection) freed.2).1 = true)

theorem Client.not_settles_of_none {client : Client σ κ η} {r : Request κ} {autoCommit : Bool}
    {statement : η} {s t : σ} (h : client.answer (.affectedRows statement) s = (none, t)) :
    ¬ client.Settles r autoCommit statement s := by
  intro hsettles
  have hcount := hsettles.1
  rw [h] at hcount
  exact Bool.false_ne_true hcount

theorem Client.settles_iff {client : Client σ κ η} {r : Request κ} {autoCommit : Bool}
    {statement : η} {s t u : σ} {count : Nat}
    (hcount : client.answer (.affectedRows statement) s = (some count, t))
    (hfree : client.answer (.free statement) t = ((), u)) :
    client.Settles r autoCommit statement s ↔
      (autoCommit = true → (client.answer (.commit r.connection) u).1 = true) := by
  simp [Client.Settles, hcount, hfree]

namespace FetchedRun

variable {client : Client σ κ η} {r : Request κ} {encoding : Text.Encoding} {values : List Value}
  {s : σ} (f : FetchedRun client r encoding values s)

/-- The rows under the names of their columns. -/
def result : ResultSet := ⟨f.columns.map ColumnInfo.name, f.rows⟩

/-- With the rows in hand, only the count and the end of the execution are missing. -/
theorem drive_eq (autoCommit : Bool) :
    Execution.drive client r values ⟨autoCommit, encoding, true⟩ (.idle, s) =
      (do Execution.countAffected client r; Execution.finish client r autoCommit; pure f.result)
        (⟨.fetching, some f.statement, 0⟩, f.ended) := by
  have hrows := Client.rows_of_delivers f.delivers f.fetch_eq
  simp [Execution.drive, Execution.prepare, Execution.bind, Execution.execute, Execution.fetch,
    Execution.requireStatement, Execution.enter, Execution.idle, bind_apply, Operation.ask,
    Operation.ofAction, Operation.update, Operation.track, ask, require, check, f.prepare_eq,
    f.bind_eq, f.execute_eq, f.columns_eq, hrows, result]

end FetchedRun

/-! ## What is left to do behind the rows -/

namespace Execution

variable {client : Client σ κ η} (r : Request κ) (phase : Phase) (n : Nat) {statement : η}
  {s t u : σ}

theorem countAffected_of_some {count : Nat}
    (h : client.answer (.affectedRows statement) s = (some count, t)) :
    countAffected client r (⟨phase, some statement, n⟩, s) =
      (.ok (), (⟨phase, some statement, count⟩, t)) := by
  simp [countAffected, requireStatement, bind_apply, Operation.ask, Operation.ofAction,
    Operation.update, Operation.track, ask, require, h]

theorem countAffected_of_none (h : client.answer (.affectedRows statement) s = (none, t)) :
    ∃ fault p, countAffected client r (⟨phase, some statement, n⟩, s) = (.error fault, p) := by
  refine ⟨(client.answer (.lastError r.connection) t).1.toFault r.sql, ?_⟩
  simp [countAffected, requireStatement, bind_apply, Operation.ask, Operation.ofAction,
    Operation.track, ask, require, fail, h]

theorem free_of_open (h : client.answer (.free statement) s = ((), t)) :
    free client (⟨phase, some statement, n⟩, s) = (.ok (), (⟨.freed, none, n⟩, t)) := by
  simp [free, bind_apply, Operation.ask, Operation.ofAction, Operation.update, Operation.track, ask,
    h]

theorem finish_of_settled {autoCommit : Bool} (hfree : client.answer (.free statement) s = ((), t))
    (hcommit : autoCommit = true → (client.answer (.commit r.connection) t).1 = true) :
    ∃ p, finish client r autoCommit (⟨phase, some statement, n⟩, s) = (.ok (), p) := by
  rw [finish, bind_apply, free_of_open phase n hfree]
  cases autoCommit with
  | false => exact ⟨_, rfl⟩
  | true =>
    rcases hc : client.answer (.commit r.connection) t with ⟨committed, u⟩
    have htrue : committed = true := by
      rw [← hcommit rfl, hc]
    refine ⟨(⟨.committed, none, n⟩, u), ?_⟩
    simp [bind_apply, Operation.ask, Operation.ofAction, Operation.update, ask, check, enter, hc,
      htrue]

theorem finish_of_uncommitted (hfree : client.answer (.free statement) s = ((), t))
    (hcommit : client.answer (.commit r.connection) t = (false, u)) :
    ∃ fault p, finish client r true (⟨phase, some statement, n⟩, s) = (.error fault, p) := by
  refine ⟨(client.answer (.lastError r.connection) u).1.toFault r.sql, ?_⟩
  simp [finish, bind_apply, free_of_open phase n hfree, Operation.ask, Operation.ofAction, ask,
    check, fail, hcommit]

variable {r}

/-- A failure stays one, whatever becomes of the rollback. -/
theorem run_of_drive_error {values : List Value} {options : RunOptions} {fault : Fault}
    {p p' : Execution η × σ} (h : drive client r values options p = (.error fault, p')) :
    ∃ fault, (run client r values options p).1 = .error fault := by
  have hcaught : (tryCatch (drive client r values options) (fun fault => do
        abort client r
        throw fault) : Step σ η ResultSet) p =
      (abort client r >>= fun _ => throw fault) p' := by
    change orElse _ _ p = _
    rw [orElse, h]
  rw [run, bind_apply, hcaught, bind_apply]
  rcases abort client r p' with ⟨fault' | ⟨⟩, p''⟩
  · exact ⟨fault', rfl⟩
  · exact ⟨fault, rfl⟩

theorem run_of_drive_ok {values : List Value} {options : RunOptions} {result : ResultSet}
    {p p' : Execution η × σ} (h : drive client r values options p = (.ok result, p')) :
    run client r values options p = (.ok ⟨result, p'.1.affectedRows⟩, p') := by
  have hcaught : (tryCatch (drive client r values options) (fun fault => do
        abort client r
        throw fault) : Step σ η ResultSet) p = (.ok result, p') := by
    change orElse _ _ p = _
    rw [orElse, h]
  rw [run, bind_apply, hcaught]
  rfl

end Execution

namespace FetchedRun

variable {client : Client σ κ η} {r : Request κ} {encoding : Text.Encoding} {values : List Value}
  {s : σ} (f : FetchedRun client r encoding values s) {autoCommit : Bool}

/-- **The rows in front of the last fetch are the result,** if the client settles. -/
theorem run_eq_ok (h : client.Settles r autoCommit f.statement f.ended) :
    ∃ count, (client.run r values ⟨autoCommit, encoding, true⟩ s).1 = .ok ⟨f.result, count⟩ := by
  rcases hcount : client.answer (.affectedRows f.statement) f.ended with ⟨_ | count, s₁⟩
  · exact absurd h (Client.not_settles_of_none hcount)
  rcases hfree : client.answer (.free f.statement) s₁ with ⟨⟨⟩, s₂⟩
  obtain ⟨p, hfinish⟩ := Execution.finish_of_settled r .fetching count hfree
    ((Client.settles_iff hcount hfree).mp h)
  have hdrive : Execution.drive client r values ⟨autoCommit, encoding, true⟩ (.idle, s) =
      (.ok f.result, p) := by
    rw [f.drive_eq, bind_apply, Execution.countAffected_of_some r .fetching 0 hcount]
    dsimp only
    rw [bind_apply, hfinish]
    rfl
  exact ⟨p.1.affectedRows, congrArg Prod.fst (Execution.run_of_drive_ok hdrive)⟩

/-- Otherwise the run fails. -/
theorem run_eq_error (h : ¬ client.Settles r autoCommit f.statement f.ended) :
    ∃ fault, (client.run r values ⟨autoCommit, encoding, true⟩ s).1 = .error fault := by
  have hdrive : ∃ fault p, Execution.drive client r values ⟨autoCommit, encoding, true⟩
      (.idle, s) = (.error fault, p) := by
    rw [f.drive_eq, bind_apply]
    -- without a number of rows the run breaks off before anything is committed
    rcases hcount : client.answer (.affectedRows f.statement) f.ended with ⟨_ | count, s₁⟩
    · obtain ⟨fault, p, hfails⟩ := Execution.countAffected_of_none r .fetching 0 hcount
      exact ⟨fault, p, by rw [hfails]⟩
    rcases hfree : client.answer (.free f.statement) s₁ with ⟨⟨⟩, s₂⟩
    rcases hcommit : client.answer (.commit r.connection) s₂ with ⟨committed, s₃⟩
    rw [Client.settles_iff hcount hfree, hcommit] at h
    -- the number of rows is known, so there was a commit, and it failed
    cases autoCommit with
    | false => exact absurd nofun h
    | true =>
      cases committed with
      | true => exact absurd (fun _ => rfl) h
      | false =>
        obtain ⟨fault, p, hfails⟩ := Execution.finish_of_uncommitted r .fetching count hfree
          hcommit
        refine ⟨fault, p, ?_⟩
        rw [Execution.countAffected_of_some r .fetching 0 hcount]
        dsimp only
        rw [bind_apply, hfails]
  obtain ⟨fault, p, hdrive⟩ := hdrive
  exact Execution.run_of_drive_error hdrive

end FetchedRun

/-! ## Queries of a session -/

/-- The last call was a rollback of the connection. -/
def RolledBack (connection : κ) (calls : List (Event κ η)) : Prop :=
  ∃ reply earlier, calls = ⟨.rollback connection, reply⟩ :: earlier

/-- A run ends with a rollback if it failed, and is without one if it did not. -/
theorem Execution.Course.rolledBack {r : Request κ} {autoCommit succeeded : Bool}
    {calls : List (Event κ η)} (h : Execution.Course r autoCommit calls succeeded) :
    if succeeded then calls.reverse.filterMap Event.rolledBack? = []
    else RolledBack r.connection calls.reverse := by
  have horderly := h.orderly
  cases succeeded with
  | true =>
    obtain ⟨-, hnone⟩ := horderly.success rfl
    rw [if_pos rfl, List.filterMap_reverse, hnone]
    rfl
  | false =>
    obtain ⟨earlier, reply, hlast, -⟩ := horderly.failure rfl
    rw [if_neg Bool.false_ne_true, hlast, List.reverse_append]
    exact ⟨reply, earlier.reverse, rfl⟩

namespace Session

variable {client : Client σ κ η} {session : Session κ} {sql : String} {values : List Value} {s : σ}

/-- A query passes the rows in front of the last fetch for all rows, if the client settles. -/
theorem query_eq_ok (hconnected : session.connected = true)
    (f : FetchedRun client ⟨session.connection, sql⟩ session.encoding values s)
    (h : client.Settles ⟨session.connection, sql⟩ session.autoCommit f.statement f.ended) :
    let made := query client.recorded sql values (session, (s, []))
    made.1 = .ok f.result ∧ made.2.2.2.filterMap Event.rolledBack? = [] := by
  obtain ⟨calls, hcalls, hresult, hcourse⟩ := query_course client sql values s hconnected
  obtain ⟨count, hrun⟩ := f.run_eq_ok h
  have hok : (query client sql values (session, s)).1 = .ok f.result := by
    rw [query_of_connected hconnected, options, hrun]
    rfl
  have hrolled := hcourse.rolledBack
  rw [hok] at hrolled
  dsimp only
  rw [hcalls, hresult]
  exact ⟨hok, hrolled⟩

/-- Otherwise the query fails and is rolled back. -/
theorem query_eq_error (hconnected : session.connected = true)
    (f : FetchedRun client ⟨session.connection, sql⟩ session.encoding values s)
    (h : ¬ client.Settles ⟨session.connection, sql⟩ session.autoCommit f.statement f.ended) :
    let made := query client.recorded sql values (session, (s, []))
    (∃ fault, made.1 = .error fault) ∧ RolledBack session.connection made.2.2.2 := by
  obtain ⟨calls, hcalls, hresult, hcourse⟩ := query_course client sql values s hconnected
  obtain ⟨fault, hrun⟩ := f.run_eq_error h
  have herror : (query client sql values (session, s)).1 = .error fault := by
    rw [query_of_connected hconnected, options, hrun]
    rfl
  have hrolled := hcourse.rolledBack
  rw [herror] at hrolled
  dsimp only
  rw [hcalls, hresult]
  exact ⟨⟨fault, herror⟩, hrolled⟩

end Session

/-! ## Cursors that break off -/

/-- A run whose cursor breaks off: the last fetch is answered with no while the cursor still holds
rows, and the client would say why, if it were asked. -/
structure BrokenFetch {client : Client σ κ η} (cursor : Cursor client) (r : Request κ)
    (encoding : Text.Encoding) (values : List Value) (s : σ) extends
    FetchedRun client r encoding values s where
  held : 0 < cursor.left statement fetched
  reported : (client.answer (.lastError r.connection) ended).1.code < 0

/-- The result of a run whose cursor breaks off lacks rows. -/
theorem BrokenFetch.size_lt {client : Client σ κ η} {cursor : Cursor client} {r : Request κ}
    {encoding : Text.Encoding} {values : List Value} {s : σ}
    (b : BrokenFetch cursor r encoding values s) :
    b.result.size < cursor.left b.statement b.opened := by
  have hleft := cursor.left_of_delivers b.delivers
  have hheld := b.held
  change b.rows.length < _
  omega

/-- **A query whose cursor breaks off fails exactly when something behind the rows fails, too.** If
the client settles, the rows in front of the break are the result and nothing is rolled back. -/
theorem Session.query_brokenFetch {client : Client σ κ η} {cursor : Cursor client}
    {session : Session κ} {sql : String} {values : List Value} {s : σ}
    (hconnected : session.connected = true)
    (b : BrokenFetch cursor ⟨session.connection, sql⟩ session.encoding values s) :
    let made := query client.recorded sql values (session, (s, []))
    ((∃ fault, made.1 = .error fault) ∧ RolledBack session.connection made.2.2.2 ↔
      ¬ client.Settles ⟨session.connection, sql⟩ session.autoCommit b.statement b.ended) ∧
    (client.Settles ⟨session.connection, sql⟩ session.autoCommit b.statement b.ended →
      made.1 = .ok b.result ∧ b.result.size < cursor.left b.statement b.opened ∧
        made.2.2.2.filterMap Event.rolledBack? = []) := by
  by_cases hsettles : client.Settles ⟨session.connection, sql⟩ session.autoCommit b.statement
    b.ended
  · have hok := query_eq_ok hconnected b.toFetchedRun hsettles
    refine ⟨⟨?_, fun h => absurd hsettles h⟩, fun _ => ⟨hok.1, b.size_lt, hok.2⟩⟩
    rintro ⟨⟨fault, hfault⟩, -⟩
    exact nomatch hfault.symm.trans hok.1
  · have herror := query_eq_error hconnected b.toFetchedRun hsettles
    exact ⟨⟨fun _ => hsettles, fun _ => herror⟩, fun h => absurd h hsettles⟩

/-! ### A connection that is cut -/

namespace Script

/-- What the client library reports about a connection that is cut. -/
def terminated : Report := ⟨-308, "Connection was terminated"⟩

/-- Goes on to the next row, unless no more than `kept` rows are left. Then the connection is
cut. -/
def State.fetchOrCut (kept id : Nat) (s : State) : Bool × State :=
  if 0 < State.pending id s ∧ State.pending id s ≤ kept then
    (false, { s with lastError := terminated })
  else s.fetch id

/-- A fetch that succeeds takes exactly one row. -/
theorem State.pending_fetchOrCut (kept id : Nat) (s : State)
    (h : (s.fetchOrCut kept id).1 = true) :
    State.pending id (s.fetchOrCut kept id).2 + 1 = State.pending id s := by
  unfold fetchOrCut at h ⊢
  split at h
  · exact absurd h Bool.false_ne_true
  next hcut =>
    rw [if_neg hcut]
    unfold fetch at h ⊢
    cases hs : s.statements[id]? with
    | none => simp [hs] at h
    | some st =>
      have hbound : id < s.statements.length := (List.getElem?_eq_some_iff.1 hs).1
      simp only [hs, decide_eq_true_eq] at h
      simp only [pending, List.getElem?_set_self hbound, hs, Option.elim, Statement.pending]
      omega

/-- The client that follows a script until no more than `kept` rows of a statement are left. -/
def cutClient (kept : Nat) : Client State Unit Nat where
  answer
    | .fetch id, s => s.fetchOrCut kept id
    | call, s => State.answer call s
  pending := State.pending
  pending_fetch id s h := by
    have htaken := State.pending_fetchOrCut kept id s h
    dsimp only
    omega
  pending_cell := client.pending_cell

/-- Its cursors hold the rows of the script. -/
def cutCursor (kept : Nat) : Cursor (cutClient kept) where
  left := State.pending
  left_fetch := State.pending_fetchOrCut kept
  left_cell id index s := by simp [cutClient, State.answer, State.pending]

/-- Two orders, as the rows of every statement. -/
def twoOrders : Response := ⟨"", [⟨"id", .int⟩], [[.int 1], [.int 2]], some 0⟩

def ordersText : String := "SELECT id FROM orders"

/-- The state before the orders are asked for. -/
def beforeOrders : State := .start [twoOrders] [] []

/-- The state in which so many rows of the orders were asked for. -/
def withinOrders (cursor : Nat) : State :=
  { beforeOrders with statements := [⟨ordersText, twoOrders, cursor⟩] }

def ordersSession : Session Unit := ⟨(), "", .utf8, true, true, 0⟩

/-- The connection is cut behind the first of the two orders. -/
def cutFetch : BrokenFetch (cutCursor 1) ⟨(), ordersText⟩ .utf8 [] beforeOrders where
  statement := 0
  columns := [⟨"id", .int⟩]
  rows := [[.int 1]]
  prepared := withinOrders 0
  bound := withinOrders 0
  executed := withinOrders 0
  opened := withinOrders 0
  fetched := withinOrders 1
  ended := { withinOrders 1 with lastError := terminated }
  prepare_eq := by rfl
  bind_eq := by rfl
  execute_eq := by rfl
  columns_eq := by rfl
  delivers := .row rfl rfl (.done _)
  fetch_eq := by rfl
  held := by decide
  reported := by decide

end Script

/-- The number of rows is known behind the cut, so a commit decides. -/
theorem Script.settles_cutFetch (autoCommit : Bool) :
    (cutClient 1).Settles ⟨(), ordersText⟩ autoCommit cutFetch.statement cutFetch.ended :=
  ⟨rfl, fun _ => rfl⟩

/-- With two orders and the connection cut behind the first one, there is no failure. -/
theorem Session.query_cutFetch :
    let made := query (Script.cutClient 1).recorded Script.ordersText []
      (Script.ordersSession, (Script.beforeOrders, []))
    made.1 = .ok Script.cutFetch.result ∧
      Script.cutFetch.result.size < (Script.cutCursor 1).left Script.cutFetch.statement
        Script.cutFetch.opened ∧
      made.2.2.2.filterMap Event.rolledBack? = [] := by
  have hconnected : Script.ordersSession.connected = true := rfl
  have hquery := query_brokenFetch hconnected Script.cutFetch
  exact hquery.2 (Script.settles_cutFetch true)

/-- So it is not true that a query fails when its cursor breaks off: one of the two orders passes
for all of them, and the last call is not a rollback. -/
theorem Session.query_cutFetch_ne_error :
    (Script.cutCursor 1).left Script.cutFetch.statement Script.cutFetch.opened = 2 ∧
      let made := query (Script.cutClient 1).recorded Script.ordersText []
        (Script.ordersSession, (Script.beforeOrders, []))
      made.1 = .ok ⟨["id"], [[.int 1]]⟩ ∧ ¬ RolledBack () made.2.2.2 := by
  have hconnected : Script.ordersSession.connected = true := rfl
  obtain ⟨hfirst, hnone⟩ := query_eq_ok hconnected Script.cutFetch.toFetchedRun
    (Script.settles_cutFetch true)
  refine ⟨rfl, hfirst, ?_⟩
  rintro ⟨reply, earlier, hcalls⟩
  change List.filterMap Event.rolledBack? (query (Script.cutClient 1).recorded Script.ordersText []
    (Script.ordersSession, (Script.beforeOrders, []))).2.2.2 = [] at hnone
  rw [hcalls] at hnone
  exact nomatch hnone

end Anywhere
