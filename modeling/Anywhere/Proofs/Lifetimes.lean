import Anywhere.Proofs.SessionRun
import Anywhere.Session.Schema

/-!
# The life of a session

A session is opened, does one task after the other, and is disconnected when it goes away. Nothing
is assumed about which tasks these are and how they end, nor about the client. Whoever decides what
to do next by what came of it before gives a session a sequence of tasks all the same, so that
sequences are enough.

A life is put down in a log: every task where it begins, with the session as the task finds it, and
every call with its answer. What can come next in a log, and what the session knows behind it, is
said once, by `Session.History`. Every life has such a history, which takes one look at each
operation of a session; whatever is true of all lives follows by induction on the history.
-/

namespace Anywhere

open Anywhere.Action
open Schema

variable {σ κ η : Type}

namespace Session

/-! ## Lives -/

/-- Something that a session is told to do. -/
inductive Task where
  | execute (sql : String)
  | query (sql : String) (values : List Value)
  | update (sql : String) (values : List Value)
  | select (q : Query)
  | selectValue (sql : String)
  | lastInsertedId
  | tables
  | views
  | tableExists (table : String)
  | indexes (table : String)
  | primaryKey (table : String)
  | primaryKeys (table : String)
  | tableStructure (table : String)
  | columns (table : String)
  | renameTable (table newName : String)
  | renameColumn (table column newName : String)
  | setDefault (table column : String) (default : Value)
  | setNullable (table column : String) (nullable : Bool) (default : Option Value)
  | setType (table column : String) (type : LogicalType) (options : ColumnOptions)
  | removeIndex (table index : String)
  | removeColumns (table : String) (columns : List String)
  /-- Does other tasks while checks are deferred; what comes of them all is up to the caller. -/
  | deferringChecks (body : List Task) (result : Except Fault Unit)
  /-- Tells whether a transaction was begun, -/
  | inTransaction
  /-- or whether the connection is alive. -/
  | isActive
  | beginTransaction
  | commit
  | rollback
  | disconnect
  | reconnect

/-- What is put down in the log of a session: a task and the session that it finds, or a call. -/
inductive Entry (κ η : Type) where
  | began (task : Task) (session : Session κ)
  | called (event : Event κ η)

/-- The log of a session, the latest entry first. -/
abbrev Log (κ η : Type) := List (Entry κ η)

end Session

/-- The client whose calls are put down in a log. -/
def Client.logged (client : Client σ κ η) : Client (σ × Session.Log κ η) κ η :=
  client.observed fun e log => .called e :: log

namespace Session

/-- Puts down that a task begins. -/
def announce (task : Task) : Step (σ × Log κ η) κ Unit :=
  fun (session, (s, log)) => (.ok (), (session, (s, .began task session :: log)))

mutual

/-- Does a task. -/
def Task.perform (client : Client σ κ η) : Task → Step (σ × Log κ η) κ Unit
  | .execute sql => discard (Session.execute client.logged sql)
  | .query sql values => discard (Session.query client.logged sql values)
  | .update sql values => discard (Session.update client.logged sql values)
  | .select q => discard (Session.select client.logged q)
  | .selectValue sql => discard (Session.selectValue client.logged sql)
  | .lastInsertedId => discard (Session.lastInsertedId client.logged)
  | .tables => discard (Session.tables client.logged)
  | .views => discard (Session.views client.logged)
  | .tableExists table => discard (Session.tableExists client.logged table)
  | .indexes table => discard (Session.indexes client.logged table)
  | .primaryKey table => discard (Session.primaryKey client.logged table)
  | .primaryKeys table => discard (Session.primaryKeys client.logged table)
  | .tableStructure table => discard (Session.tableStructure client.logged table)
  | .columns table => discard (Session.columns client.logged table)
  | .renameTable table newName => Session.renameTable client.logged table newName
  | .renameColumn table column newName => Session.renameColumn client.logged table column newName
  | .setDefault table column default => Session.setDefault client.logged table column default
  | .setNullable table column nullable default =>
    Session.setNullable client.logged table column nullable default
  | .setType table column type options =>
    Session.setType client.logged table column type options
  | .removeIndex table index => Session.removeIndex client.logged table index
  | .removeColumns table columns => Session.removeColumns client.logged table columns
  | .deferringChecks body result => Session.deferringChecks client.logged do
    performAll client body
    Action.ofExcept result
  | .inTransaction => discard (Session.inTransaction <$> Operation.track)
  | .isActive => discard (Session.isActive client.logged)
  | .beginTransaction => Session.beginTransaction
  | .commit => Session.commit client.logged
  | .rollback => Session.rollback client.logged
  | .disconnect => Session.disconnect client.logged
  | .reconnect => Session.reconnect client.logged

/-- Does one task after the other, also when some of them fail. -/
def performAll (client : Client σ κ η) : List Task → Step (σ × Log κ η) κ Unit
  | [] => pure ()
  | task :: rest => do
    announce task
    tryCatch (task.perform client) fun _ => pure ()
    performAll client rest

end

/-- The ways to open a session. -/
inductive Opening where
  | ofText (text : String)
  | ofSettings (settings : Settings)

/-- Opens a session. -/
def Opening.perform (client : Client σ κ η) : Opening → Action σ (Session κ)
  | .ofText text => connect client text
  | .ofSettings settings => Session.ofSettings client settings

/-- The log of a session that is opened, does tasks, and is disconnected when it goes away. -/
def life (client : Client σ κ η) (opening : Opening) (tasks : List Task) (s : σ) : Log κ η :=
  match opening.perform client.logged (s, []) with
  | (.error _, (_, log)) => log
  | (.ok session, p) => (performAll client (tasks ++ [.disconnect]) (session, p)).2.2.2

/-! ## Histories -/

/-- Whether a transaction is open behind a task that has a say in that. -/
def Task.turn? : Task → Option Bool
  | .beginTransaction => some true
  | .commit => some false
  | .rollback => some false
  | _ => none

/-- The calls that a session may make in the middle of its work: those of a live connection, but a
commit only outside of transactions. Connecting and disconnecting are events of their own. -/
def permits (session : Session κ) : Call κ η → Bool
  | .lastError _ => true
  | .commit _ => session.connected && session.autoCommit
  | .init => false
  | .fini => false
  | .newConnection => false
  | .connect .. => false
  | .disconnect _ => false
  | _ => session.connected

/-- The call that ends a transaction when a task asks for that. -/
inductive Ends : Task → Event κ η → Prop where
  | commit (connection : κ) (reply : Bool) : Ends .commit ⟨.commit connection, reply⟩
  | rollback (connection : κ) (reply : Bool) : Ends .rollback ⟨.rollback connection, reply⟩

/-- A session and the log behind it. -/
inductive History : Session κ → Log κ η → Prop where
  | allocated {session : Session κ} : session.connected = false → session.autoCommit = true →
      History session [.called ⟨.newConnection, some session.connection⟩]
  | began {session : Session κ} {log : Log κ η} {task : Task} : History session log →
      task.turn? = none → History session (.began task session :: log)
  | begun {session : Session κ} {log : Log κ η} : History session log →
      History { session with autoCommit := false } (.began .beginTransaction session :: log)
  /-- A transaction ends with a call, whatever the answer is and whether there is a connection. -/
  | ended {session : Session κ} {log : Log κ η} {task : Task} {event : Event κ η} :
      History session log → Ends task event →
      History { session with autoCommit := true } (.called event :: .began task session :: log)
  | called {session : Session κ} {log : Log κ η} {event : Event κ η} :
      History session log → session.permits event.1 = true →
      History session (.called event :: log)
  | connected {session : Session κ} {log : Log κ η} {text : String} :
      History session log → session.connected = false →
      History { session with connected := true, autoCommit := true }
        (.called ⟨.connect session.connection text, true⟩ :: log)
  | refused {session : Session κ} {log : Log κ η} {text : String} :
      History session log → session.connected = false →
      History session (.called ⟨.connect session.connection text, false⟩ :: log)
  | disconnected {session : Session κ} {log : Log κ η} :
      History session log → session.connected = true →
      History { session with connected := false }
        (.called ⟨.disconnect session.connection, ()⟩ :: log)
  /-- The encoding and the number of affected rows do not matter. -/
  | noted {session session' : Session κ} {log : Log κ η} : History session log →
      session'.connected = session.connected → session'.autoCommit = session.autoCommit →
      History session' log

theorem History.calls {session : Session κ} {log : Log κ η} (h : History session log)
    {calls : List (Event κ η)} (hcalls : ∀ e ∈ calls, session.permits e.1 = true) :
    History session (calls.reverse.foldr (fun e log => .called e :: log) log) := by
  rw [List.foldr_reverse]
  induction calls generalizing log with
  | nil => exact h
  | cons e rest ih =>
    rw [List.forall_mem_cons] at hcalls
    exact ih (h.called hcalls.1) hcalls.2

theorem permits_of_quiet {session : Session κ} {statement : η} {e : Event κ η}
    (hconnected : session.connected = true) (h : Event.Quiet statement e) :
    session.permits e.1 = true := by
  obtain ⟨call, reply⟩ := e
  cases call <;> first | exact hconnected | rfl | exact h.elim

/-- A session may make all calls of a run for which it has a connection. -/
theorem permits_of_course {session : Session κ} (hconnected : session.connected = true)
    {r : Request κ} {calls : List (Event κ η)} {succeeded : Bool}
    (h : Execution.Course r session.autoCommit calls succeeded) :
    ∀ e ∈ calls, session.permits e.1 = true := by
  have hwork {statement : η} {quiet ending : List (Event κ η)}
      (hquiet : ∀ e ∈ quiet, Event.Quiet statement e)
      (hending : ∀ e ∈ ending, session.permits e.1 = true) :
      ∀ e ∈ Execution.work r statement quiet ++ ending, session.permits e.1 = true := by
    intro e he
    simp only [Execution.work, List.mem_append, List.mem_cons, List.not_mem_nil, or_false] at he
    rcases he with ((rfl | he) | rfl) | he
    · exact hconnected
    · exact permits_of_quiet hconnected (hquiet e he)
    · exact hconnected
    · exact hending e he
  cases h with
  | refused report reply => simp [permits, hconnected]
  | broken reply hquiet => exact hwork hquiet (by simp [permits, hconnected])
  | uncommitted report reply hquiet hauto =>
    exact hwork hquiet (by simp [permits, hconnected, hauto])
  | committed hquiet hauto => exact hwork hquiet (by simp [permits, hconnected, hauto])
  | pending hquiet hauto => exact hwork hquiet (List.forall_mem_nil _)

/-! ## Steps that go on with a history -/

/-- The step goes on with whatever happened before, also if it fails. -/
def Extends (x : Step (σ × Log κ η) κ α) : Prop :=
  ∀ p : Session κ × σ × Log κ η, History p.1 p.2.2 → History (x p).2.1 (x p).2.2.2

namespace Extends

variable {client : Client σ κ η}

theorem pure (a : α) : Extends (pure a : Step (σ × Log κ η) κ α) := fun _ h => h

theorem throw (fault : Fault) : Extends (throw fault : Step (σ × Log κ η) κ α) := fun _ h => h

theorem ofExcept (result : Except Fault α) :
    Extends (Action.ofExcept result : Step (σ × Log κ η) κ α) :=
  fun _ h => h

theorem track : Extends (Operation.track : Step (σ × Log κ η) κ (Session κ)) := fun _ h => h

theorem bind {x : Step (σ × Log κ η) κ α} {f : α → Step (σ × Log κ η) κ β} (hx : Extends x)
    (hf : ∀ a, Extends (f a)) : Extends (x >>= f) := by
  intro p h
  have hp := hx p h
  rw [bind_apply]
  rcases hxp : x p with ⟨fault | a, q⟩ <;> rw [hxp] at hp
  · exact hp
  · exact hf a q hp

theorem map {x : Step (σ × Log κ η) κ α} (f : α → β) (hx : Extends x) : Extends (f <$> x) := by
  rw [map_eq_pure_bind]
  exact hx.bind fun a => .pure (f a)

theorem discard {x : Step (σ × Log κ η) κ α} (hx : Extends x) : Extends (discard x) :=
  hx.map _

theorem tryCatch {x : Step (σ × Log κ η) κ α} {f : Fault → Step (σ × Log κ η) κ α}
    (hx : Extends x) (hf : ∀ fault, Extends (f fault)) : Extends (tryCatch x f) := by
  intro p h
  have hp := hx p h
  change History (orElse x f p).2.1 (orElse x f p).2.2.2
  rw [orElse]
  -- what failed has left its entries, and the other step goes on behind them
  rcases hxp : x p with ⟨fault | a, q⟩ <;> rw [hxp] at hp
  · exact hf fault q hp
  · exact hp

theorem forM {f : α → Step (σ × Log κ η) κ Unit} (hf : ∀ a, Extends (f a)) (as : List α) :
    Extends (as.forM f) := by
  induction as with
  | nil => exact .pure ()
  | cons a as ih => exact (hf a).bind fun _ => ih

theorem mapM {f : α → Step (σ × Log κ η) κ β} (hf : ∀ a, Extends (f a)) (as : List α) :
    Extends (as.mapM f) := by
  induction as with
  | nil => exact .pure []
  | cons a as ih =>
    rw [List.mapM_cons]
    exact (hf a).bind fun _ => ih.bind fun _ => .pure _

/-- A statement is refused without a connection, and takes its course with one. -/
theorem run (sql : String) (values : List Value) (fetchRows : Bool) :
    Extends (Session.run client.logged sql values fetchRows) := by
  rintro ⟨session, s, log⟩ h
  cases hconnected : session.connected with
  | false =>
    rw [run_of_disconnected hconnected]
    exact h
  | true =>
    obtain ⟨calls, hcalls, hcourse⟩ := client.observed_run_course (fun e log => .called e :: log)
      ⟨session.connection, sql⟩ values (session.options fetchRows) s log
    have hmade := h.calls (permits_of_course hconnected hcourse)
    rw [← hcalls] at hmade
    rw [run_of_connected hconnected]
    exact .noted hmade rfl rfl

end Extends

/-! ## One look at each operation -/

section Operations

variable (client : Client σ κ η)

theorem query_extends (sql : String) (values : List Value) :
    Extends (query client.logged sql values) :=
  .map _ (.run sql values true)

theorem change_extends (statement : Statement) : Extends (change client.logged statement) :=
  .bind (.map _ (.run _ _ _)) fun _ => .pure ()

theorem selectValue_extends (sql : String) : Extends (selectValue client.logged sql) :=
  .bind (query_extends client sql []) fun _ => .pure _

theorem tables_extends : Extends (tables client.logged) :=
  .bind (query_extends client _ []) fun _ => .pure _

theorem indexes_extends (table : String) : Extends (indexes client.logged table) :=
  .bind (query_extends client _ []) fun _ =>
    .mapM (fun _ => .bind (query_extends client _ []) fun _ => .pure _) _

theorem tableStructure_extends (table : String) : Extends (tableStructure client.logged table) := by
  refine .bind (query_extends client _ []) fun result => ?_
  dsimp only
  split
  · exact .bind (.throw _) fun _ => .pure _
  · exact .pure _

theorem removeColumn_extends (table column : String) :
    Extends (removeColumn client.logged table column) :=
  .bind (query_extends client _ []) fun _ =>
    .bind (.forM (fun _ => change_extends client _) _) fun _ => change_extends client _

theorem removeColumns_extends (table : String) (columns : List String) :
    Extends (removeColumns client.logged table columns) := by
  have hrest : Extends (columns.forM (removeColumn client.logged table)) :=
    .forM (removeColumn_extends client table) columns
  unfold removeColumns
  split
  · exact .bind (.throw _) fun _ => hrest
  · exact hrest

theorem setWaitForCommit_extends (setting : String) :
    Extends (setWaitForCommit client.logged setting) :=
  .bind (.map _ (.run _ _ _)) fun _ => .pure ()

theorem deferringChecks_extends {body : Step (σ × Log κ η) κ α} (h : Extends body) :
    Extends (deferringChecks client.logged body) :=
  .bind (selectValue_extends client _) fun _ => .bind (setWaitForCommit_extends client _) fun _ =>
    .bind
      (.tryCatch h fun _ =>
        .bind (.tryCatch (setWaitForCommit_extends client _) fun _ => .pure ()) fun _ => .throw _)
      fun _ => .bind (setWaitForCommit_extends client _) fun _ => .pure _

/-- A call is put down with its answer. -/
theorem ask_logged (call : Call κ η) (session : Session κ) (s : σ) (log : Log κ η) :
    Operation.ask client.logged call (session, (s, log)) =
      (.ok (client.answer call s).1, (session, ((client.answer call s).2,
        .called ⟨call, (client.answer call s).1⟩ :: log))) := rfl

theorem isActive_extends : Extends (isActive client.logged) := by
  rintro ⟨session, s, log⟩ h
  unfold isActive
  rw [bind_apply]
  dsimp only [Operation.track]
  split
  · next hconnected =>
    rw [ask_logged]
    exact h.called hconnected
  · exact h

/-! ### Connecting and disconnecting -/

variable {session : Session κ} {log : Log κ η}

theorem setOption_history (hconnected : session.connected = true) (h : History session log)
    (sql : String) (s : σ) :
    ∃ s' log', setOption client.logged sql (session, (s, log)) = (.ok (), (session, (s', log'))) ∧
      History session log' := by
  unfold setOption
  rw [bind_apply]
  dsimp only [Operation.track]
  rw [bind_apply, ask_logged]
  dsimp only
  have hasked : History session (.called ⟨.executeImmediate session.connection sql,
      (client.answer (.executeImmediate session.connection sql) s).1⟩ :: log) :=
    h.called hconnected
  split
  · rw [bind_apply, ask_logged]
    exact ⟨_, _, rfl, hasked.called rfl⟩
  · exact ⟨_, _, rfl, hasked⟩

theorem setOptions_history (hconnected : session.connected = true) (h : History session log)
    (sqls : List String) (s : σ) :
    ∃ s' log', sqls.forM (setOption client.logged) (session, (s, log)) =
        (.ok (), (session, (s', log'))) ∧ History session log' := by
  induction sqls generalizing s log with
  | nil => exact ⟨s, log, rfl, h⟩
  | cons sql sqls ih =>
    obtain ⟨s₁, log₁, hfirst, h₁⟩ := setOption_history client hconnected h sql s
    obtain ⟨s₂, log₂, hrest, h₂⟩ := ih h₁ s₁
    refine ⟨s₂, log₂, ?_, h₂⟩
    change (setOption client.logged sql >>= fun _ => sqls.forM (setOption client.logged)) _ = _
    rw [bind_apply, hfirst]
    exact hrest

/-- A session that is not connected is connected, or it is told why it cannot be. -/
theorem establish_history (hdead : session.connected = false) (h : History session log) (s : σ) :
    let (result, p) := establish client.logged (session, (s, log))
    History p.1 p.2.2 ∧ p.1.connected = result.isOk := by
  unfold establish
  rw [bind_apply]
  dsimp only [Operation.track]
  rw [bind_apply, ask_logged]
  dsimp only
  rcases client.answer (.connect session.connection session.text) s with ⟨reply, s'⟩
  cases reply with
  | false =>
    have hrefused : History session
        (.called ⟨.connect session.connection session.text, false⟩ :: log) := h.refused hdead
    exact ⟨hrefused.called rfl, hdead⟩
  | true =>
    have hconnected : History { session with connected := true, autoCommit := true }
        (.called ⟨.connect session.connection session.text, true⟩ :: log) := h.connected hdead
    obtain ⟨s₁, log₁, hoptions, h₁⟩ := setOptions_history client rfl hconnected
      connectionOptions s'
    simp only [Bool.not_true, Bool.false_eq_true, if_false, bind_apply, Operation.update, hoptions]
    exact ⟨h₁, rfl⟩

/-- Behind a disconnect there is no connection. -/
theorem disconnect_history (h : History session log) (s : σ) :
    ∃ session' s' log', disconnect client.logged (session, (s, log)) =
        (.ok (), (session', (s', log'))) ∧
      session'.connected = false ∧ History session' log' := by
  unfold disconnect
  rw [bind_apply]
  dsimp only [Operation.track]
  split
  · next hconnected =>
    rw [bind_apply, ask_logged]
    exact ⟨_, _, _, rfl, rfl, h.disconnected hconnected⟩
  · next hdead => exact ⟨session, s, log, rfl, by simpa using hdead, h⟩

theorem disconnect_extends : Extends (disconnect client.logged) := by
  rintro ⟨session, s, log⟩ h
  obtain ⟨session', s', log', hdone, -, h'⟩ := disconnect_history client h s
  rw [hdone]
  exact h'

theorem reconnect_extends : Extends (reconnect client.logged) := by
  rintro ⟨session, s, log⟩ h
  obtain ⟨session', s', log', hdone, hdead, h'⟩ := disconnect_history client h s
  rw [reconnect, bind_apply, hdone]
  exact (establish_history client hdead h' s').1

/-! ### Transactions -/

/-- A transaction ends in the session before it ends on the server, and also if it cannot. -/
theorem endTransaction_history {task : Task} {event : Event κ η} (hends : Ends task event)
    (h : History session log) {s s' : σ} {reply : Bool} {ask : κ → Step (σ × Log κ η) κ Bool}
    (hask : ∀ (session' : Session κ) (log' : Log κ η),
      ask session.connection (session', (s, log')) =
        (.ok reply, (session', (s', .called event :: log'))))
    (sql : String) :
    let p := (endTransaction client.logged sql ask (session, (s, .began task session :: log))).2
    History p.1 p.2.2 := by
  unfold endTransaction
  rw [bind_apply]
  dsimp only [Operation.update]
  rw [bind_apply]
  dsimp only [Operation.track]
  rw [bind_apply, hask]
  cases reply with
  | false => exact (h.ended hends).called rfl
  | true => exact h.ended hends

end Operations

/-! ## Lives are histories -/

/-- A task goes on with the history in which it is put down. -/
theorem Task.perform_of_turn (client : Client σ κ η) {task : Task} (hturn : task.turn? ≠ none)
    {session : Session κ} {log : Log κ η} (h : History session log) (s : σ) :
    let p := (task.perform client (session, (s, .began task session :: log))).2
    History p.1 p.2.2 := by
  cases task with
  | beginTransaction =>
    rw [Task.perform]
    exact h.begun
  | commit =>
    rw [Task.perform]
    exact endTransaction_history client (.commit session.connection _) h (fun _ _ => rfl) "COMMIT"
  | rollback =>
    rw [Task.perform]
    exact endTransaction_history client (.rollback session.connection _) h (fun _ _ => rfl)
      "ROLLBACK"
  | _ => exact absurd rfl hturn

/-- Whatever the task is, the history goes on. -/
theorem Task.perform_history (client : Client σ κ η) {task : Task}
    (h : task.turn? = none → Extends (task.perform client)) {session : Session κ} {log : Log κ η}
    (hlog : History session log) (s : σ) :
    let p := (task.perform client (session, (s, .began task session :: log))).2
    History p.1 p.2.2 := by
  cases hturn : task.turn? with
  | none => exact h hturn _ (hlog.began hturn)
  | some open? => exact Task.perform_of_turn client (by simp [hturn]) hlog s

/-- A failing task is over, and what it leaves behind is where the next one begins. -/
theorem performAll_cons (client : Client σ κ η) (task : Task) (rest : List Task)
    (session : Session κ) (s : σ) (log : Log κ η) :
    performAll client (task :: rest) (session, (s, log)) =
      performAll client rest
        (task.perform client (session, (s, .began task session :: log))).2 := by
  rw [performAll]
  change (orElse (task.perform client) (fun _ => pure ()) >>= fun _ => performAll client rest)
    (session, (s, .began task session :: log)) = _
  rw [bind_apply, orElse]
  rcases task.perform client (session, (s, .began task session :: log)) with ⟨fault | _, p⟩
  · rfl
  · rfl

mutual

theorem Task.perform_extends (client : Client σ κ η) (task : Task) (h : task.turn? = none) :
    Extends (task.perform client) := by
  cases task with
  | execute sql => exact .discard (.map _ (.run sql [] false))
  | query sql values => exact .discard (query_extends client sql values)
  | update sql values => exact .discard (.map _ (.run sql values true))
  | select q => exact .discard (query_extends client _ _)
  | selectValue sql => exact .discard (selectValue_extends client sql)
  | lastInsertedId => exact .discard (.bind (selectValue_extends client _) fun _ => .pure _)
  | tables => exact .discard (tables_extends client)
  | views => exact .discard (.bind (query_extends client _ []) fun _ => .pure _)
  | tableExists table => exact .discard (.bind (tables_extends client) fun _ => .pure _)
  | indexes table => exact .discard (indexes_extends client table)
  | primaryKey table => exact .discard (.bind (query_extends client _ []) fun _ => .pure _)
  | primaryKeys table => exact .discard (.bind (query_extends client _ []) fun _ => .pure _)
  | tableStructure table => exact .discard (tableStructure_extends client table)
  | columns table =>
    exact .discard (.bind (tableStructure_extends client table) fun _ => .ofExcept _)
  | renameTable table newName => exact change_extends client _
  | renameColumn table column newName => exact .forM (change_extends client) _
  | setDefault table column default =>
    exact .bind (.ofExcept _) fun _ => change_extends client _
  | setNullable table column nullable default =>
    exact .bind (.ofExcept _) fun _ => .forM (change_extends client) _
  | setType table column type options =>
    exact .bind (.ofExcept _) fun _ => change_extends client _
  | removeIndex table index => exact change_extends client _
  | removeColumns table columns => exact removeColumns_extends client table columns
  | deferringChecks body result =>
    exact deferringChecks_extends client
      (.bind (performAll_extends client body) fun _ => .ofExcept result)
  | inTransaction => exact .discard (.map _ .track)
  | isActive => exact .discard (isActive_extends client)
  | disconnect => exact disconnect_extends client
  | reconnect => exact reconnect_extends client
  | beginTransaction => exact nomatch h
  | commit => exact nomatch h
  | rollback => exact nomatch h

theorem performAll_extends (client : Client σ κ η) (tasks : List Task) :
    Extends (performAll client tasks) := by
  cases tasks with
  | nil => exact .pure ()
  | cons task rest =>
    rintro ⟨session, s, log⟩ hlog
    have hrest := performAll_extends client rest
    rw [performAll_cons]
    exact hrest _ (task.perform_history client (task.perform_extends client) hlog s)

end

/-! ### Opening -/

/-- A log in which nothing came of opening a session, or the log of a session. -/
def Told (log : Log κ η) : Prop :=
  (∀ entry ∈ log, entry = .called ⟨.newConnection, none⟩) ∨ ∃ session, History session log

/-- A log in which nothing came of opening a session, or the log of one without a connection. -/
def Over (log : Log κ η) : Prop :=
  (∀ entry ∈ log, entry = .called ⟨.newConnection, none⟩) ∨
    ∃ session, session.connected = false ∧ History session log

/-- What comes of opening a session, and the log behind it. -/
def Tells : Except Fault (Session κ) × (σ × Log κ η) → Prop
  | (.ok session, (_, log)) => History session log
  | (.error _, (_, log)) => Over log

theorem afterStep_tells {session : Session κ} {step : Step (σ × Log κ η) κ Unit}
    {p : σ × Log κ η}
    (h : let (result, q) := step (session, p)
      History q.1 q.2.2 ∧ (result.isOk = false → q.1.connected = false)) :
    Tells (afterStep session step p) := by
  unfold afterStep
  revert h
  rcases step (session, p) with ⟨fault | _, session', s', log⟩
  · exact fun h => .inr ⟨session', h.2 rfl, h.1⟩
  · exact fun h => h.1

variable (client : Client σ κ η)

theorem connect_tells (text : String) (s : σ) : Tells (connect client.logged text (s, [])) := by
  unfold connect
  rw [bind_apply, Action.ofExcept]
  cases ConnectionString.ofText? text with
  | error fault => exact .inl (List.forall_mem_nil _)
  | ok parameters =>
    have hasked : Action.ask client.logged .newConnection (s, []) =
        (.ok (client.answer .newConnection s).1, ((client.answer .newConnection s).2,
          [.called ⟨.newConnection, (client.answer .newConnection s).1⟩])) := rfl
    dsimp only
    rw [bind_apply, hasked]
    rcases client.answer .newConnection s with ⟨_ | connection, s'⟩
    · exact .inl fun entry hentry => List.mem_singleton.mp hentry
    · exact afterStep_tells
        ((establish_history client rfl (.allocated rfl rfl) s').imp_right .trans)

theorem ofSettings_tells (settings : Settings) (s : σ) :
    Tells (ofSettings client.logged settings (s, [])) := by
  unfold ofSettings
  rw [bind_apply, Action.ofExcept]
  cases settings.connectionText with
  | error fault => exact .inl (List.forall_mem_nil _)
  | ok text =>
    have hconnect := connect_tells client text s
    dsimp only
    rw [bind_apply]
    revert hconnect
    rcases connect client.logged text (s, []) with ⟨fault | session, s₁, log⟩
    · exact id
    · intro hconnect
      cases settings.encoding? with
      | ok encoding => exact History.noted hconnect rfl rfl
      | error fault =>
        obtain ⟨session', s', log', hdone, hdead, h'⟩ := disconnect_history client hconnect s₁
        refine afterStep_tells ?_
        rw [seqRight_eq_bind, bind_apply, hdone]
        exact ⟨h', fun _ => hdead⟩

/-- A session that is told to disconnect last is not connected in the end. -/
theorem performAll_disconnect (tasks : List Task) {session : Session κ} {log : Log κ η}
    (h : History session log) (s : σ) :
    let p := (performAll client (tasks ++ [.disconnect]) (session, (s, log))).2
    p.1.connected = false ∧ History p.1 p.2.2 := by
  induction tasks generalizing session s log with
  | nil =>
    have hbegan : History session (.began .disconnect session :: log) := h.began rfl
    obtain ⟨session', s', log', hdone, hdead, h'⟩ := disconnect_history client hbegan s
    rw [List.nil_append, performAll_cons, Task.perform, hdone]
    exact ⟨hdead, h'⟩
  | cons task rest ih =>
    rw [List.cons_append, performAll_cons]
    exact ih (task.perform_history client (task.perform_extends client) h s) _

/-- **The log of every life is that of a history,** at the end of which there is no connection. -/
theorem over_life (opening : Opening) (tasks : List Task) (s : σ) :
    Over (life client opening tasks s) := by
  have hopening : Tells (opening.perform client.logged (s, [])) := by
    cases opening with
    | ofText text => exact connect_tells client text s
    | ofSettings settings => exact ofSettings_tells client settings s
  unfold life
  revert hopening
  rcases opening.perform client.logged (s, []) with ⟨fault | session, p⟩
  · exact id
  · exact fun h => .inr ⟨_, performAll_disconnect client tasks h p.1⟩

theorem told_life (opening : Opening) (tasks : List Task) (s : σ) :
    Told (life client opening tasks s) :=
  (over_life client opening tasks s).imp_right fun ⟨session, _, h⟩ => ⟨session, h⟩

end Session

end Anywhere
