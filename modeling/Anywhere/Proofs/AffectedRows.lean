import Anywhere.Proofs.Fetching
import Anywhere.Proofs.Lifetimes

/-!
# The number of affected rows

A session tells how many rows its last statement affected. The client is asked for the number right
before the statement is released, and if all goes well, this is the number that the session tells
(`Client.run_counted`). A statement that fails in its run counts for no rows, wherever it breaks
off.

A session that is not connected refuses a statement before there is a run, and then keeps the number
of the statement before it. So what a session tells is up to date exactly if it is connected, or if
there is nothing to be forgotten.
-/

namespace Anywhere

open Anywhere.Action Anywhere.Operation

variable {σ κ η : Type}

namespace Execution

/-- The calls of a run that succeeds. The last thing that is done with its statement before it is
released is to ask how many rows it affected. -/
def Counted (r : Request κ) (autoCommit : Bool) (count : Nat) (calls : List (Event κ η)) : Prop :=
  ∃ statement quiet, (∀ e ∈ quiet, Event.Quiet statement e) ∧
    calls = work r statement (quiet ++ [⟨.affectedRows statement, some count⟩]) ++
      if autoCommit then [⟨.commit r.connection, true⟩] else []

variable (client : Client σ κ η) (r : Request κ)

/-! ## The answer is kept -/

/-- All that is done with a statement before its rows are counted. -/
def fetchResult (values : List Value) (options : RunOptions) : Step σ η ResultSet := do
  bind client r options.encoding values
  execute client r
  fetchIfWanted client r options

theorem useStatement_eq (values : List Value) (options : RunOptions) :
    useStatement client r values options = (do
      let result ← fetchResult client r values options
      countAffected client r
      return result) := by
  simp [useStatement, fetchResult]

theorem fetchResult_busy (statement : η) (values : List Value) (options : RunOptions) :
    Busy statement (fetchResult client.recorded r values options) := by
  refine .bind (bind_busy options.encoding values) fun _ => .bind execute_busy fun _ => ?_
  unfold fetchIfWanted
  split
  · exact fetch_busy options.encoding
  · exact .pure _

variable {statement : η} {s : Execution η × σ × List (Event κ η)}

theorem countAffected_makes (hs : s.1.statement = some statement) :
    Makes record (countAffected client.recorded r) s fun calls result s' =>
      result.isOk = true → s'.1.statement = some statement ∧
        calls = [⟨.affectedRows statement, some s'.1.affectedRows⟩] := by
  refine makes_withStatement hs (makes_bind_ask fun reply t => ?_)
  cases reply with
  | none => exact makes_bind_fail fun report _ hok => absurd hok Bool.false_ne_true
  | some count =>
    rw [bind_require_some]
    exact makes_update fun _ => ⟨hs, rfl⟩

theorem useStatement_makes (hs : s.1.statement = some statement) (values : List Value)
    (options : RunOptions) :
    Makes record (useStatement client.recorded r values options) s fun calls result s' =>
      result.isOk = true → s'.1.statement = some statement ∧
        ∃ quiet, (∀ e ∈ quiet, Event.Quiet statement e) ∧
          calls = quiet ++ [⟨.affectedRows statement, some s'.1.affectedRows⟩] := by
  rw [useStatement_eq]
  refine Makes.bind ((fetchResult_busy client r statement values options).makes hs) ?_
    fun _ _ _ _ => nofun
  rintro quiet result s₁ ⟨hquiet, hs₁⟩
  refine Makes.bind (countAffected_makes client r hs₁) ?_ fun _ _ _ _ => nofun
  intro calls _ s₂ hcounted
  obtain ⟨hs₂, rfl⟩ := hcounted rfl
  exact Makes.pure fun _ => ⟨hs₂, quiet, hquiet, by rw [List.append_nil]⟩

/-- The end of an execution has no say in the number of rows. -/
theorem affectedRows_finish (autoCommit : Bool) (p : Execution η × σ) :
    (finish client r autoCommit p).2.1.affectedRows = p.1.affectedRows := by
  obtain ⟨⟨phase, held, count⟩, s⟩ := p
  have hfree : ∃ phase' s', free client (⟨phase, held, count⟩, s) =
      (.ok (), (⟨phase', none, count⟩, s')) := by
    cases held with
    | none => exact ⟨phase, s, rfl⟩
    | some statement => exact ⟨.freed, _, free_of_open phase count rfl⟩
  obtain ⟨phase', s', hfree⟩ := hfree
  rw [finish, bind_apply, hfree]
  cases autoCommit with
  | false => rfl
  | true =>
    rcases hcommit : client.answer (.commit r.connection) s' with ⟨committed, t⟩
    cases committed <;>
      simp [bind_apply, Operation.ask, Action.ask, ofAction, check, fail, enter, update, hcommit]

/-- **A run that succeeds keeps the number that the client gave.** -/
theorem drive_counted (values : List Value) (options : RunOptions) :
    Makes record (drive client.recorded r values options) s fun calls result s' =>
      result.isOk = true → Counted r options.autoCommit s'.1.affectedRows calls := by
  rw [drive_eq]
  refine Makes.bind (prepare_makes client r s) ?_ fun _ _ _ _ => nofun
  rintro _ _ s₁ ⟨statement, hs₁, rfl⟩
  refine Makes.bind (useStatement_makes client r hs₁ values options) ?_ fun _ _ _ _ => nofun
  intro _ result s₂ hused
  obtain ⟨hs₂, quiet, hquiet, rfl⟩ := hused rfl
  have hcount := affectedRows_finish client.recorded r options.autoCommit s₂
  obtain ⟨calls, hrecord, -, hcalls⟩ := finish_makes client r options.autoCommit s₂
  have hfinish : Makes record (finish client.recorded r options.autoCommit) s₂
      fun calls result s' => result.isOk = true →
        s'.1.affectedRows = s₂.1.affectedRows ∧ calls = release s₂.1.statement ++
          if options.autoCommit then [⟨.commit r.connection, true⟩] else [] := by
    refine ⟨calls, hrecord, fun hok => ⟨hcount, ?_⟩⟩
    cases hresult : (finish client.recorded r options.autoCommit s₂).1 with
    | error fault =>
      rw [hresult] at hok
      exact nomatch hok
    | ok _ =>
      rw [hresult] at hcalls
      exact hcalls
  refine Makes.bind hfinish ?_ fun _ _ _ _ => nofun
  intro _ _ s₃ hfinished
  obtain ⟨hsame, rfl⟩ := hfinished rfl
  refine Makes.pure fun _ => ⟨statement, quiet, hquiet, ?_⟩
  rw [hsame, hs₂]
  simp [work, release]

end Execution

namespace Client

variable (client : Client σ κ η) (r : Request κ) (values : List Value) (options : RunOptions)

/-- **The number of rows that a run tells is the answer of the client.** -/
theorem run_counted (s : σ) (log : List (Event κ η)) {outcome : Outcome}
    (hok : (client.recorded.run r values options (s, log)).1 = .ok outcome) :
    ∃ calls, (client.recorded.run r values options (s, log)).2.2 = calls.reverse ++ log ∧
      Execution.Counted r options.autoCommit outcome.affectedRows calls := by
  obtain ⟨calls, hrecord, hcounted⟩ := Execution.drive_counted client r values options
    (s := (.idle, (s, log)))
  rw [client.recorded_run_eq] at hok ⊢
  rcases hdrive : Execution.drive client.recorded r values options (.idle, (s, log)) with
    ⟨fault | result, p⟩
  · obtain ⟨fault', hfailed⟩ := Execution.run_of_drive_error hdrive
    rw [hfailed] at hok
    exact nomatch hok
  · rw [hdrive] at hrecord hcounted
    rw [Execution.run_of_drive_ok hdrive] at hok ⊢
    cases hok
    exact ⟨calls, hrecord, hcounted rfl⟩

theorem logged_run_counted (s : σ) (log : Session.Log κ η) {outcome : Outcome}
    (hok : (client.logged.run r values options (s, log)).1 = .ok outcome) :
    ∃ calls, (client.logged.run r values options (s, log)).2.2 =
        calls.reverse.map .called ++ log ∧
      Execution.Counted r options.autoCommit outcome.affectedRows calls := by
  obtain ⟨hresult, -, hlog⟩ := (client.observed_matches (fun e log => .called e :: log) log).run
    r values options (s, log) (s, []) ⟨rfl, rfl⟩
  obtain ⟨calls, hcalls, hcounted⟩ := client.run_counted r values options s [] (hresult ▸ hok)
  rw [hcalls, List.append_nil, List.foldr_cons_eq_append] at hlog
  exact ⟨calls, hlog, hcounted⟩

end Client

namespace Session

/-! ## What a session tells -/

/-- The statement that a task runs, with its parameters and whether its rows are of interest. -/
def Task.statement? : Task → Option (String × List Value × Bool)
  | .execute sql => some (sql, [], false)
  | .query sql values => some (sql, values, true)
  | .update sql values => some (sql, values, true)
  | .select q => some (q.render.sql, q.render.parameters.map Parameter.value, true)
  | .selectValue sql => some (sql, [], true)
  | .lastInsertedId => some ("SELECT @@IDENTITY", [], true)
  | _ => none

/-- The tasks that run one statement only differ in what they make of its outcome. -/
theorem Task.perform_of_statement (client : Client σ κ η) {task : Task} {sql : String}
    {values : List Value} {fetchRows : Bool}
    (h : task.statement? = some (sql, values, fetchRows)) :
    task.perform client = discard (run client.logged sql values fetchRows) := by
  cases task with
  | execute sql' =>
    cases h
    exact discard_map _ _
  | query sql' values' =>
    cases h
    exact discard_map _ _
  | update sql' values' =>
    cases h
    exact discard_map _ _
  | select q =>
    cases h
    exact discard_map _ _
  | selectValue sql' =>
    cases h
    rw [Task.perform, Session.selectValue, ← map_eq_pure_bind, discard_map]
    exact discard_map _ _
  | lastInsertedId =>
    cases h
    rw [Task.perform, Session.lastInsertedId, ← map_eq_pure_bind, discard_map,
      Session.selectValue, ← map_eq_pure_bind, discard_map]
    exact discard_map _ _
  | _ => cases h

/-- The session tells how many rows the statement affected that was run behind the log: as many as
the client said if it succeeded, and none if it failed. -/
def UpToDate (r : Request κ) (autoCommit : Bool) (log : Log κ η) :
    Except Fault Unit × Session κ × σ × Log κ η → Prop
  | (.ok _, (session, (_, log'))) =>
    ∃ calls, Execution.Counted r autoCommit session.affectedRows calls ∧
      log' = calls.reverse.map .called ++ log
  | (.error _, (session, _)) => session.affectedRows = 0

/-- With a connection, the session is always up to date. -/
theorem upToDate_of_connected (client : Client σ κ η) {session : Session κ}
    (hconnected : session.connected = true) (sql : String) (values : List Value)
    (fetchRows : Bool) (s : σ) (log : Log κ η) :
    UpToDate ⟨session.connection, sql⟩ session.autoCommit log
      (discard (run client.logged sql values fetchRows) (session, (s, log))) := by
  rw [discard_apply, run_of_connected hconnected]
  rcases hrun : client.logged.run ⟨session.connection, sql⟩ values (session.options fetchRows)
    (s, log) with ⟨fault | outcome, p⟩
  · rfl
  · have hok : (client.logged.run ⟨session.connection, sql⟩ values (session.options fetchRows)
        (s, log)).1 = .ok outcome := by rw [hrun]
    obtain ⟨calls, hlog, hcounted⟩ := client.logged_run_counted _ _ _ _ _ hok
    rw [hrun] at hlog
    exact ⟨calls, hcounted, hlog⟩

/-- **What a session tells is up to date exactly if it is connected or has nothing to forget.**
Behind a statement that succeeded a session tells the number of rows that the client gave for it,
and behind one that failed it tells that there were none, unless the session is not connected and
still tells the number of an earlier statement. -/
theorem upToDate_iff (client : Client σ κ η) {task : Task} {sql : String} {values : List Value}
    {fetchRows : Bool} (h : task.statement? = some (sql, values, fetchRows)) (session : Session κ)
    (s : σ) (log : Log κ η) :
    UpToDate ⟨session.connection, sql⟩ session.autoCommit log
        (task.perform client (session, (s, log))) ↔
      session.connected = true ∨ session.affectedRows = 0 := by
  rw [Task.perform_of_statement client h]
  cases hconnected : session.connected with
  | true =>
    have hfresh := upToDate_of_connected client hconnected sql values fetchRows s log
    exact iff_of_true hfresh (.inl rfl)
  | false =>
    rw [discard_apply, run_of_disconnected hconnected]
    simp [UpToDate, Except.map]

/-! ### Statements behind a disconnect -/

/-- Updates affect three rows. -/
def threeRows : Script.State := .start [⟨"UPDATE", [], [], some 3⟩] [] []

/-- A connected session that still tells of seven rows. -/
def sevenTold : Session Unit := ⟨(), "UID=dba;PWD=sql", .utf8, true, true, 7⟩

theorem upToDate_threeRows :
    (Task.execute "UPDATE a SET n = 1").statement? = some ("UPDATE a SET n = 1", [], false) ∧
      UpToDate ⟨sevenTold.connection, "UPDATE a SET n = 1"⟩ sevenTold.autoCommit []
        (Task.perform Script.client (.execute "UPDATE a SET n = 1") (sevenTold, (threeRows, []))) ∧
      (Task.perform Script.client (.execute "UPDATE a SET n = 1")
        (sevenTold, (threeRows, []))).2.1.affectedRows = 3 := by
  have hstatement : (Task.execute "UPDATE a SET n = 1").statement? =
      some ("UPDATE a SET n = 1", [], false) := rfl
  have htold := upToDate_iff Script.client hstatement sevenTold threeRows []
  exact ⟨hstatement, htold.mpr (.inl rfl), by decide +kernel⟩

/-- What is left of a session that was opened and did tasks, if it could be opened. -/
def reached (client : Client σ κ η) (opening : Opening) (tasks : List Task) (s : σ) :
    Option (Session κ × σ × Log κ η) :=
  match opening.perform client.logged (s, []) with
  | (.error _, _) => none
  | (.ok session, p) => some (performAll client tasks (session, p)).2

/-- The update that is refused behind the disconnect passes for one that affected three rows. -/
theorem not_upToDate_disconnected :
    ∃ p, reached Script.client (.ofText "UID=dba;PWD=sql")
        [.execute "UPDATE a SET n = 1", .disconnect] threeRows = some p ∧
      ¬ UpToDate ⟨(), "UPDATE a SET n = 2"⟩ p.1.autoCommit p.2.2
        (Task.perform Script.client (.execute "UPDATE a SET n = 2") p) := by
  have hstale : (reached Script.client (.ofText "UID=dba;PWD=sql")
      [.execute "UPDATE a SET n = 1", .disconnect] threeRows).map (fun p =>
        let q := Task.perform Script.client (.execute "UPDATE a SET n = 2") p
        (q.1.isOk, q.2.1.affectedRows)) = some (false, 3) := by
    decide +kernel
  obtain ⟨p, hreached, htold⟩ := Option.map_eq_some_iff.mp hstale
  refine ⟨p, hreached, ?_⟩
  revert htold
  rcases Task.perform Script.client (.execute "UPDATE a SET n = 2") p with ⟨fault | _, q⟩
  · intro htold hnone
    exact absurd ((congrArg Prod.snd htold).symm.trans hnone) (by decide)
  · intro htold
    exact nomatch congrArg Prod.fst htold

end Session

end Anywhere
