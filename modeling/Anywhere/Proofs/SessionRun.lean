import Anywhere.Proofs.Cleanup
import Anywhere.Proofs.Simulation

/-!
# Statements of a session, one at a time

A session adds little to a run: it says for whom the statement is run and whether it is to be
committed, and it keeps the number of affected rows. Here a statement of a session is brought down
to the run behind it, with its result, with what the session knows afterwards, and with its calls.
-/

namespace Anywhere

open Anywhere.Action

variable {σ κ η τ : Type}

/-- A record of the calls has no say in the answers. -/
theorem Client.recorded_matches (client : Client σ κ η) :
    client.recorded.Matches (fun s t => s.1 = t) client where
  reply := by
    rintro call ⟨s, log⟩ _ rfl
    rfl
  state := by
    rintro call ⟨s, log⟩ _ rfl
    rfl

/-- The calls of a run and of letting go of it, on top of what was on record. -/
theorem Client.run_course (client : Client σ κ η) (r : Request κ) (values : List Value)
    (options : RunOptions) (s : σ) (log : List (Event κ η)) :
    ∃ calls, (client.recorded.run r values options (s, log)).2.2 = calls.reverse ++ log ∧
      Execution.Course r options.autoCommit calls
        (client.recorded.run r values options (s, log)).1.isOk := by
  obtain ⟨calls, hr, -, hcourse⟩ :=
    Execution.run_makes client r values options (.idle, (s, log)) rfl
  rw [client.recorded_run_eq]
  exact ⟨calls, hr, hcourse⟩

/-- What an observer notes is what comes of the calls on record. -/
theorem Client.observed_matches (client : Client σ κ η) (note : Event κ η → τ → τ) (noted : τ) :
    (client.observed note).Matches (fun s t => s.1 = t.1 ∧ s.2 = t.2.foldr note noted)
      client.recorded where
  reply := by
    rintro call ⟨s, _⟩ ⟨t, log⟩ ⟨hs, -⟩
    cases hs
    rfl
  state := by
    rintro call ⟨s, _⟩ ⟨t, log⟩ ⟨hs, hnoted⟩
    cases hs
    cases hnoted
    exact ⟨rfl, rfl⟩

/-- A run under observation has a course, and its calls are what is noted. -/
theorem Client.observed_run_course (client : Client σ κ η) (note : Event κ η → τ → τ)
    (r : Request κ) (values : List Value) (options : RunOptions) (s : σ) (noted : τ) :
    ∃ calls, ((client.observed note).run r values options (s, noted)).2.2 =
        calls.reverse.foldr note noted ∧
      Execution.Course r options.autoCommit calls
        ((client.observed note).run r values options (s, noted)).1.isOk := by
  obtain ⟨hresult, -, hnoted⟩ := (client.observed_matches note noted).run r values options
    (s, noted) (s, []) ⟨rfl, rfl⟩
  obtain ⟨calls, hcalls, hcourse⟩ := client.run_course r values options s []
  rw [hcalls, List.append_nil] at hnoted
  rw [← hresult] at hcourse
  exact ⟨calls, hnoted, hcourse⟩

namespace Session

variable {client : Client σ κ η} {session : Session κ} {sql : String} {values : List Value}
  {fetchRows : Bool} {s : σ}

/-- How the session runs its statements. -/
def options (session : Session κ) (fetchRows : Bool) : RunOptions :=
  ⟨session.autoCommit, session.encoding, fetchRows⟩

/-- The number of rows that a statement affected; none if it failed. -/
def affectedBy : Except Fault Outcome → Nat
  | .ok outcome => outcome.affectedRows
  | .error _ => 0

theorem run_of_disconnected (h : session.connected = false) :
    run client sql values fetchRows (session, s) =
      (.error (.connection .disconnected), (session, s)) := by
  simp [run, bind_apply, Operation.track, h]

theorem run_of_connected (h : session.connected = true) :
    run client sql values fetchRows (session, s) =
      let (result, t) := client.run ⟨session.connection, sql⟩ values (session.options fetchRows) s
      (result, ({ session with affectedRows := affectedBy result }, t)) := by
  have hcaught : ∀ action : Action σ Outcome,
      (tryCatch (Operation.ofAction action) (fun fault => do
        Operation.update fun s => { s with affectedRows := 0 }
        throw fault) : Step σ κ Outcome) (session, s) =
      match action s with
      | (.ok outcome, t) => (.ok outcome, (session, t))
      | (.error fault, t) => (.error fault, ({ session with affectedRows := 0 }, t)) := by
    intro action
    change orElse _ _ (session, s) = _
    rw [orElse, Operation.ofAction]
    rcases action s with ⟨_ | _, t⟩
    · rfl
    · rfl
  rw [run, bind_apply]
  dsimp only [Operation.track]
  rw [if_neg (by simp [h]), bind_apply, hcaught, ← options]
  rcases client.run ⟨session.connection, sql⟩ values (session.options fetchRows) s with
    ⟨fault | outcome, t⟩
  · rfl
  · rfl

/-- The record of a statement is that of the run behind it. -/
theorem record_run_of_connected (h : session.connected = true) :
    Operation.record (run client.recorded sql values fetchRows (session, s, [])).2 =
      (client.recorded.run ⟨session.connection, sql⟩ values (session.options fetchRows)
        (s, [])).2.2 := by
  rw [run_of_connected h]
  rfl

/-- The rows of a query are those of the run behind it. -/
theorem query_of_connected (h : session.connected = true) :
    (query client sql values (session, s)).1 =
      (client.run ⟨session.connection, sql⟩ values (session.options true) s).1.map
        Outcome.result := by
  rw [query, map_apply, run_of_connected h]

/-- Beyond its rows, a query leaves behind what the statement leaves behind. -/
theorem query_state (p : Session κ × σ) :
    (query client sql values p).2 = (run client sql values true p).2 := by
  rw [query, map_apply]

/-- A query on record has the result of the query, and its calls are those of one run. -/
theorem query_course (client : Client σ κ η) (sql : String) (values : List Value) (s : σ)
    (h : session.connected = true) :
    ∃ calls, (query client.recorded sql values (session, (s, []))).2.2.2 = calls.reverse ∧
      (query client.recorded sql values (session, (s, []))).1 =
        (query client sql values (session, s)).1 ∧
      Execution.Course ⟨session.connection, sql⟩ session.autoCommit calls
        (query client sql values (session, s)).1.isOk := by
  obtain ⟨calls, hcalls, hcourse⟩ := client.run_course ⟨session.connection, sql⟩ values
    (session.options true) s []
  have hresult : (query client.recorded sql values (session, (s, []))).1 =
      (query client sql values (session, s)).1 :=
    (query_matches client.recorded_matches sql values (session, (s, [])) (session, s)
      ⟨rfl, rfl⟩).1
  refine ⟨calls, ?_, hresult, ?_⟩
  · rw [query_state, run_of_connected h]
    exact hcalls.trans (List.append_nil _)
  · rw [← hresult, query_of_connected h]
    rcases hrun : (client.recorded.run ⟨session.connection, sql⟩ values (session.options true)
      (s, [])).1 with fault | outcome <;> rw [hrun] at hcourse
    · exact hcourse
    · exact hcourse

end Session

end Anywhere
