import Anywhere.Client.Script
import Anywhere.Proofs.LeadingWords
import Anywhere.Proofs.Transcripts

/-!
# The first failure is the one that is reported

What went wrong is known to the client, and only until something else goes wrong. A run that broke
off still releases its statement and rolls back, and both may fail again, so that the client is
asked in time: right behind the call that failed. `Execution.run_reports_firstFailure` says that a
run fails with what the client has to say in the state behind the first call that failed, whatever
comes of the calls behind it.

The state is found by making the calls on record once more. The record can be trusted with that,
because the answers on it are those of the client (`Execution.answers_run`).
-/

namespace Anywhere

open Anywhere.Action

variable {σ κ η α S : Type}

/-! ## The state behind calls on record -/

namespace Client

/-- The state behind the calls, the latest first. -/
def after (client : Client σ κ η) (s : σ) (calls : List (Event κ η)) : σ :=
  calls.foldr (fun e s => (client.answer e.1 s).2) s

/-- The answers on record are what the client says behind the calls in front of them. -/
def Answers (client : Client σ κ η) (s : σ) (record : List (Event κ η)) : Prop :=
  ∀ event earlier, event :: earlier <:+ record →
    event.2 = (client.answer event.1 (client.after s earlier)).1

theorem answers_nil (client : Client σ κ η) (s : σ) : client.Answers s [] :=
  fun _ _ h => absurd h (by simp)

/-- The record grows with the state that it leads to. -/
theorem matches_answers (client : Client σ κ η) (s : σ) :
    client.recorded.Matches
      (fun p t => p.1 = t ∧ client.after s p.2 = t ∧ client.Answers s p.2) client where
  reply := by
    rintro call ⟨_, log⟩ t ⟨rfl, -⟩
    rfl
  state := by
    rintro call ⟨_, log⟩ t ⟨rfl, hafter, hanswers⟩
    refine ⟨rfl, congrArg (fun s => (client.answer call s).2) hafter, ?_⟩
    refine forall_suffix_cons.mpr ⟨?_, hanswers⟩
    dsimp only at hafter
    rw [hafter]

end Client

theorem Execution.answers_run (client : Client σ κ η) (r : Request κ) (values : List Value)
    (options : RunOptions) (e : Execution η) (s : σ) :
    client.Answers s (Operation.record (run client.recorded r values options (e, s, [])).2) :=
  (run_matches (client.matches_answers s) r values options (e, s, []) (e, s)
    ⟨rfl, rfl, rfl, client.answers_nil s⟩).2.2.2.2

/-! ## What is said of a report -/

/-- The failure of an SQL text tells what the client reports: nothing of the report is lost, and the
code decides on the kind of the failure. -/
structure Fault.Reports (fault : Fault) (report : Report) (sql : String) : Prop where
  error : ∃ error, fault.clientError? = some error ∧ error.code = report.code ∧ error.sql = sql ∧
    error.message = (if report.message = "" then Report.silentFailure else report.message) ∧
    error.message ≠ ""
  foreignKeyViolation : (∃ error, fault = .foreignKeyViolation error) ↔ report.code = -194
  uniqueViolation : (∃ error, fault = .uniqueViolation error) ↔ report.code = -196
  invalidArgument : (∃ error, fault = .invalidArgument error) ↔ report.code = -183
  /-- A statement that only reads is itself to blame for what it asks for. -/
  unsupported : (∃ error, fault = .unsupported error) ↔
    report.code = -143 ∧ ¬ ∃ tail, Text.Leads "select".toList sql.toList tail
  statement : (∃ error, fault = .statement error) ↔
    report.code ≠ -194 ∧ report.code ≠ -196 ∧ report.code ≠ -183 ∧
      (report.code = -143 → ∃ tail, Text.Leads "select".toList sql.toList tail)

theorem ClientError.reports_toFault (e : ClientError) {report : Report}
    (hcode : e.code = report.code)
    (hmessage : e.message =
      if report.message = "" then Report.silentFailure else report.message) :
    e.toFault.Reports report e.sql := by
  constructor
  case error =>
    refine ⟨e, e.clientError?_toFault, hcode, rfl, hmessage, ?_⟩
    rw [hmessage]
    split
    · decide
    · assumption
  -- each branch decides on one kind, and the codes are not the same
  all_goals
    simp only [← e.isSelect_iff, ← hcode, Bool.not_eq_true]
    clear hcode hmessage
    fun_cases toFault e <;>
      simp_all [featureNotSupported, noPrimaryKeyValue, indexNotUnique, badArgument]

theorem Report.reports_toFault (report : Report) (sql : String) :
    (report.toFault sql).Reports report sql :=
  ClientError.reports_toFault _ rfl (by simp)

/-! ## The first call that failed -/

/-- There is one first event with a property. -/
theorem first_unique {α : Type} {P : α → Prop} {a b : α} {as bs log : List α}
    (ha : a :: as <:+ log) (hb : b :: bs <:+ log) (hPa : P a) (hPb : P b)
    (has : ∀ x ∈ as, ¬ P x) (hbs : ∀ x ∈ bs, ¬ P x) : a :: as = b :: bs := by
  rcases List.suffix_or_suffix_of_suffix ha hb with h | h
  · rcases List.suffix_cons_iff.mp h with heq | h
    · exact heq
    · exact absurd hPa (hbs a (h.subset List.mem_cons_self))
  · rcases List.suffix_cons_iff.mp h with heq | h
    · exact heq.symm
    · exact absurd hPb (has b (h.subset List.mem_cons_self))

/-- Whose failure ends a run. What is done behind it never counts. -/
def Blamed (r : Request κ) (calls : List (Event κ η)) : Except Fault α → Prop
  | .ok _ => ∀ e ∈ calls, ¬ e.Failed
  | .error fault => ∃ told more, calls = told ++ more ∧ Blames r (fun _ => True) fault told ∧
      ∀ e ∈ more, ¬ e.Failed

namespace Blamed

variable {r : Request κ} {calls : List (Event κ η)} {result : Except Fault α}

theorem exists_failed_iff (h : Blamed r calls result) : (∃ event ∈ calls, event.Failed) ↔
    ∃ fault error, result = .error fault ∧ fault.clientError? = some error := by
  cases result with
  | ok a => exact iff_of_false (fun ⟨event, hevent, hfailed⟩ => h event hevent hfailed) (by simp)
  | error fault =>
    obtain ⟨told, more, rfl, hblames, hmore⟩ := h
    cases hblames with
    | itself htold hnone =>
      have hfine := List.forall_mem_append.mpr ⟨htold, hmore⟩
      exact iff_of_false (fun ⟨event, hevent, hfailed⟩ => hfine event hevent hfailed)
        (by simp [hnone])
    | client _ hfailing hfault =>
      rw [hfault]
      exact iff_of_true ⟨_, by simp, hfailing⟩ ⟨_, _, rfl, ClientError.clientError?_toFault _⟩

/-- The question what went wrong is asked right behind the first call that failed. -/
theorem asked_first (h : Blamed r calls result) {failing : Event κ η} {earlier : List (Event κ η)}
    (hfirst : failing :: earlier <:+ calls.reverse) (hfailing : failing.Failed)
    (hearlier : ∀ event ∈ earlier, ¬ event.Failed) :
    ∃ report, result = .error (report.toFault r.sql) ∧
      ⟨.lastError r.connection, report⟩ :: failing :: earlier <:+ calls.reverse := by
  have hmem : failing ∈ calls := List.mem_reverse.mp (hfirst.subset List.mem_cons_self)
  cases result with
  | ok a => exact absurd hfailing (h failing hmem)
  | error fault =>
    obtain ⟨told, more, rfl, hblames, hmore⟩ := h
    cases hblames with
    | itself htold _ =>
      exact absurd hfailing (List.forall_mem_append.mpr ⟨htold, hmore⟩ failing hmem)
    | @client earlier' failing' report hearlier' hfailing' hfault =>
      have hasked : ⟨.lastError r.connection, report⟩ :: failing' :: earlier'.reverse <:+
          (earlier' ++ [failing', ⟨.lastError r.connection, report⟩] ++ more).reverse :=
        ⟨more.reverse, by simp⟩
      have hfirst' := first_unique hfirst ((List.suffix_cons _ _).trans hasked) hfailing hfailing'
        hearlier (by simpa using hearlier')
      rw [hfirst', hfault]
      exact ⟨report, rfl, hasked⟩

end Blamed

theorem Told.blamed {r : Request κ} {stages : Stage → Prop} {own : List (Event κ η) → Prop}
    {P : List (Event κ η) → α → S → Prop} {calls : List (Event κ η)} {result : Except Fault α}
    {s : S} (h : Told r stages own P calls result s) : Blamed r calls result := by
  cases result with
  | ok a => exact h.2.1
  | error fault =>
    exact ⟨calls, [], (List.append_nil _).symm, h.2.mono fun _ _ => trivial, by simp⟩

theorem Execution.run_blamed (client : Client σ κ η) (r : Request κ) (values : List Value)
    (options : RunOptions) (s : Execution η × σ × List (Event κ η)) :
    Makes Operation.record (run client.recorded r values options) s fun calls result _ =>
      Blamed r calls result := by
  have hdrive : Makes Operation.record (drive client.recorded r values options) s
      fun calls result _ => Blamed r calls result := by
    obtain ⟨calls, hrecord, htold⟩ := drive_told client r values options (s := s)
    exact ⟨calls, hrecord, htold.blamed⟩
  refine makes_run client r values options hdrive (fun _ _ h => h) ?_
  rintro _ fault held reply ⟨told, more, rfl, hblames, hmore⟩
  exact ⟨told, _, List.append_assoc .., hblames,
    List.forall_mem_append.mpr ⟨hmore, fun e he => (ending_of_mem r he).2⟩⟩

/-- **A run fails with the first failure.** If a call failed, then the failure is what the client
reported in the state right behind the first such call, whatever was done later. If no call failed,
the client is not blamed. -/
theorem Execution.run_reports_firstFailure (client : Client σ κ η) (r : Request κ)
    (values : List Value) (options : RunOptions) (e : Execution η) (s : σ) :
    let made := run client.recorded r values options (e, s, [])
    let record := Operation.record made.2
    ((∃ event ∈ record, event.Failed) ↔
      ∃ fault error, made.1 = .error fault ∧ fault.clientError? = some error) ∧
    ∀ failing earlier, failing :: earlier <:+ record → failing.Failed →
      (∀ event ∈ earlier, ¬ event.Failed) → ∃ fault, made.1 = .error fault ∧
        fault.Reports (client.answer (.lastError r.connection)
          (client.after s (failing :: earlier))).1 r.sql := by
  obtain ⟨calls, hrecord, hblamed⟩ := run_blamed client r values options (e, s, [])
  have hanswers := answers_run client r values options e s
  have hcalls : Operation.record (run client.recorded r values options (e, s, [])).2 =
      calls.reverse := hrecord.trans (List.append_nil _)
  rw [hcalls] at hanswers
  dsimp only
  rw [hcalls]
  refine ⟨by simpa using hblamed.exists_failed_iff, ?_⟩
  intro failing earlier hfirst hfailing hearlier
  obtain ⟨report, hresult, hasked⟩ := hblamed.asked_first hfirst hfailing hearlier
  have hreport : report = _ := hanswers _ _ hasked
  rw [← hreport]
  exact ⟨_, hresult, report.reports_toFault r.sql⟩

/-- Inserts are refused without a message, and rolling back fails as well. -/
def Script.refusedTwice : State :=
  .start [] [⟨.execute, "INSERT", ⟨-194, ""⟩, 0, none⟩,
    ⟨.rollback, "", ⟨-308, "Connection was terminated"⟩, 0, none⟩] []

/-- The rollback that failed last is not what the run fails with. -/
theorem Execution.run_refusedTwice :
    let made := run Script.client.recorded ⟨(), "INSERT INTO t VALUES (1)"⟩ []
      ⟨true, .utf8, false⟩ (.idle, Script.refusedTwice, [])
    (Operation.record made.2).head? = some ⟨.rollback (), false⟩ ∧ ∃ fault, made.1 = .error fault ∧
      fault.Reports ⟨-194, ""⟩ "INSERT INTO t VALUES (1)" := by
  have hfirst := (run_reports_firstFailure Script.client ⟨(), "INSERT INTO t VALUES (1)"⟩ []
    ⟨true, .utf8, false⟩ .idle Script.refusedTwice).2
  have hsuffix : [⟨.execute 0, false⟩, ⟨.prepare () "INSERT INTO t VALUES (1)", some 0⟩] <:+
      Operation.record (run Script.client.recorded ⟨(), "INSERT INTO t VALUES (1)"⟩ []
        ⟨true, .utf8, false⟩ (.idle, Script.refusedTwice, [])).2 :=
    ⟨[⟨.rollback (), false⟩, ⟨.free 0, ()⟩, ⟨.lastError (), ⟨-194, ""⟩⟩], by rfl⟩
  have hreport : (Script.client.answer (.lastError ()) (Script.client.after Script.refusedTwice
      [⟨.execute 0, false⟩, ⟨.prepare () "INSERT INTO t VALUES (1)", some 0⟩])).1 = ⟨-194, ""⟩ := by
    decide +kernel
  refine ⟨by rfl, ?_⟩
  rw [← hreport]
  exact hfirst _ _ hsuffix rfl (by simp [Event.Failed])

end Anywhere
