import Anywhere.Client.Script
import Anywhere.Proofs.SessionRun
import Mathlib.Data.List.DropRight

/-!
# What a transaction makes last

Next to the client there is a ledger of the server: the statements whose effects are pending and
those whose effects last. Only a rollback and a commit change it, and each statement that comes to a
result joins the pending ones.

A statement that fails takes the whole connection back, and the session goes on with its transaction
all the same. So a transaction whose commit succeeds makes exactly those statements last that
succeeded behind the last failure, which `Session.transaction_durable` says. That these are all
statements that succeeded, or none of them, is true exactly as long as the last failure does not
stand between two of them.
-/

namespace Anywhere

open Anywhere.Action

variable {σ σ' κ η : Type}

/-! ## The ledger of the server -/

/-- A statement as it is handed to a session. -/
structure Session.Command where
  sql : String
  values : List Value
  fetchRows : Bool
deriving DecidableEq, Repr

/-- The statements whose effects are pending, and those whose effects last. -/
structure Ledger where
  pending : List Session.Command
  durable : List Session.Command
deriving DecidableEq, Repr

namespace Ledger

/-- The pending effects are gone. -/
def clear (ledger : Ledger) : Ledger := { ledger with pending := [] }

/-- The pending effects last. -/
def settle (ledger : Ledger) : Ledger := ⟨[], ledger.durable ++ ledger.pending⟩

/-- A rollback clears the ledger, and a commit that succeeds settles it. -/
def note : Event κ η → Ledger → Ledger
  | ⟨.rollback _, _⟩, ledger => ledger.clear
  | ⟨.commit _, true⟩, ledger => ledger.settle
  | _, ledger => ledger

theorem note_of_quiet {e : Event κ η} (hrollback : Event.rolledBack? e = none)
    (hcommit : Event.committed? e ≠ some true) (ledger : Ledger) : note e ledger = ledger := by
  obtain ⟨call, reply⟩ := e
  cases call with
  | rollback connection => exact nomatch hrollback
  | commit connection =>
    cases reply with
    | true => exact absurd rfl hcommit
    | false => rfl
  | _ => rfl

/-- Calls among which there is no rollback and no commit that succeeds do not change the ledger. -/
theorem foldr_note_of_quiet {calls : List (Event κ η)}
    (hrollback : calls.filterMap Event.rolledBack? = [])
    (hcommit : ∀ committed ∈ calls.filterMap Event.committed?, committed = false)
    (ledger : Ledger) : calls.reverse.foldr note ledger = ledger := by
  have hkept : ∀ e ∈ calls.reverse, ∀ ledger, note e ledger = ledger := by
    intro e he
    rw [List.mem_reverse] at he
    refine note_of_quiet (List.filterMap_eq_nil_iff.mp hrollback e he) fun hreply => ?_
    exact Bool.false_ne_true (hcommit true (List.mem_filterMap.mpr ⟨e, he, hreply⟩)).symm
  generalize calls.reverse = log at hkept ⊢
  induction log with
  | nil => rfl
  | cons e log ih =>
    rw [List.foldr_cons, ih fun e' he' => hkept e' (List.mem_cons_of_mem e he')]
    exact hkept e List.mem_cons_self ledger

/-- The ledger behind one statement of a transaction. -/
def mark (ledger : Ledger) (command : Session.Command) (succeeded : Bool) : Ledger :=
  if succeeded then { ledger with pending := ledger.pending ++ [command] } else ledger.clear

/-- The ledger behind the statements of a transaction. -/
def marks (ledger : Ledger) (attempts : List (Session.Command × Bool)) : Ledger :=
  attempts.foldl (fun ledger attempt => ledger.mark attempt.1 attempt.2) ledger

/-- What is pending: the statements behind the last failure, on top of what was pending before if
there was none. -/
theorem marks_eq (ledger : Ledger) (attempts : List (Session.Command × Bool)) :
    ledger.marks attempts =
      ⟨(if attempts.all Prod.snd then ledger.pending else []) ++
        (attempts.rtakeWhile Prod.snd).map Prod.fst, ledger.durable⟩ := by
  -- the ledger is marked from the front, so what is last is marked last
  induction attempts using List.reverseRecOn with
  | nil => simp [marks]
  | append_singleton attempts attempt ih =>
    obtain ⟨command, succeeded⟩ := attempt
    have hstep : ledger.marks (attempts ++ [(command, succeeded)]) =
        (ledger.marks attempts).mark command succeeded := by
      simp [marks]
    rw [hstep, ih]
    cases succeeded with
    | true =>
      have hall : (attempts ++ [(command, true)]).all Prod.snd = attempts.all Prod.snd := by simp
      rw [hall]
      simp [mark]
    | false => simp [mark, clear]

end Ledger

/-! ## Transactions -/

namespace Session

variable (client : Client σ κ η)

/-- Runs a statement and tells whether that succeeds; if so, its effect is pending. -/
def attempt (command : Command) : Step (σ × Ledger) κ Bool :=
  tryCatch
    (do
      let _ ← run (client.observed Ledger.note) command.sql command.values command.fetchRows
      Operation.ofAction fun (s, ledger) => (.ok (), (s, ledger.mark command true))
      return true)
    fun _ => return false

/-- Begins a transaction, attempts one statement after the other, and commits. -/
def transaction (commands : List Command) : Step (σ × Ledger) κ (List Bool) := do
  beginTransaction
  let outcomes ← commands.mapM (attempt client)
  commit (client.observed Ledger.note)
  return outcomes

/-- The statements that succeeded. -/
def succeeded (attempts : List (Command × Bool)) : List Command :=
  (attempts.filter Prod.snd).map Prod.fst

/-- The statements that succeeded behind the last failure. -/
def lasting (attempts : List (Command × Bool)) : List Command :=
  (attempts.rtakeWhile Prod.snd).map Prod.fst

/-- The last failure stands between two successes. -/
def Divided (outcomes : List Bool) : Prop :=
  true ∈ outcomes.rdropWhile id ∧ outcomes.rtakeWhile id ≠ []

instance (outcomes : List Bool) : Decidable (Divided outcomes) :=
  inferInstanceAs (Decidable (_ ∧ _))

theorem rtakeWhile_map_snd (attempts : List (Command × Bool)) :
    (attempts.map Prod.snd).rtakeWhile id = (attempts.rtakeWhile Prod.snd).map Prod.snd := by
  simp [List.rtakeWhile, ← List.map_reverse, List.takeWhile_map]

theorem rdropWhile_map_snd (attempts : List (Command × Bool)) :
    (attempts.map Prod.snd).rdropWhile id = (attempts.rdropWhile Prod.snd).map Prod.snd := by
  simp [List.rdropWhile, ← List.map_reverse, List.dropWhile_map]

theorem all_snd (attempts : List (Command × Bool)) :
    attempts.all Prod.snd = !(attempts.map Prod.snd).contains false := by
  induction attempts with
  | nil => rfl
  | cons attempt rest ih =>
    obtain ⟨command, succeeded⟩ := attempt
    rw [List.all_cons, ih]
    cases succeeded with
    | true => simp
    | false => simp

/-- What lasts comes last among what succeeded. -/
theorem succeeded_eq (attempts : List (Command × Bool)) :
    succeeded attempts = succeeded (attempts.rdropWhile Prod.snd) ++ lasting attempts := by
  have hlast : (attempts.rtakeWhile Prod.snd).filter Prod.snd = attempts.rtakeWhile Prod.snd :=
    List.filter_eq_self.mpr fun _ h => List.mem_rtakeWhile_imp h
  conv_lhs => rw [← List.rdropWhile_append_rtakeWhile (p := Prod.snd) (l := attempts)]
  rw [succeeded, List.filter_append, hlast, List.map_append]
  rfl

/-- **All that succeeded lasts, or nothing of it, unless the last failure divides it.** -/
theorem lasting_all_or_nothing (attempts : List (Command × Bool)) :
    (lasting attempts = succeeded attempts ∨ lasting attempts = []) ↔
      ¬ Divided (attempts.map Prod.snd) := by
  have hall : lasting attempts = succeeded attempts ↔
      true ∉ (attempts.rdropWhile Prod.snd).map Prod.snd := by
    rw [succeeded_eq, List.self_eq_append_left]
    simp [succeeded, List.filter_eq_nil_iff]
  have hnone : lasting attempts = [] ↔ (attempts.rtakeWhile Prod.snd).map Prod.snd = [] := by
    simp [lasting]
  rw [Divided, rtakeWhile_map_snd, rdropWhile_map_snd, hall, hnone, not_and_or, not_not]

end Session

/-! ## The ledger behind a run -/

/-- A run of a transaction leaves the ledger alone if it succeeds, and clears it if it fails. -/
theorem Client.run_ledger (client : Client σ κ η) (r : Request κ) (values : List Value)
    (encoding : Text.Encoding) (fetchRows : Bool) (s : σ) (ledger : Ledger) :
    let (result, (_, ledger')) :=
      (client.observed Ledger.note).run r values ⟨false, encoding, fetchRows⟩ (s, ledger)
    ledger' = if result.isOk then ledger else ledger.clear := by
  obtain ⟨calls, hledger, hcourse⟩ := client.observed_run_course Ledger.note r values
    ⟨false, encoding, fetchRows⟩ s ledger
  have horderly := hcourse.orderly
  dsimp only
  rw [hledger]
  cases hok : ((client.observed Ledger.note).run r values ⟨false, encoding, fetchRows⟩
    (s, ledger)).1.isOk with
  | true =>
    rw [hok] at horderly
    obtain ⟨hcommitted, hrolledBack⟩ := horderly.success rfl
    rw [if_pos rfl]
    exact Ledger.foldr_note_of_quiet hrolledBack (by rw [hcommitted]; nofun) ledger
  | false =>
    rw [hok] at horderly
    obtain ⟨earlier, reply, rfl, hrolledBack, hcommitted⟩ := horderly.failure rfl
    -- a rollback is the last call, and what came before it changed nothing
    rw [List.reverse_append, List.foldr_append,
      Ledger.foldr_note_of_quiet hrolledBack hcommitted ledger]
    rfl

/-! ## One statement after the other -/

namespace Session

variable (client : Client σ κ η) {session : Session κ} (s : σ) (ledger : Ledger)

/-- A session in a transaction. -/
structure Within (session : Session κ) : Prop where
  connected : session.connected = true
  begun : session.autoCommit = false

/-- One statement of a transaction marks the ledger, and the transaction goes on. -/
theorem attempt_within (h : session.Within) (command : Command) :
    ∃ succeeded session' s', attempt client command (session, (s, ledger)) =
        (.ok succeeded, (session', (s', ledger.mark command succeeded))) ∧ session'.Within := by
  have hledger := client.run_ledger ⟨session.connection, command.sql⟩ command.values
    session.encoding command.fetchRows s ledger
  have hrun : run (client.observed Ledger.note) command.sql command.values command.fetchRows
      (session, (s, ledger)) = _ := run_of_connected h.connected
  have hoptions : session.options command.fetchRows =
      ⟨false, session.encoding, command.fetchRows⟩ := by
    rw [options, h.begun]
  rw [hoptions] at hrun
  -- either way, the number of affected rows is all that changes in the session
  rcases hmade : (client.observed Ledger.note).run ⟨session.connection, command.sql⟩ command.values
    ⟨false, session.encoding, command.fetchRows⟩ (s, ledger) with ⟨fault | outcome, s', ledger'⟩
  · rw [hmade] at hledger hrun
    refine ⟨false, { session with affectedRows := 0 }, s', ?_, h.connected, h.begun⟩
    change orElse _ _ _ = _
    rw [orElse, bind_apply, hrun, hledger]
    rfl
  · rw [hmade] at hledger hrun
    refine ⟨true, { session with affectedRows := outcome.affectedRows }, s', ?_, h.connected,
      h.begun⟩
    change orElse _ _ _ = _
    rw [orElse, bind_apply, hrun, hledger]
    rfl

/-- The statements of a transaction mark the ledger one after the other. -/
theorem attempts_within (h : session.Within) (commands : List Command) :
    ∃ outcomes session' s', commands.mapM (attempt client) (session, (s, ledger)) =
        (.ok outcomes, (session', (s', ledger.marks (commands.zip outcomes)))) ∧
      session'.Within ∧ outcomes.length = commands.length := by
  induction commands generalizing session s ledger with
  | nil => exact ⟨[], session, s, rfl, h, rfl⟩
  | cons command rest ih =>
    obtain ⟨succeeded, session₁, s₁, hfirst, h₁⟩ := attempt_within client s ledger h command
    obtain ⟨outcomes, session₂, s₂, hrest, h₂, hlength⟩ := ih s₁ (ledger.mark command succeeded) h₁
    refine ⟨succeeded :: outcomes, session₂, s₂, ?_, h₂, by simp [hlength]⟩
    rw [List.mapM_cons, bind_apply, hfirst]
    dsimp only
    rw [bind_apply, hrest]
    rfl

/-- Without a connection, all statements of a transaction fail, and nothing else happens. -/
theorem attempts_disconnected (h : session.connected = false) (commands : List Command) :
    commands.mapM (attempt client) (session, (s, ledger)) =
      (.ok (commands.map fun _ => false), (session, (s, ledger))) := by
  induction commands with
  | nil => rfl
  | cons command rest ih =>
    have hfirst : attempt client command (session, (s, ledger)) =
        (.ok false, (session, (s, ledger))) := by
      change orElse _ _ _ = _
      rw [orElse, bind_apply, run_of_disconnected h]
      rfl
    rw [List.mapM_cons, bind_apply, hfirst]
    dsimp only
    rw [bind_apply, ih]
    rfl

/-- Behind the statements of a transaction those are pending that succeeded behind the last failure,
and what was pending before, unless a statement failed on the server. -/
theorem attempts_pending (hbegun : session.autoCommit = false) (commands : List Command) :
    ∃ outcomes session' s' ledger', commands.mapM (attempt client) (session, (s, ledger)) =
        (.ok outcomes, (session', (s', ledger'))) ∧
      outcomes.length = commands.length ∧ ledger'.durable = ledger.durable ∧
      ledger'.pending =
        (if session.connected && outcomes.contains false then [] else ledger.pending) ++
          lasting (commands.zip outcomes) := by
  cases hconnected : session.connected with
  | false =>
    refine ⟨_, _, _, _, attempts_disconnected client s ledger hconnected commands,
      List.length_map .., rfl, ?_⟩
    have hfailed : ∀ attempt ∈ commands.zip (commands.map fun _ => false), attempt.2 = false := by
      intro attempt hmem
      obtain ⟨_, -, hfalse⟩ := List.mem_map.mp (List.of_mem_zip hmem).2
      exact hfalse.symm
    have hnone : lasting (commands.zip (commands.map fun _ => false)) = [] := by
      rw [lasting, List.map_eq_nil_iff, List.rtakeWhile_eq_nil_iff]
      intro hne
      rw [hfailed _ (List.getLast_mem hne)]
      exact Bool.false_ne_true
    rw [hnone, List.append_nil]
    rfl
  | true =>
    obtain ⟨outcomes, session', s', hmade, -, hlength⟩ :=
      attempts_within client s ledger ⟨hconnected, hbegun⟩ commands
    refine ⟨outcomes, session', s', _, hmade, hlength, ?_, ?_⟩
    · rw [Ledger.marks_eq]
    · have hall : (commands.zip outcomes).all Prod.snd = !outcomes.contains false := by
        have houtcomes : (commands.zip outcomes).map Prod.snd = outcomes :=
          List.map_snd_zip hlength.le
        rw [all_snd, houtcomes]
      rw [Ledger.marks_eq, hall]
      cases outcomes.contains false with
      | true => rfl
      | false => rfl

variable {client s ledger}

/-- A commit that succeeds settles the ledger. -/
theorem commit_settles {p : Session κ × (σ × Ledger)}
    (h : commit (client.observed Ledger.note) (session, (s, ledger)) = (.ok (), p)) :
    p.2.2 = ledger.settle := by
  rcases hreply : client.answer (.commit session.connection) s with ⟨committed, t⟩
  have hcommit : commit (client.observed Ledger.note) (session, (s, ledger)) =
      Operation.ofAction
        (check (client.observed Ledger.note) ⟨session.connection, "COMMIT"⟩ committed)
        ({ session with autoCommit := true }, (t, Ledger.note
          (⟨.commit session.connection, committed⟩ : Event κ η) ledger)) := by
    simp [commit, endTransaction, bind_apply, Operation.update, Operation.track, Operation.ask,
      Operation.ofAction, ask, Client.observed, hreply]
  rw [hcommit] at h
  cases committed with
  | false =>
    have hfails := congrArg Prod.fst h
    cases hfails
  | true =>
    cases h
    rfl

/-- **A transaction makes those statements last that succeeded behind its last failure.** What was
pending before it began lasts too, unless a statement failed on the server. So either all statements
that succeeded last, or none of them, exactly if the last failure does not stand between two of
them. -/
theorem transaction_durable {commands : List Command} {outcomes : List Bool}
    {session' : Session κ} {s' : σ} {ledger' : Ledger}
    (h : transaction client commands (session, (s, ledger)) =
      (.ok outcomes, (session', (s', ledger')))) :
    outcomes.length = commands.length ∧
    ledger'.durable = ledger.durable ++
      (if session.connected && outcomes.contains false then [] else ledger.pending) ++
      lasting (commands.zip outcomes) ∧
    ((lasting (commands.zip outcomes) = succeeded (commands.zip outcomes) ∨
        lasting (commands.zip outcomes) = []) ↔ ¬ Divided outcomes) := by
  -- the attempts never fail as a whole, so the commit is the only thing that had to succeed
  obtain ⟨_, p₀, hbegin, h⟩ := bind_eq_ok.1 h
  cases hbegin
  obtain ⟨outcomes', ⟨session₁, s₁, ledger₁⟩, hattempts, h⟩ := bind_eq_ok.1 h
  obtain ⟨_, p₂, hcommit, h⟩ := bind_eq_ok.1 h
  obtain ⟨rfl, rfl⟩ := pure_eq_ok.1 h
  have hdurable : ledger'.durable = ledger₁.durable ++ ledger₁.pending :=
    congrArg Ledger.durable (commit_settles hcommit)
  have hbegun : ({ session with autoCommit := false } : Session κ).autoCommit = false := rfl
  obtain ⟨outcomes, session₂, s₂, ledger₂, hmade, hlength, hkept, hpending⟩ :=
    attempts_pending client s ledger hbegun commands
  cases hmade.symm.trans hattempts
  have houtcomes : (commands.zip outcomes').map Prod.snd = outcomes' :=
    List.map_snd_zip hlength.le
  refine ⟨hlength, ?_, ?_⟩
  · rw [hdurable, hkept, hpending, List.append_assoc]
  · rw [lasting_all_or_nothing, houtcomes]

/-! ### Three updates -/

def firstUpdate : Command := ⟨"UPDATE a SET n = 1", [], false⟩

def secondUpdate : Command := ⟨"UPDATE b SET n = 1", [], false⟩

def thirdUpdate : Command := ⟨"UPDATE c SET n = 1", [], false⟩

def threeUpdates : List Command := [firstUpdate, secondUpdate, thirdUpdate]

/-- The second statement that is executed fails. -/
def secondFails : Script.State :=
  .start [] [⟨.execute, "", ⟨-194, "no primary key value for foreign key"⟩, 1, some 1⟩] []

/-- A session that is connected. -/
def plainSession : Session Unit := ⟨(), "", .utf8, true, true, 0⟩

/-- The first and the third update succeed, and the second one takes the first one back. -/
theorem threeUpdates_run :
    (transaction Script.client threeUpdates (plainSession, (secondFails, ⟨[], []⟩))).1 =
        .ok [true, false, true] ∧
      (transaction Script.client threeUpdates (plainSession, (secondFails, ⟨[], []⟩))).2.2.2 =
        ⟨[], [thirdUpdate]⟩ := by
  decide +kernel

/-- Behind the failure of the second update there is the third one. -/
theorem transaction_threeUpdates :
    [true, false, true].length = threeUpdates.length ∧
      [thirdUpdate] = [] ++ (if true && [true, false, true].contains false then [] else []) ++
        lasting (threeUpdates.zip [true, false, true]) ∧
      ((lasting (threeUpdates.zip [true, false, true]) =
            succeeded (threeUpdates.zip [true, false, true]) ∨
          lasting (threeUpdates.zip [true, false, true]) = []) ↔
        ¬ Divided [true, false, true]) := by
  obtain ⟨hresult, hledger⟩ := threeUpdates_run
  rcases h : transaction Script.client threeUpdates (plainSession, (secondFails, ⟨[], []⟩)) with
    ⟨result, session', s', ledger'⟩
  rw [h] at hresult hledger
  cases hresult
  cases hledger
  exact transaction_durable h

/-- So it is not true that all statements of a transaction last that succeeded, or none of them: of
the three updates two succeed, and one of these lasts. -/
theorem transaction_threeUpdates_ne :
    ∃ p, transaction Script.client threeUpdates (plainSession, (secondFails, ⟨[], []⟩)) =
        (.ok [true, false, true], p) ∧
      p.2.2.durable ≠ succeeded (threeUpdates.zip [true, false, true]) ∧ p.2.2.durable ≠ [] := by
  obtain ⟨hresult, hledger⟩ := threeUpdates_run
  rcases h : transaction Script.client threeUpdates (plainSession, (secondFails, ⟨[], []⟩)) with
    ⟨result, p⟩
  rw [h] at hresult hledger
  cases hresult
  refine ⟨p, rfl, ?_, ?_⟩
  · rw [hledger]
    decide
  · rw [hledger]
    decide

end Session

end Anywhere
