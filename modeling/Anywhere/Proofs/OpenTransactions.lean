import Anywhere.Client.Script
import Anywhere.Proofs.Lifetimes

/-!
# When a transaction is open

A session keeps a flag and never asks the server whether a transaction is open. The log of its life
tells the same without the flag: a transaction is open if the latest of all entries that have a say
in that is one that begins it. Such entries are the tasks that begin, commit or roll back, however
they end, and a connect that succeeds. Here the flag is shown to say what the log says, at every
task of every life.

While a transaction is open there is no commit in the log at all, whatever is done and however it
fails. The commit that ends a transaction is no exception, since the transaction is over in the
session before the client is asked.
-/

namespace Anywhere.Session

variable {σ κ η : Type}

/-- Whether a transaction is open behind an entry that has a say in that. -/
def Entry.turn? : Entry κ η → Option Bool
  | .began task _ => task.turn?
  | .called ⟨.connect .., true⟩ => some false
  | .called _ => none

/-- The latest entry with a say in that begins a transaction. -/
def Log.Begun (log : Log κ η) : Prop := log.findSome? Entry.turn? = some true

section Begun

variable {entry : Entry κ η} {log : Log κ η}

theorem begun_cons_of_none (h : entry.turn? = none) : Log.Begun (entry :: log) ↔ log.Begun := by
  rw [Log.Begun, List.findSome?_cons, h, Log.Begun]

theorem turn?_called_of_permits {session : Session κ} {event : Event κ η}
    (h : session.permits event.1 = true) : (Entry.called event).turn? = none := by
  obtain ⟨call, reply⟩ := event
  cases call <;> first | rfl | exact nomatch h

end Begun

/-! ## The flag says what the log says -/

/-- The session says what the log says, and so do the sessions that its tasks found; there is no
commit while a transaction is open. -/
structure Faithful (session : Session κ) (log : Log κ η) : Prop where
  now : session.inTransaction = true ↔ log.Begun
  found : ∀ {task : Task} {found : Session κ} {earlier : Log κ η},
    .began task found :: earlier <:+ log → (found.inTransaction = true ↔ earlier.Begun)
  uncommitted : ∀ {connection : κ} {reply : Bool} {earlier : Log κ η},
    .called ⟨.commit connection, reply⟩ :: earlier <:+ log → ¬ earlier.Begun

namespace Faithful

variable {session session' : Session κ} {log : Log κ η}

/-- A task is put down with the session as it is. -/
theorem began (h : Faithful session log) {task : Task}
    (hnow : session'.inTransaction = true ↔ Log.Begun (.began task session :: log)) :
    Faithful session' (.began task session :: log) where
  now := hnow
  found hsuffix := by
    rcases List.suffix_cons_iff.mp hsuffix with heq | hsuffix
    · cases heq
      exact h.now
    · exact h.found hsuffix
  uncommitted hsuffix := by
    rcases List.suffix_cons_iff.mp hsuffix with heq | hsuffix
    · cases heq
    · exact h.uncommitted hsuffix

/-- A commit is only called while no transaction is open. -/
theorem called (h : Faithful session log) {event : Event κ η}
    (hnow : session'.inTransaction = true ↔ Log.Begun (.called event :: log))
    (hcommit : ∀ connection reply, event = ⟨.commit connection, reply⟩ → ¬ log.Begun) :
    Faithful session' (.called event :: log) where
  now := hnow
  found hsuffix := by
    rcases List.suffix_cons_iff.mp hsuffix with heq | hsuffix
    · cases heq
    · exact h.found hsuffix
  uncommitted hsuffix := by
    rcases List.suffix_cons_iff.mp hsuffix with heq | hsuffix
    · cases heq
      exact hcommit _ _ rfl
    · exact h.uncommitted hsuffix

end Faithful

/-- **The flag is kept in step with the log.** -/
theorem History.faithful {session : Session κ} {log : Log κ η} (h : History session log) :
    Faithful session log := by
  induction h with
  | @allocated session _ hauto =>
    have hclosed : session.inTransaction = false := by rw [inTransaction, hauto]; rfl
    -- before the first call nothing was said about transactions
    have hnew : Faithful session ([] : Log κ η) :=
      ⟨by simp [hclosed, Log.Begun], fun h => absurd h (by simp), fun h => absurd h (by simp)⟩
    exact hnew.called hnew.now nofun
  | @began session log task _ hturn ih =>
    have hsame : Log.Begun (.began task session :: log) ↔ log.Begun := begun_cons_of_none hturn
    exact ih.began (ih.now.trans hsame.symm)
  | @begun session log _ ih =>
    have hopen : Log.Begun (.began .beginTransaction session :: log) := rfl
    exact ih.began ⟨fun _ => hopen, fun _ => rfl⟩
  | @ended session log task event _ hends ih =>
    -- the transaction is over with the task, so the call of a commit finds none
    have hover : ¬ Log.Begun (.began task session :: log) := by cases hends <;> nofun
    have hsame : Log.Begun (.called event :: .began task session :: log) ↔
        Log.Begun (.began task session :: log) := by cases hends <;> rfl
    have hbegan : Faithful { session with autoCommit := true } (.began task session :: log) :=
      ih.began ⟨nofun, fun hbegun => absurd hbegun hover⟩
    exact hbegan.called (hbegan.now.trans hsame.symm) fun _ _ _ => hover
  | @called session log event _ hpermits ih =>
    have hsame : Log.Begun (.called event :: log) ↔ log.Begun :=
      begun_cons_of_none (turn?_called_of_permits hpermits)
    refine ih.called (ih.now.trans hsame.symm) ?_
    -- a commit in the middle of work is only permitted while the flag is down
    rintro connection reply rfl hbegun
    have hauto : session.autoCommit = true := (Bool.and_eq_true_iff.mp hpermits).2
    have hopen := ih.now.mpr hbegun
    rw [inTransaction, hauto] at hopen
    exact Bool.false_ne_true hopen
  | connected _ _ ih => exact ih.called ⟨nofun, nofun⟩ nofun
  | refused _ _ ih => exact ih.called ih.now nofun
  | disconnected _ _ ih => exact ih.called ih.now nofun
  | noted _ _ hauto ih =>
    refine ⟨?_, ih.found, ih.uncommitted⟩
    rw [inTransaction, hauto]
    exact ih.now

/-- **A transaction is open exactly from its beginning to its end.** Every task of every life finds
a session in a transaction exactly if the latest task to begin or end one, or connect, was one that
begins it; and no commit is called while that is so. -/
theorem life_transactions (client : Client σ κ η) (opening : Opening) (tasks : List Task) (s : σ) :
    (∀ (task : Task) (session : Session κ) (earlier : Log κ η),
      .began task session :: earlier <:+ life client opening tasks s →
        (session.inTransaction = true ↔ earlier.Begun)) ∧
    ∀ (connection : κ) (reply : Bool) (earlier : Log κ η),
      .called ⟨.commit connection, reply⟩ :: earlier <:+ life client opening tasks s →
        ¬ earlier.Begun := by
  rcases told_life client opening tasks s with hnone | ⟨session, hhistory⟩
  · have hcalled {entry : Entry κ η} {earlier : Log κ η}
        (h : entry :: earlier <:+ life client opening tasks s) :
        entry = .called ⟨.newConnection, none⟩ := hnone entry (h.subset List.mem_cons_self)
    exact ⟨fun _ _ _ h => absurd (hcalled h) nofun, fun _ _ _ h => absurd (hcalled h) nofun⟩
  · exact ⟨fun _ _ _ => hhistory.faithful.found, fun _ _ _ => hhistory.faithful.uncommitted⟩

/-! ### A commit that fails -/

/-- Whether a task finds a session in a transaction. -/
def Entry.open? : Entry κ η → Option Bool
  | .began _ session => some session.inTransaction
  | .called _ => none

/-- All commits fail. -/
def commitsFail : Script.State :=
  .start [] [⟨.commit, "", ⟨-302, "terminated by user"⟩, 0, none⟩] []

/-- An update in a transaction, and one behind it. -/
def twoUpdates : Log Unit Nat :=
  life Script.client (.ofText "UID=dba;PWD=sql")
    [.beginTransaction, .execute "UPDATE a SET n = 1", .commit, .execute "UPDATE b SET n = 1"]
    commitsFail

/-- From the last task to the first: the second update finds no transaction although the commit
failed, the commit and the first update find one. -/
theorem life_transactions_commitsFail :
    twoUpdates.filterMap Entry.open? = [false, false, true, true, false] ∧
    ∃ (task : Task) (session : Session Unit) (earlier : Log Unit Nat),
      .began task session :: earlier <:+ twoUpdates ∧ session.inTransaction = true ∧
        earlier.Begun := by
  have hopen : twoUpdates.filterMap Entry.open? = [false, false, true, true, false] := by
    decide +kernel
  have hfound : true ∈ twoUpdates.filterMap Entry.open? := by simp [hopen]
  obtain ⟨entry, hentry, htrue⟩ := List.mem_filterMap.mp hfound
  cases entry with
  | called event => cases htrue
  | began task session =>
    obtain ⟨later, earlier, hsplit⟩ := List.append_of_mem hentry
    have hsuffix : .began task session :: earlier <:+ twoUpdates := ⟨later, hsplit.symm⟩
    have hin : session.inTransaction = true := Option.some.inj htrue
    have hbegun := ((life_transactions Script.client _ _ _).1 task session earlier hsuffix).mp hin
    exact ⟨hopen, task, session, earlier, hsuffix, hin, hbegun⟩

end Anywhere.Session
