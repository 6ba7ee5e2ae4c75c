import Anywhere.Client.Script
import Anywhere.Proofs.Lifetimes

/-!
# Calls on a dead connection

A connection is dead behind a disconnect, and behind a connect that failed, until a connect
succeeds. Statements, the probe and a second disconnect look at the session first and leave a dead
connection alone. Committing and rolling back do not look: they are handed to the client library
whatever the connection is. So a life leaves its dead connections alone exactly if no transaction is
told to end on one.
-/

namespace Anywhere

variable {σ κ η : Type}

/-- The call needs no connection: it makes one, or asks why there is none. -/
def Call.isUnconnected : Call κ η → Bool
  | connect .. => true
  | lastError _ => true
  | _ => false

namespace Session

/-- Whether there is a connection behind an entry that has a say in that. -/
def Entry.link? : Entry κ η → Option Bool
  | .called ⟨.connect .., reply⟩ => some reply
  | .called ⟨.disconnect _, _⟩ => some false
  | _ => none

/-- The entry is not a call that needs a connection. -/
def Entry.Unconnected : Entry κ η → Prop
  | .called event => event.1.isUnconnected = true
  | .began _ _ => True

instance : (entry : Entry κ η) → Decidable entry.Unconnected
  | .called event => inferInstanceAs (Decidable (event.1.isUnconnected = true))
  | .began _ _ => .isTrue trivial

/-- The entry is not a task that ends a transaction. -/
def Entry.Unending : Entry κ η → Prop
  | .began .commit _ => False
  | .began .rollback _ => False
  | _ => True

/-- The latest entry with a say in that leaves no connection behind. -/
def Log.Dead (log : Log κ η) : Prop := log.findSome? Entry.link? = some false

instance (log : Log κ η) : Decidable log.Dead := inferInstanceAs (Decidable (_ = _))

/-- What all entries are like that are put down while the connection is dead. -/
def Log.WhileDead (log : Log κ η) (P : Entry κ η → Prop) : Prop :=
  ∀ (entry : Entry κ η) (earlier : Log κ η), entry :: earlier <:+ log → earlier.Dead → P entry

section Entries

variable {log : Log κ η} {entry : Entry κ η}

theorem whileDead_nil (P : Entry κ η → Prop) : Log.WhileDead [] P :=
  fun _ _ h => absurd h (by simp)

theorem whileDead_cons {P : Entry κ η → Prop} :
    Log.WhileDead (entry :: log) P ↔ (log.Dead → P entry) ∧ log.WhileDead P :=
  forall_suffix_cons

/-- Going through a log tells what its entries are like. -/
instance decidableWhileDead {P : Entry κ η → Prop} [DecidablePred P] :
    (log : Log κ η) → Decidable (log.WhileDead P)
  | [] => .isTrue (whileDead_nil P)
  | _ :: log =>
    have := decidableWhileDead (P := P) log
    decidable_of_iff _ whileDead_cons.symm

theorem findSome?_link?_of_none (h : entry.link? = none) :
    List.findSome? Entry.link? (entry :: log) = log.findSome? Entry.link? := by
  rw [List.findSome?_cons, h]

theorem findSome?_link?_of_some (linked : Bool) (h : entry.link? = some linked) :
    List.findSome? Entry.link? (entry :: log) = some linked := by
  rw [List.findSome?_cons, h]

end Entries

/-! ## What histories do to dead connections -/

theorem link?_called_of_permits {session : Session κ} {event : Event κ η}
    (h : session.permits event.1 = true) : (Entry.called event).link? = none := by
  obtain ⟨call, reply⟩ := event
  cases call <;> first | rfl | exact nomatch h

theorem unconnected_of_permits {session : Session κ} {event : Event κ η}
    (h : session.permits event.1 = true) (hdead : session.connected = false) :
    event.1.isUnconnected = true := by
  obtain ⟨call, reply⟩ := event
  cases call <;> simp_all [permits, Call.isUnconnected]

theorem unending_of_turn {task : Task} (h : task.turn? ≠ some false) (session : Session κ) :
    (.began task session : Entry κ η).Unending := by
  cases task with
  | commit => exact absurd rfl h
  | rollback => exact absurd rfl h
  | _ => trivial

/-- The session knows whether there is a connection, and a dead one is left alone exactly if no
transaction was told to end on it. -/
structure Wary (session : Session κ) (log : Log κ η) : Prop where
  now : session.connected = true ↔ log.findSome? Entry.link? = some true
  spared : log.WhileDead Entry.Unconnected ↔ log.WhileDead Entry.Unending

namespace Wary

variable {session session' : Session κ} {log : Log κ η}

theorem not_connected (h : Wary session log) (hdead : log.Dead) : session.connected = false := by
  rw [← Bool.not_eq_true, h.now, hdead]
  nofun

/-- An entry that may be put down while the connection is dead. -/
theorem cons (h : Wary session log) {entry : Entry κ η}
    (hnow : session'.connected = true ↔ List.findSome? Entry.link? (entry :: log) = some true)
    (hentry : log.Dead → entry.Unconnected ∧ entry.Unending) :
    Wary session' (entry :: log) := by
  refine ⟨hnow, ?_⟩
  rw [whileDead_cons, whileDead_cons, and_iff_right fun hdead => (hentry hdead).1,
    and_iff_right fun hdead => (hentry hdead).2]
  exact h.spared

/-- A task that ends a transaction, and its call: neither may be put down while the connection is
dead. -/
theorem ended (h : Wary session log) {task : Task} {event : Event κ η} (hends : Ends task event)
    (hsame : session'.connected = session.connected) :
    Wary session' (.called event :: .began task session :: log) := by
  have hbegan : List.findSome? Entry.link? (.began task session :: log) =
      log.findSome? Entry.link? := findSome?_link?_of_none rfl
  have hcalled : (Entry.called event).link? = none := by cases hends <;> rfl
  have hcall : ¬ (Entry.called event).Unconnected := by cases hends <;> exact Bool.false_ne_true
  have htask : ¬ (.began task session : Entry κ η).Unending := by cases hends <;> exact id
  refine ⟨?_, ?_⟩
  · rw [hsame, findSome?_link?_of_none hcalled, hbegan]
    exact h.now
  · simp only [whileDead_cons, Log.Dead, hbegan]
    -- the task and the call find the connection alike, and neither may find it dead
    constructor
    · rintro ⟨hlive, -, hlog⟩
      exact ⟨fun _ => trivial, fun hdead => absurd (hlive hdead) hcall, h.spared.mp hlog⟩
    · rintro ⟨-, hlive, hlog⟩
      exact ⟨fun hdead => absurd (hlive hdead) htask, fun _ => trivial, h.spared.mpr hlog⟩

end Wary

/-- **A dead connection is only touched by ending a transaction on it.** -/
theorem History.wary {session : Session κ} {log : Log κ η} (h : History session log) :
    Wary session log := by
  induction h with
  | @allocated session hdead _ =>
    have hnew : Wary session ([] : Log κ η) :=
      ⟨by simp [hdead], iff_of_true (whileDead_nil _) (whileDead_nil _)⟩
    exact hnew.cons hnew.now nofun
  | @began session log task _ hturn ih =>
    exact ih.cons ih.now fun _ => ⟨trivial, unending_of_turn (by simp [hturn]) session⟩
  | begun _ ih => exact ih.cons ih.now fun _ => ⟨trivial, trivial⟩
  | ended _ hends ih => exact ih.ended hends rfl
  | called _ hpermits ih =>
    refine ih.cons ?_ fun hdead =>
      ⟨unconnected_of_permits hpermits (ih.not_connected hdead), trivial⟩
    rw [findSome?_link?_of_none (link?_called_of_permits hpermits)]
    exact ih.now
  | connected _ _ ih =>
    exact ih.cons (iff_of_true rfl (findSome?_link?_of_some true rfl))
      fun _ => ⟨rfl, trivial⟩
  | refused _ hdead ih =>
    refine ih.cons ?_ fun _ => ⟨rfl, trivial⟩
    rw [findSome?_link?_of_some false rfl, hdead, Option.some_inj]
  | disconnected _ hconnected ih =>
    refine ih.cons ?_ fun hdead => ?_
    · rw [findSome?_link?_of_some false rfl, Option.some_inj]
    · exact absurd (ih.not_connected hdead) (by simp [hconnected])
  | noted _ hconnected _ ih => exact ⟨by rw [hconnected]; exact ih.now, ih.spared⟩

/-- **A life leaves its dead connections alone exactly if no transaction is told to end on one.** -/
theorem life_whileDead_iff (client : Client σ κ η) (opening : Opening) (tasks : List Task) (s : σ) :
    (life client opening tasks s).WhileDead Entry.Unconnected ↔
      (life client opening tasks s).WhileDead Entry.Unending := by
  rcases told_life client opening tasks s with hnone | ⟨session, hhistory⟩
  · -- no connection was made, so there is no dead one
    have hspared (P : Entry κ η → Prop) : (life client opening tasks s).WhileDead P := by
      intro entry earlier hsuffix hdead
      have hlinks : earlier.findSome? Entry.link? = none := List.findSome?_eq_none_iff.mpr
        fun e he => by rw [hnone e (hsuffix.subset (List.mem_cons_of_mem entry he))]; rfl
      exact nomatch hlinks.symm.trans hdead
    exact iff_of_true (hspared _) (hspared _)
  · exact hhistory.wary.spared

/-- Statements, the probe and a second disconnect look at the session first. -/
example : (life Script.client (.ofText "UID=dba;PWD=sql")
    [.disconnect, .execute "SELECT 1", .isActive, .disconnect, .reconnect]
    (.start [] [] [])).WhileDead Entry.Unconnected := by
  decide +kernel

/-- A commit behind a disconnect is called all the same. -/
theorem not_whileDead_commitDisconnected :
    ¬ (life Script.client (.ofText "UID=dba;PWD=sql") [.disconnect, .commit]
      (.start [] [] [])).WhileDead Entry.Unconnected := by
  decide +kernel

end Session

end Anywhere
