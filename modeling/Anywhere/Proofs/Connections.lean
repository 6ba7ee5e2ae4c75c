import Anywhere.Client.Script
import Anywhere.Proofs.Lifetimes

/-!
# Connections in pairs

Connections are made when a session is opened and when it connects anew, and are ended when it
disconnects, when it connects anew, when its settings turn out to be unusable, and when it goes
away. One flag has to keep all of these apart. Here they are counted in the log of a life: the
connects that succeeded and the disconnects.

At any time there is at most one connect more than there are disconnects, and the flag says whether
there is (`History.paired`). So nothing is connected twice or disconnected twice, and when the
session is gone there are as many disconnects as connects.
-/

namespace Anywhere.Session

variable {σ κ η : Type}

/-- The entry is a connect that succeeded. -/
def Entry.connects : Entry κ η → Bool
  | .called ⟨.connect .., reply⟩ => reply
  | _ => false

/-- The entry is a disconnect. -/
def Entry.disconnects : Entry κ η → Bool
  | .called ⟨.disconnect _, _⟩ => true
  | _ => false

/-- How many connects succeeded. -/
def Log.connects (log : Log κ η) : Nat := log.countP Entry.connects

/-- How many disconnects there were. -/
def Log.disconnects (log : Log κ η) : Nat := log.countP Entry.disconnects

/-- The entry fits to the connections before it: there is none when a connect is called, there is
one when a disconnect is called, and a task finds a session that knows whether there is one. -/
def Entry.Fits : Entry κ η → Log κ η → Prop
  | .began _ session, earlier =>
    session.connected = true ↔ earlier.connects = earlier.disconnects + 1
  | .called ⟨.connect .., _⟩, earlier => earlier.connects = earlier.disconnects
  | .called ⟨.disconnect _, _⟩, earlier => earlier.connects = earlier.disconnects + 1
  | .called _, _ => True

section Counts

variable {entry : Entry κ η} {log : Log κ η}

theorem connects_cons : Log.connects (entry :: log) = log.connects + entry.connects.toNat := by
  cases h : entry.connects <;> simp [Log.connects, h]

theorem disconnects_cons :
    Log.disconnects (entry :: log) = log.disconnects + entry.disconnects.toNat := by
  cases h : entry.disconnects <;> simp [Log.disconnects, h]

end Counts

/-- A call in the middle of work is about no connection as such. -/
theorem uncounted_of_permits {session : Session κ} {event : Event κ η}
    (h : session.permits event.1 = true) :
    (Entry.called event).connects = false ∧ (Entry.called event).disconnects = false ∧
      ∀ log, (Entry.called event).Fits log := by
  obtain ⟨call, reply⟩ := event
  cases call <;> first | exact ⟨rfl, rfl, fun _ => trivial⟩ | exact nomatch h

/-- The flag says by how much the connects outnumber the disconnects, and has done so all along. -/
structure Paired (session : Session κ) (log : Log κ η) : Prop where
  now : log.connects = log.disconnects + session.connected.toNat
  fits : ∀ entry earlier, entry :: earlier <:+ log → entry.Fits earlier

namespace Paired

variable {session session' : Session κ} {log : Log κ η}

theorem connected_iff (h : Paired session log) :
    session.connected = true ↔ log.connects = log.disconnects + 1 := by
  rw [h.now]
  cases session.connected <;> simp

/-- An entry that fits, and what it makes of the flag. -/
theorem cons (h : Paired session log) {entry : Entry κ η} (hfits : entry.Fits log)
    (hflag : session.connected.toNat + entry.connects.toNat =
      session'.connected.toNat + entry.disconnects.toNat) :
    Paired session' (entry :: log) where
  now := by
    have hnow := h.now
    rw [connects_cons, disconnects_cons]
    omega
  fits := forall_suffix_cons.mpr ⟨hfits, h.fits⟩

/-- A task is put down with the session as it is. -/
theorem began (h : Paired session log) (task : Task)
    (hsame : session'.connected = session.connected) :
    Paired session' (.began task session :: log) :=
  h.cons h.connected_iff (by rw [hsame]; rfl)

end Paired

/-- **The flag is kept in step with the connections.** -/
theorem History.paired {session : Session κ} {log : Log κ η} (h : History session log) :
    Paired session log := by
  induction h with
  | @allocated session hdead _ =>
    have hnew : Paired session ([] : Log κ η) :=
      ⟨by rw [hdead]; rfl, fun _ _ h => absurd h (by simp)⟩
    exact hnew.cons trivial rfl
  | began _ _ ih => exact ih.began _ rfl
  | begun _ ih => exact ih.began _ rfl
  | @ended session log task event _ hends ih =>
    have hbegan : Paired { session with autoCommit := true } (.began task session :: log) :=
      ih.began task rfl
    cases hends with
    | commit => exact hbegan.cons trivial rfl
    | rollback => exact hbegan.cons trivial rfl
  | called _ hpermits ih =>
    obtain ⟨hconnects, hdisconnects, hfits⟩ := uncounted_of_permits hpermits
    exact ih.cons (hfits _) (by rw [hconnects, hdisconnects])
  | connected _ hdead ih =>
    have hnone := ih.now
    rw [hdead] at hnone
    exact ih.cons hnone (by rw [hdead]; rfl)
  | refused _ hdead ih =>
    have hnone := ih.now
    rw [hdead] at hnone
    exact ih.cons hnone rfl
  | disconnected _ hconnected ih =>
    exact ih.cons (ih.connected_iff.mp hconnected) (by rw [hconnected]; rfl)
  | noted _ hconnected _ ih => exact ⟨by rw [hconnected]; exact ih.now, ih.fits⟩

/-- **Connections are made one at a time and are all ended.** In every life a connect is only called
while there are as many disconnects as connects that succeeded, and a disconnect only while there is
one connect more; the session is connected exactly while that is so; and in the end there are as
many disconnects as connects. -/
theorem life_connections (client : Client σ κ η) (opening : Opening) (tasks : List Task) (s : σ) :
    (∀ entry earlier, entry :: earlier <:+ life client opening tasks s → entry.Fits earlier) ∧
      (life client opening tasks s).connects = (life client opening tasks s).disconnects := by
  rcases over_life client opening tasks s with hnone | ⟨session, hdead, hhistory⟩
  · -- without a connection to begin with, the log has neither connects nor disconnects
    refine ⟨fun entry earlier hsuffix => ?_, ?_⟩
    · rw [hnone entry (hsuffix.subset List.mem_cons_self)]
      trivial
    · rw [Log.connects, Log.disconnects, List.countP_eq_zero.mpr, List.countP_eq_zero.mpr]
      · exact fun entry hentry => by rw [hnone entry hentry]; exact Bool.false_ne_true
      · exact fun entry hentry => by rw [hnone entry hentry]; exact Bool.false_ne_true
  · have hnow := hhistory.paired.now
    rw [hdead] at hnow
    exact ⟨hhistory.paired.fits, hnow⟩

/-! ### A connect that is refused -/

/-- Connecting anew is refused once and then works. -/
def refusedOnce : Log Unit Nat :=
  life Script.client (.ofText "UID=dba;PWD=sql") [.reconnect, .reconnect]
    (.start [] [⟨.connect, "", ⟨-100, "Database server not found"⟩, 1, some 1⟩] [])

/-- The last entry, a disconnect, finds the one connection more that it needs. -/
theorem life_connections_refusedOnce :
    refusedOnce.connects = 2 ∧ refusedOnce.disconnects = 2 ∧
      ∃ entry earlier, entry :: earlier <:+ refusedOnce ∧ entry.disconnects = true ∧
        entry.Fits earlier := by
  obtain ⟨hfits, hsame⟩ := life_connections Script.client (.ofText "UID=dba;PWD=sql")
    [.reconnect, .reconnect] (.start [] [⟨.connect, "", ⟨-100, "Database server not found"⟩, 1,
      some 1⟩] [])
  have hmade : refusedOnce.connects = 2 := by decide +kernel
  have hlast : refusedOnce.head?.map Entry.disconnects = some true := by decide +kernel
  obtain ⟨entry, hhead, hdisconnects⟩ := Option.map_eq_some_iff.mp hlast
  obtain ⟨earlier, hsplit⟩ := List.head?_eq_some_iff.mp hhead
  have hsuffix : entry :: earlier <:+ refusedOnce := ⟨[], hsplit.symm⟩
  exact ⟨hmade, hsame.symm.trans hmade, entry, earlier, hsuffix, hdisconnects,
    hfits entry earlier hsuffix⟩

end Anywhere.Session
