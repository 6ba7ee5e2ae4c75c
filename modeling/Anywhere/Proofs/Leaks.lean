import Anywhere.Client.Script
import Anywhere.Proofs.Cleanup

/-!
# Executions step by step

A run takes the steps of an execution in their order. Whoever takes them one by one may repeat them,
leave some out and go on behind a failure, until the execution goes away and releases the statement
that it still holds. What can come next in the record of such calls, and which statement is held
behind it, is said once, by `Usage`; whatever is true of all orders of steps follows by induction.

An execution remembers one statement. A preparation that succeeds while a statement is held puts
another one in its place, and nobody can release the first one any more. What was obtained is what
was released, what was displaced and what is held (`Usage.balance`), so that everything is released
exactly if no statement is displaced. A release is always that of the statement held, so that
nothing is released twice.
-/

namespace Anywhere

open Anywhere.Action Anywhere.Operation

namespace Event

variable {κ η : Type}

/-- The statement that is open behind a call that has a say in that. -/
def hold? : Event κ η → Option (Option η)
  | ⟨.prepare .., some statement⟩ => some (some statement)
  | ⟨.free _, _⟩ => some none
  | _ => none

theorem Quiet.hold? {statement : η} {e : Event κ η} (h : Quiet statement e) : hold? e = none := by
  obtain ⟨call, reply⟩ := e
  cases call <;> first | rfl | exact h.elim

/-- A call without a say in what is open neither obtains nor releases a statement. -/
theorem acquired?_of_hold? {e : Event κ η} (h : hold? e = none) : acquired? e = none := by
  obtain ⟨call, reply⟩ := e
  cases call with
  | prepare connection sql =>
    cases reply with
    | none => rfl
    | some statement => exact nomatch h
  | _ => rfl

theorem released?_of_hold? {e : Event κ η} (h : hold? e = none) : released? e = none := by
  obtain ⟨call, reply⟩ := e
  cases call <;> first | rfl | exact nomatch h

end Event

namespace Execution

variable {σ κ η α β : Type}

/-! ## Statements on record -/

/-- The statement that is open behind the calls, the latest first. -/
def openStatement (record : List (Event κ η)) : Option η := (record.findSome? Event.hold?).join

/-- The statements that were open when another one was obtained. -/
def displaced : List (Event κ η) → List η
  | [] => []
  | event :: earlier => match Event.acquired? event with
    | some _ => (openStatement earlier).toList ++ displaced earlier
    | none => displaced earlier

/-- No statement is obtained while another one is open. -/
def OneByOne (record : List (Event κ η)) : Prop :=
  ∀ event earlier, event :: earlier <:+ record →
    event.acquired? ≠ none → openStatement earlier = none

section Record

variable {event : Event κ η} {record : List (Event κ η)}

theorem openStatement_cons_of_none (h : event.hold? = none) :
    openStatement (event :: record) = openStatement record := by
  rw [openStatement, List.findSome?_cons, h, openStatement]

theorem displaced_cons_of_none (h : event.acquired? = none) :
    displaced (event :: record) = displaced record := by
  rw [displaced, h]

theorem displaced_cons_of_some {statement : η} (h : event.acquired? = some statement) :
    displaced (event :: record) = (openStatement record).toList ++ displaced record := by
  rw [displaced, h]

end Record

/-- Nothing is displaced exactly if statements are obtained one by one. -/
theorem displaced_eq_nil_iff {record : List (Event κ η)} :
    displaced record = [] ↔ OneByOne record := by
  induction record with
  | nil => exact iff_of_true rfl fun _ _ h => absurd h (by simp)
  | cons event record ih =>
    have hcons : OneByOne (event :: record) ↔
        (event.acquired? ≠ none → openStatement record = none) ∧ OneByOne record :=
      forall_suffix_cons
    rw [hcons, ← ih]
    cases hacquired : Event.acquired? event with
    | none => simp [displaced_cons_of_none hacquired]
    | some statement => simp [displaced_cons_of_some hacquired]

/-! ## What can come next on record -/

/-- A record, and the statement that is held behind it. -/
inductive Usage : Option η → List (Event κ η) → Prop where
  | idle : Usage none []
  | neutral {held : Option η} {record : List (Event κ η)} {event : Event κ η} :
      Usage held record → event.hold? = none → Usage held (event :: record)
  /-- It does not matter whether a statement is held already. -/
  | prepared {held : Option η} {record : List (Event κ η)} {connection : κ} {sql : String}
      {statement : η} : Usage held record →
      Usage (some statement) (⟨.prepare connection sql, some statement⟩ :: record)
  | freed {record : List (Event κ η)} {statement : η} : Usage (some statement) record →
      Usage none (⟨.free statement, ()⟩ :: record)

namespace Usage

variable {held : Option η} {record : List (Event κ η)}

theorem append_neutral (h : Usage held record) {calls : List (Event κ η)}
    (hcalls : ∀ e ∈ calls, Event.hold? e = none) : Usage held (calls ++ record) := by
  induction calls with
  | nil => exact h
  | cons e rest ih =>
    rw [List.forall_mem_cons] at hcalls
    exact (ih hcalls.2).neutral hcalls.1

/-- What is held can be released. -/
theorem append_release (h : Usage held record) : Usage none ((release held).reverse ++ record) := by
  cases held with
  | none => exact h
  | some statement => exact h.freed

/-- The record tells what is held. -/
theorem openStatement_eq (h : Usage held record) : openStatement record = held := by
  induction h with
  | idle => rfl
  | neutral _ hnone ih => rw [openStatement_cons_of_none hnone, ih]
  | prepared _ _ => rfl
  | freed _ _ => rfl

/-- Only the statement that is open is released. -/
theorem openStatement_of_released (h : Usage held record) :
    ∀ event earlier, event :: earlier <:+ record →
      ∀ statement, Event.released? event = some statement →
        openStatement earlier = some statement := by
  induction h with
  | idle => exact fun _ _ h => absurd h (by simp)
  | neutral _ hnone ih =>
    refine forall_suffix_cons.mpr ⟨fun statement hreleased => ?_, ih⟩
    exact nomatch (Event.released?_of_hold? hnone).symm.trans hreleased
  | prepared _ ih => exact forall_suffix_cons.mpr ⟨nofun, ih⟩
  | freed hheld ih =>
    refine forall_suffix_cons.mpr ⟨fun statement hreleased => ?_, ih⟩
    rw [hheld.openStatement_eq]
    exact hreleased

/-- **What was obtained is what is held, what was released and what was displaced.** -/
theorem balance (h : Usage held record) :
    (record.filterMap Event.acquired?).Perm
      (held.toList ++ (record.filterMap Event.released? ++ displaced record)) := by
  induction h with
  | idle => exact .refl []
  | neutral _ hnone ih =>
    rw [List.filterMap_cons_none (Event.acquired?_of_hold? hnone),
      List.filterMap_cons_none (Event.released?_of_hold? hnone),
      displaced_cons_of_none (Event.acquired?_of_hold? hnone)]
    exact ih
  | @prepared held record connection sql statement hused ih =>
    -- what was held up to now is displaced
    have hdisplaced : displaced (⟨.prepare connection sql, some statement⟩ :: record) =
        held.toList ++ displaced record := by
      rw [displaced_cons_of_some rfl, hused.openStatement_eq]
    rw [hdisplaced]
    exact .cons statement (ih.trans (List.perm_append_comm_assoc _ _ _))
  | @freed record statement hused ih => exact ih

end Usage

/-! ## Steps that go on with a record -/

/-- The step goes on with whatever was done before, also if it fails. -/
def Extends (x : Step (σ × List (Event κ η)) η α) : Prop :=
  ∀ p : Execution η × σ × List (Event κ η), Usage p.1.statement p.2.2 →
    Usage (x p).2.1.statement (x p).2.2.2

section Extends

variable {client : Client σ κ η} {r : Request κ}

/-- A step that needs a statement does nothing without one, and is quiet with one. -/
theorem extends_of_busy {f : η → Step (σ × List (Event κ η)) η α}
    (h : ∀ statement, Busy statement (requireStatement r >>= f)) :
    Extends (requireStatement r >>= f) := by
  rintro p hused
  cases hheld : p.1.statement with
  | none =>
    rw [withoutStatement_apply hheld]
    exact hused
  | some statement =>
    obtain ⟨⟨calls, hrecord, hquiet⟩, hkept⟩ := h statement p hheld
    rw [hkept, hrecord, ← hheld]
    exact hused.append_neutral fun e he => (hquiet e he).hold?

variable (client r)

theorem prepare_extends : Extends (prepare client.recorded r) := by
  intro p hused
  obtain ⟨calls, hrecord, hcourse⟩ := prepare_makes client r p
  rw [record] at hrecord
  rw [hrecord]
  cases hresult : (prepare client.recorded r p).1 with
  | error fault =>
    rw [hresult] at hcourse
    obtain ⟨hsame, report, rfl⟩ := hcourse
    rw [hsame]
    exact (hused.neutral rfl).neutral rfl
  | ok _ =>
    rw [hresult] at hcourse
    obtain ⟨statement, hheld, rfl⟩ := hcourse
    rw [hheld]
    exact hused.prepared

theorem free_extends : Extends (free client.recorded (κ := κ)) := by
  intro p hused
  obtain ⟨calls, hrecord, -, rfl, hnone⟩ := free_makes client p
  rw [record] at hrecord
  rw [hrecord, hnone]
  exact hused.append_release

theorem abort_extends : Extends (abort client.recorded r) := by
  intro p hused
  obtain ⟨calls, hrecord, -, hnone, reply, rfl⟩ := abort_makes client r p
  rw [record] at hrecord
  rw [hrecord, hnone, List.reverse_append]
  exact hused.append_release.neutral rfl

theorem finish_extends (autoCommit : Bool) : Extends (finish client.recorded r autoCommit) := by
  intro p hused
  obtain ⟨calls, hrecord, hnone, hcourse⟩ := finish_makes client r autoCommit p
  rw [record] at hrecord
  rw [hrecord, hnone]
  cases hresult : (finish client.recorded r autoCommit p).1 with
  | error fault =>
    rw [hresult] at hcourse
    obtain ⟨-, report, rfl⟩ := hcourse
    rw [List.reverse_append]
    exact (hused.append_release.neutral rfl).neutral rfl
  | ok _ =>
    rw [hresult] at hcourse
    rw [hcourse, List.reverse_append]
    cases autoCommit with
    | false => exact hused.append_release
    | true => exact hused.append_release.neutral rfl

end Extends

/-! ## Any order of steps -/

/-- A step of an execution, with the connection and whatever else it is given. -/
inductive Method (κ : Type) where
  | prepare (connection : κ)
  | bind (connection : κ) (encoding : Text.Encoding) (values : List Value)
  | execute (connection : κ)
  | fetch (connection : κ) (encoding : Text.Encoding)
  | countAffected (connection : κ)
  | free
  /-- Ends the execution well, -/
  | finish (connection : κ) (autoCommit : Bool)
  /-- or with a rollback. -/
  | abort (connection : κ)

section Methods

variable (client : Client σ κ η) (sql : String)

/-- Takes a step. -/
def Method.perform : Method κ → Step σ η Unit
  | .prepare connection => Execution.prepare client ⟨connection, sql⟩
  | .bind connection encoding values => Execution.bind client ⟨connection, sql⟩ encoding values
  | .execute connection => Execution.execute client ⟨connection, sql⟩
  | .fetch connection encoding => discard (Execution.fetch client ⟨connection, sql⟩ encoding)
  | .countAffected connection => Execution.countAffected client ⟨connection, sql⟩
  | .free => Execution.free client
  | .finish connection autoCommit => Execution.finish client ⟨connection, sql⟩ autoCommit
  | .abort connection => Execution.abort client ⟨connection, sql⟩

/-- Takes one step after the other, also when some of them fail. -/
def performAll : List (Method κ) → Step σ η Unit
  | [] => pure ()
  | method :: rest => do
    tryCatch (method.perform client sql) fun _ => pure ()
    performAll rest

/-- The calls of an execution whose steps are taken in some order, and of letting go of it, the
latest first. -/
def use (methods : List (Method κ)) (s : σ) : List (Event κ η) :=
  let (_, p) := performAll client.recorded sql methods (.idle, (s, []))
  (Execution.free client.recorded p).2.2.2

/-- **Every step goes on with the record.** -/
theorem Method.perform_extends (method : Method κ) :
    Extends (method.perform client.recorded sql) := by
  cases method with
  | prepare connection => exact prepare_extends client _
  | bind connection encoding values => exact extends_of_busy fun _ => bind_busy encoding values
  | execute connection => exact extends_of_busy fun _ => execute_busy
  | fetch connection encoding =>
    intro p hused
    rw [Method.perform, discard_apply]
    exact extends_of_busy (fun _ => fetch_busy encoding) p hused
  | countAffected connection => exact extends_of_busy fun _ => countAffected_busy
  | free => exact free_extends client
  | finish connection autoCommit => exact finish_extends client _ autoCommit
  | abort connection => exact abort_extends client _

/-- What a failing step leaves behind is where the next one begins. -/
theorem performAll_cons (method : Method κ) (rest : List (Method κ)) (p : Execution η × σ) :
    performAll client sql (method :: rest) p =
      performAll client sql rest (method.perform client sql p).2 := by
  change (orElse (method.perform client sql) (fun _ => pure ()) >>= fun _ =>
    performAll client sql rest) p = _
  rw [bind_apply, orElse]
  rcases method.perform client sql p with ⟨fault | _, q⟩
  · rfl
  · rfl

/-- What every step keeps is kept by all of them, in whatever order they are taken. -/
theorem performAll_keeps {P : Execution η × σ → Prop}
    (h : ∀ (method : Method κ) p, P p → P (method.perform client sql p).2)
    (methods : List (Method κ)) {p : Execution η × σ} (hp : P p) :
    P (performAll client sql methods p).2 := by
  induction methods generalizing p with
  | nil => exact hp
  | cons method rest ih =>
    rw [performAll_cons]
    exact ih (h method p hp)

theorem performAll_extends (methods : List (Method κ)) :
    Extends (performAll client.recorded sql methods) := fun _ =>
  performAll_keeps client.recorded sql (fun method => method.perform_extends client sql) methods

/-- Nothing is held when the execution is gone. -/
theorem usage_use (methods : List (Method κ)) (s : σ) : Usage none (use client sql methods s) := by
  have hused := performAll_extends client sql methods (.idle, (s, [])) .idle
  have hfreed := free_extends client _ hused
  obtain ⟨calls, -, -, -, hnone⟩ :=
    free_makes client (performAll client.recorded sql methods (.idle, (s, []))).2
  rw [hnone] at hfreed
  exact hfreed

/-- **All statements are released exactly if they are obtained one by one.** In whatever order the
steps of an execution are taken and whatever the client answers, what is released is the statement
that is open; and each statement is released as often as it was obtained exactly if none was
obtained while another one was open. -/
theorem use_releases_iff (methods : List (Method κ)) (s : σ) :
    (∀ event earlier, event :: earlier <:+ use client sql methods s →
      ∀ statement, Event.released? event = some statement →
        openStatement earlier = some statement) ∧
    (((use client sql methods s).filterMap Event.released?).Perm
      ((use client sql methods s).filterMap Event.acquired?) ↔
        OneByOne (use client sql methods s)) := by
  have hused := usage_use client sql methods s
  have hbalance := hused.balance
  refine ⟨hused.openStatement_of_released, ?_⟩
  rw [← displaced_eq_nil_iff]
  constructor
  · intro hperm
    -- as many are released as were obtained, so that there is no room for a displaced one
    have hlength := hperm.length_eq.trans hbalance.length_eq
    simp only [Option.toList_none, List.nil_append, List.length_append] at hlength
    exact List.length_eq_zero_iff.mp (by omega)
  · intro hnil
    rw [hnil, List.append_nil] at hbalance
    exact hbalance.symm

end Methods

/-- A statement that is released before the next one is prepared. -/
theorem use_releases_again :
    let record := use Script.client "SELECT 1" [.prepare (), .free, .prepare ()] (.start [] [] [])
    OneByOne record ∧
      (record.filterMap Event.released?).Perm (record.filterMap Event.acquired?) ∧
      ∃ event earlier, event :: earlier <:+ record ∧ Event.released? event = some 1 ∧
        openStatement earlier = some 1 := by
  intro record
  obtain ⟨hreleased, hall⟩ := use_releases_iff Script.client "SELECT 1"
    [.prepare (), .free, .prepare ()] (.start [] [] [])
  have hone : OneByOne record := displaced_eq_nil_iff.mp (by decide +kernel)
  have hlast : record.head?.bind Event.released? = some 1 := by decide +kernel
  obtain ⟨event, hhead, hreleases⟩ := Option.bind_eq_some_iff.mp hlast
  obtain ⟨earlier, hsplit⟩ := List.head?_eq_some_iff.mp hhead
  have hsuffix : event :: earlier <:+ record := ⟨[], hsplit.symm⟩
  exact ⟨hone, hall.mpr hone, event, earlier, hsuffix, hreleases,
    hreleased event earlier hsuffix 1 hreleases⟩

/-- The second preparation displaces the statement of the first one. -/
theorem use_preparedTwice_not_perm :
    let record := use Script.client "SELECT 1" [.prepare (), .prepare ()] (.start [] [] [])
    ¬ (record.filterMap Event.released?).Perm (record.filterMap Event.acquired?) := by
  decide +kernel

end Execution

end Anywhere
