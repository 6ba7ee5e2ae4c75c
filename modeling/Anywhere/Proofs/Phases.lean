import Anywhere.Proofs.Leaks
import Anywhere.Proofs.Transcripts

/-!
# The phase tells whether a statement is held

An execution keeps its phase next to the statement that it holds, and each of its steps changes the
two at places of its own, with failures in between that leave some of the changes undone. All the
same they never part: a statement is held from preparation to release, and the phase says so. A step
that works with a statement is in one of two situations, and this is why one lemma for each kind of
step is enough: either no statement is held, and the step is refused before it does anything, or the
statement is held and stays so, wherever the step breaks off.

A step is *refused* when it fails for want of a statement and makes no call. The client could report
a failure in the very same words, but then it was called.
-/

namespace Anywhere

open Anywhere.Action Anywhere.Operation

/-- A statement is held in the phases between preparation and release. -/
def Phase.holds : Phase → Bool
  | prepared => true
  | bound => true
  | executed => true
  | fetching => true
  | idle => false
  | committed => false
  | rolledBack => false
  | freed => false

theorem Phase.holds_iff {phase : Phase} :
    phase.holds = true ↔ phase ∈ [prepared, bound, executed, fetching] := by
  cases phase <;> decide

theorem Phase.holds_eq_false_iff {phase : Phase} :
    phase.holds = false ↔ phase ∈ [idle, freed, committed, rolledBack] := by
  cases phase <;> decide

namespace Execution

variable {σ κ η α β : Type}

/-! ## Phase and statement -/

/-- The phase tells whether a statement is held. -/
def Truthful (e : Execution η) : Prop := e.statement.isSome = e.phase.holds

/-- The statement is held, in a phase that says so. -/
structure Working (statement : η) (e : Execution η) : Prop where
  held : e.statement = some statement
  phase : e.phase.holds = true

/-- No statement is held, in a phase that says so. -/
structure Resting (e : Execution η) : Prop where
  free : e.statement = none
  phase : e.phase.holds = false

theorem Working.truthful {statement : η} {e : Execution η} (h : Working statement e) :
    e.Truthful := by
  rw [Truthful, h.held, h.phase, Option.isSome_some]

theorem Resting.truthful {e : Execution η} (h : Resting e) : e.Truthful := by
  rw [Truthful, h.free, h.phase, Option.isSome_none]

theorem Truthful.working {e : Execution η} (h : e.Truthful) {statement : η}
    (hheld : e.statement = some statement) : Working statement e :=
  ⟨hheld, by rw [← h, hheld, Option.isSome_some]⟩

theorem Truthful.resting {e : Execution η} (h : e.Truthful) (hfree : e.statement = none) :
    Resting e :=
  ⟨hfree, by rw [← h, hfree, Option.isSome_none]⟩

/-! ## Steps from one condition to another -/

/-- Begun where `P` holds, the step ends where `Q` holds, also if it fails. -/
def Leads (P Q : Execution η → Prop) (x : Step σ η α) : Prop :=
  ∀ p : Execution η × σ, P p.1 → Q (x p).2.1

namespace Leads

variable {P Q : Execution η → Prop}

theorem pure (a : α) : Leads P P (pure a : Step σ η α) := fun _ h => h

theorem ofAction (x : Action σ α) : Leads P P (Operation.ofAction x) := fun _ h => h

theorem update {f : Execution η → Execution η} (h : ∀ e, P e → Q (f e)) :
    Leads P Q (Operation.update f : Step σ η Unit) :=
  fun p => h p.1

/-- What the first step comes to may be where the two of them end. -/
theorem bind {x : Step σ η α} {f : α → Step σ η β} (hx : Leads P Q x)
    (hf : ∀ a, Leads Q Q (f a)) : Leads P Q (x >>= f) := by
  intro p hp
  have hq := hx p hp
  rw [bind_apply]
  rcases hxp : x p with ⟨fault | a, q⟩ <;> rw [hxp] at hq
  · exact hq
  · exact hf a q hq

end Leads

section Steps

variable {client : Client σ κ η} {r : Request κ}

/-- A step that works with a statement does nothing without one. -/
theorem leads_withStatement {f : η → Step σ η α}
    (h : ∀ statement, Leads (Working statement) (Working statement) (f statement)) :
    Leads Truthful Truthful (requireStatement r >>= f) := by
  intro p hp
  cases hheld : p.1.statement with
  | none =>
    rw [withoutStatement_apply hheld]
    exact hp
  | some statement =>
    rw [withStatement_apply hheld]
    exact (h statement p (hp.working hheld)).truthful

variable (client r)

theorem prepare_leads : Leads Truthful Truthful (prepare client r) :=
  -- the phase and the statement are set together, whatever was held before
  .bind (.ofAction _) fun _ => .bind (.ofAction _) fun _ => .update fun _ _ => rfl

theorem bind_leads (encoding : Text.Encoding) (values : List Value) :
    Leads Truthful Truthful (bind client r encoding values) :=
  leads_withStatement fun _ => .bind (.ofAction _) fun _ => .update fun _ h => ⟨h.held, rfl⟩

theorem execute_leads : Leads Truthful Truthful (execute client r) :=
  leads_withStatement fun _ => .bind (.ofAction _) fun _ => .bind (.ofAction _) fun _ =>
    .update fun _ h => ⟨h.held, rfl⟩

theorem fetch_leads (encoding : Text.Encoding) :
    Leads Truthful Truthful (fetch client r encoding) :=
  -- the phase changes between columns and rows, so a row that cannot be read leaves it changed
  leads_withStatement fun _ => .bind (.ofAction _) fun _ =>
    .bind (.update fun _ h => ⟨h.held, rfl⟩) fun _ => .bind (.ofAction _) fun _ => .pure _

theorem countAffected_leads : Leads Truthful Truthful (countAffected client r) :=
  leads_withStatement fun _ => .bind (.ofAction _) fun _ => .bind (.ofAction _) fun _ =>
    .update fun _ h => ⟨h.held, h.phase⟩

theorem free_leads : Leads Truthful Resting (free client) := by
  rintro ⟨⟨phase, held, affected⟩, s⟩ htruthful
  cases held with
  | none => exact htruthful.resting rfl
  | some statement => exact ⟨rfl, rfl⟩

theorem finish_leads (autoCommit : Bool) : Leads Truthful Resting (finish client r autoCommit) := by
  refine .bind (free_leads client) fun _ => ?_
  cases autoCommit with
  | false => exact .pure ()
  | true =>
    exact .bind (.ofAction _) fun _ => .bind (.ofAction _) fun _ =>
      .update fun _ h => ⟨h.free, rfl⟩

theorem abort_leads : Leads Truthful Resting (abort client r) := by
  intro p htruthful
  -- the number of rows is forgotten first, which has no say in the phase
  have hrest : Leads Truthful Resting (do
      free client
      let _ ← Operation.ask client (.rollback r.connection)
      enter .rolledBack : Step σ η Unit) :=
    .bind (free_leads client) fun _ => .bind (.ofAction _) fun _ =>
      .update fun _ h => ⟨h.free, rfl⟩
  exact hrest ({ p.1 with affectedRows := 0 }, p.2) htruthful

end Steps

/-! ## Any order of steps -/

section Methods

variable (client : Client σ κ η) (sql : String)

/-- **Every step keeps the phase truthful.** -/
theorem Method.perform_leads (method : Method κ) :
    Leads Truthful Truthful (method.perform client sql) := by
  cases method with
  | prepare connection => exact prepare_leads client _
  | bind connection encoding values => exact bind_leads client _ encoding values
  | execute connection => exact execute_leads client _
  | fetch connection encoding =>
    intro p htruthful
    rw [Method.perform, discard_apply]
    exact fetch_leads client _ encoding p htruthful
  | countAffected connection => exact countAffected_leads client _
  | free => exact fun p htruthful => (free_leads client p htruthful).truthful
  | finish connection autoCommit =>
    exact fun p htruthful => (finish_leads client _ autoCommit p htruthful).truthful
  | abort connection => exact fun p htruthful => (abort_leads client _ p htruthful).truthful

end Methods

/-! ## Refused steps -/

section Told

variable {S : Type} {record : S → List (Event κ η)} {x : Action S α} {s : S} {r : Request κ}
  {stages : Stage → Prop} {own : List (Event κ η) → Prop} {P : List (Event κ η) → α → S → Prop}

/-- The transcript of a step is also that of the step without its result. -/
theorem told_discard (h : Makes record x s (Told r stages own P)) :
    Makes record (discard x) s (Told r stages own fun _ _ _ => True) := by
  have hdiscard : discard x s = (x >>= fun _ => pure ()) s := by
    rw [discard_apply, bind_apply]
    rcases x s with ⟨fault | a, s'⟩ <;> rfl
  exact .congr hdiscard (Told.bind h fun _ _ _ _ _ => Told.pure trivial)

/-- A step with a transcript fails in these words only if they are what the client reports, and then
the client was called. -/
theorem answered_of_told (h : Makes record x s (Told r stages own P)) :
    Makes record x s fun calls result _ => calls = [] → result ≠ .error (notPrepared r.sql) := by
  obtain ⟨calls, hrecord, -, htold⟩ := h
  refine ⟨calls, hrecord, fun hcalls hresult => ?_⟩
  rw [hresult] at htold
  cases htold with
  | itself _ hnone _ => exact nomatch hnone
  | client => simp at hcalls

end Told

section Methods

variable (client : Client σ κ η) (sql : String)

/-- The step works with the statement that is held. -/
def Method.needsStatement : Method κ → Bool
  | .bind .. => true
  | .execute _ => true
  | .fetch .. => true
  | .countAffected _ => true
  | _ => false

/-- The step fails because no statement is held, and makes no call. -/
def Method.Refused (method : Method κ) (p : Execution η × σ × List (Event κ η)) : Prop :=
  (method.perform client.recorded sql p).1 = .error (notPrepared sql) ∧
    record (method.perform client.recorded sql p).2 = record p

/-- Without a statement everything stays as it was. -/
theorem Method.perform_of_free {method : Method κ} (h : method.needsStatement = true)
    {p : Execution η × σ} (hfree : p.1.statement = none) :
    method.perform client sql p = (.error (notPrepared sql), p) := by
  cases method with
  | bind connection encoding values => exact withoutStatement_apply hfree
  | execute connection => exact withoutStatement_apply hfree
  | fetch connection encoding =>
    rw [Method.perform, discard_apply, Execution.fetch, withoutStatement_apply hfree]
    rfl
  | countAffected connection => exact withoutStatement_apply hfree
  | _ => exact absurd h Bool.false_ne_true

/-- A step that has the statement it needs makes a call before it fails in these words. -/
theorem Method.perform_answered {method : Method κ} {p : Execution η × σ × List (Event κ η)}
    (h : method.needsStatement = true → p.1.statement ≠ none) :
    Makes record (method.perform client.recorded sql) p fun calls result _ =>
      calls = [] → result ≠ .error (notPrepared sql) := by
  have hheld (hneeds : method.needsStatement = true) :
      ∃ statement, p.1.statement = some statement := Option.ne_none_iff_exists'.mp (h hneeds)
  -- a step with a transcript blames the client; of the others only `finish` fails, behind a call
  cases method with
  | prepare connection => exact answered_of_told (prepare_told client ⟨connection, sql⟩)
  | bind connection encoding values =>
    obtain ⟨statement, hs⟩ := hheld rfl
    exact answered_of_told (bind_told client ⟨connection, sql⟩ hs encoding values)
  | execute connection =>
    obtain ⟨statement, hs⟩ := hheld rfl
    exact answered_of_told (execute_told client ⟨connection, sql⟩ hs)
  | fetch connection encoding =>
    obtain ⟨statement, hs⟩ := hheld rfl
    exact answered_of_told (told_discard (fetch_told client ⟨connection, sql⟩ hs encoding))
  | countAffected connection =>
    obtain ⟨statement, hs⟩ := hheld rfl
    exact answered_of_told (countAffected_told client ⟨connection, sql⟩ hs)
  | free =>
    obtain ⟨calls, hrecord, hresult, -⟩ := free_makes client p
    refine ⟨calls, hrecord, fun _ hfailed => ?_⟩
    exact nomatch hresult.symm.trans hfailed
  | finish connection autoCommit =>
    obtain ⟨calls, hrecord, -, hcourse⟩ := finish_makes client ⟨connection, sql⟩ autoCommit p
    refine ⟨calls, hrecord, fun hcalls hfailed => ?_⟩
    rw [Method.perform] at hfailed
    rw [hfailed] at hcourse
    obtain ⟨-, report, hcourse⟩ := hcourse
    simp [hcalls] at hcourse
  | abort connection =>
    obtain ⟨calls, hrecord, hresult, -⟩ := abort_makes client ⟨connection, sql⟩ p
    refine ⟨calls, hrecord, fun _ hfailed => ?_⟩
    exact nomatch hresult.symm.trans hfailed

theorem Method.refused_iff (method : Method κ) (p : Execution η × σ × List (Event κ η)) :
    method.Refused client sql p ↔ method.needsStatement = true ∧ p.1.statement = none := by
  constructor
  · rintro ⟨hresult, hrecord⟩
    by_contra hneeds
    obtain ⟨calls, hcalls, hanswered⟩ := Method.perform_answered client sql
      fun h hfree => hneeds ⟨h, hfree⟩
    -- the record is as it was, so no call was added to it
    rw [hrecord, List.self_eq_append_left, List.reverse_eq_nil_iff] at hcalls
    exact hanswered hcalls hresult
  · rintro ⟨hneeds, hfree⟩
    rw [Refused, Method.perform_of_free client.recorded sql hneeds hfree]
    exact ⟨rfl, rfl⟩

/-- **A statement is held exactly in the phases between preparation and release,** in whatever order
the steps of an execution are taken and whatever the client answers. So the steps that work with a
statement are refused exactly in the other phases. -/
theorem performAll_holds_iff (methods : List (Method κ)) (s : σ) :
    let p := (performAll client.recorded sql methods (.idle, (s, []))).2
    (p.1.statement.isSome = true ↔ p.1.phase ∈ [.prepared, .bound, .executed, .fetching]) ∧
    ∀ method : Method κ, method.Refused client sql p ↔
      method.needsStatement = true ∧ p.1.phase ∈ [.idle, .freed, .committed, .rolledBack] := by
  intro p
  have htruthful : p.1.Truthful :=
    performAll_keeps client.recorded sql (P := fun p => p.1.Truthful)
      (fun method => method.perform_leads client.recorded sql) methods rfl
  refine ⟨?_, fun method => ?_⟩
  · rw [htruthful, Phase.holds_iff]
  · rw [method.refused_iff, ← Phase.holds_eq_false_iff, ← htruthful, Option.isSome_eq_false_iff,
      Option.isNone_iff_eq_none]

end Methods

/-- A commit needs no statement, and behind it there is none. -/
example : let p := (performAll Script.client.recorded "SELECT 1" [.finish () true]
      (.idle, (.start [] [] [], []))).2
    p.1.phase = .committed ∧ (Method.execute ()).Refused Script.client "SELECT 1" p :=
  ⟨rfl, rfl, rfl⟩

end Execution

end Anywhere
