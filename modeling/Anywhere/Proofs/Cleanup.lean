import Anywhere.Execution
import Anywhere.Proofs.Calls

/-!
# Every run cleans up behind itself

A run can break off at about ten places. This file shows that all of them come to one of five
*courses*: the statement is refused, or the work on it fails, or the commit fails, or all goes well
with or without a commit. Between preparation and release a run makes only quiet calls, whichever of
its steps fails, and this is what keeps the number of courses small.

What is owed to the server can then be read off each course: a statement is released exactly once
and not used any more, before the transaction ends, and the transaction is committed or rolled back
according to how the run went.
-/

namespace Anywhere

open Anywhere.Action Anywhere.Operation

/-! ## What is owed to the server -/

/-- Statements are released as they should be. -/
structure ReleasesAll {κ η : Type} (calls : List (Event κ η)) : Prop where
  /-- Each statement that was obtained is released, and released exactly once. -/
  released : calls.filterMap Event.released? = calls.filterMap Event.acquired?
  /-- No call is about a statement that was released before. -/
  unused : calls.Pairwise fun a b =>
    ∀ statement, Event.released? a = some statement → b.1.statement? ≠ some statement
  /-- Nothing is released behind a commit or a rollback. -/
  first : calls.Pairwise fun a b =>
    (Event.committed? a).isSome ∨ (Event.rolledBack? a).isSome → Event.released? b = none

/-- The calls of a run, whether it succeeds or not, and of letting go of it. -/
structure Orderly {κ η : Type} (r : Request κ) (autoCommit : Bool) (calls : List (Event κ η))
    (succeeded : Bool) : Prop extends ReleasesAll calls where
  /-- A run that succeeds commits once if it is to commit, and else never, and it does not roll
  back. -/
  success : succeeded = true →
    calls.filterMap Event.committed? = (if autoCommit then [true] else []) ∧
      calls.filterMap Event.rolledBack? = []
  /-- A run that fails rolls back once, with its last call, and if it tried to commit, that
  failed. -/
  failure : succeeded = false →
    ∃ earlier reply, calls = earlier ++ [⟨.rollback r.connection, reply⟩] ∧
      earlier.filterMap Event.rolledBack? = [] ∧
      ∀ committed ∈ earlier.filterMap Event.committed?, committed = false

namespace Execution

variable {σ τ κ η α β : Type}

/-! ## The courses of a run -/

/-- The calls of a run from preparation to release. -/
def work (r : Request κ) (statement : η) (quiet : List (Event κ η)) : List (Event κ η) :=
  ⟨.prepare r.connection r.sql, some statement⟩ :: quiet ++ [⟨.free statement, ()⟩]

/-- The calls of a run and whether it succeeds. -/
inductive Course (r : Request κ) (autoCommit : Bool) : List (Event κ η) → Bool → Prop where
  | refused (report : Report) (reply : Bool) :
      Course r autoCommit
        [⟨.prepare r.connection r.sql, none⟩, ⟨.lastError r.connection, report⟩,
          ⟨.rollback r.connection, reply⟩] false
  | broken {statement : η} {quiet : List (Event κ η)} (reply : Bool) :
      (∀ e ∈ quiet, Event.Quiet statement e) →
      Course r autoCommit (work r statement quiet ++ [⟨.rollback r.connection, reply⟩]) false
  | uncommitted {statement : η} {quiet : List (Event κ η)} (report : Report) (reply : Bool) :
      (∀ e ∈ quiet, Event.Quiet statement e) → autoCommit = true →
      Course r autoCommit
        (work r statement quiet ++
          [⟨.commit r.connection, false⟩, ⟨.lastError r.connection, report⟩,
            ⟨.rollback r.connection, reply⟩]) false
  | committed {statement : η} {quiet : List (Event κ η)} :
      (∀ e ∈ quiet, Event.Quiet statement e) → autoCommit = true →
      Course r autoCommit (work r statement quiet ++ [⟨.commit r.connection, true⟩]) true
  | pending {statement : η} {quiet : List (Event κ η)} :
      (∀ e ∈ quiet, Event.Quiet statement e) → autoCommit = false →
      Course r autoCommit (work r statement quiet ++ []) true

/-! ## Every course is orderly -/

section Work

variable {r : Request κ} {statement : η} {quiet : List (Event κ η)}

/-- What is looked for among the calls of a run is not among the quiet ones. -/
theorem filterMap_work {f : Event κ η → Option β}
    (hf : ∀ {e : Event κ η}, Event.Quiet statement e → f e = none)
    (hq : ∀ e ∈ quiet, Event.Quiet statement e) (ending : List (Event κ η)) :
    (work r statement quiet ++ ending).filterMap f =
      (work r statement [] ++ ending).filterMap f := by
  have hnil : quiet.filterMap f = [] := List.filterMap_eq_nil_iff.mpr fun e he => hf (hq e he)
  simp [work, List.filterMap_cons, hnil]

/-- A rule about what may follow a call has to be checked from the release on. -/
theorem pairwise_work {R : Event κ η → Event κ η → Prop} {ending : List (Event κ η)}
    (hprepare : ∀ b, R ⟨.prepare r.connection r.sql, some statement⟩ b)
    (hR : ∀ {a : Event κ η}, Event.Quiet statement a → ∀ b, R a b)
    (hq : ∀ e ∈ quiet, Event.Quiet statement e)
    (hend : (⟨.free statement, ()⟩ :: ending).Pairwise R) :
    (work r statement quiet ++ ending).Pairwise R := by
  have hquiet : quiet.Pairwise R :=
    List.pairwise_of_forall_mem_list fun a ha b _ => hR (hq a ha) b
  rw [work, List.append_assoc, List.cons_append, List.pairwise_cons, List.pairwise_append]
  exact ⟨fun b _ => hprepare b, hquiet, hend, fun a ha b _ => hR (hq a ha) b⟩

/-- One statement is obtained first and released last, if nothing behind it is about statements. -/
theorem releasesAll_work {ending : List (Event κ η)} (hq : ∀ e ∈ quiet, Event.Quiet statement e)
    (hend : ∀ e ∈ ending, e.1.statement? = none ∧ Event.acquired? e = none) :
    ReleasesAll (work r statement quiet ++ ending) := by
  -- only calls about a statement can release one
  have hkept : ∀ e ∈ ending, Event.released? e = none := by
    rintro ⟨call, reply⟩ he
    cases call <;> first | rfl | exact absurd (hend _ he).1 (by simp [Call.statement?])
  have hnone : ending.filterMap Event.released? = ending.filterMap Event.acquired? := by
    rw [List.filterMap_eq_nil_iff.mpr hkept]
    exact (List.filterMap_eq_nil_iff.mpr fun e he => (hend e he).2).symm
  constructor
  · rw [filterMap_work Event.Quiet.released? hq, filterMap_work Event.Quiet.acquired? hq]
    exact congrArg (statement :: ·) hnone
  · refine pairwise_work (fun b => nofun) (fun h b st hst => ?_) hq ?_
    · rw [h.released?] at hst
      exact nomatch hst
    · refine List.pairwise_cons.mpr ⟨fun e he st _ => ?_, ?_⟩
      · rw [(hend e he).1]
        nofun
      · refine List.pairwise_of_forall_mem_list fun a ha b _ st hst => ?_
        rw [hkept a ha] at hst
        exact nomatch hst
  · refine pairwise_work (fun b h => ?_) (fun h b hb => ?_) hq ?_
    · simp [Event.committed?, Event.rolledBack?] at h
    · simp [h.committed?, h.rolledBack?] at hb
    · exact List.pairwise_cons.mpr ⟨fun e he _ => hkept e he,
        List.pairwise_of_forall_mem_list fun _ _ b hb _ => hkept b hb⟩

end Work

theorem Course.orderly {r : Request κ} {autoCommit succeeded : Bool} {calls : List (Event κ η)}
    (h : Course r autoCommit calls succeeded) : Orderly r autoCommit calls succeeded := by
  cases h with
  | refused report reply =>
    refine ⟨⟨rfl, ?_, ?_⟩, nofun, fun _ => ⟨[_, _], reply, rfl, rfl, ?_⟩⟩
    · simp [Event.released?]
    · simp [Event.released?]
    · simp [Event.committed?]
  | @broken statement quiet reply hq =>
    refine ⟨releasesAll_work hq (by simp [Call.statement?, Event.acquired?]), nofun, fun _ =>
      ⟨work r statement quiet ++ [], reply, by rw [List.append_nil], ?_, ?_⟩⟩
    · exact filterMap_work Event.Quiet.rolledBack? hq []
    · rw [filterMap_work Event.Quiet.committed? hq]
      nofun
  | @uncommitted statement quiet report reply hq hc =>
    refine ⟨releasesAll_work hq (by simp [Call.statement?, Event.acquired?]), nofun, fun _ =>
      ⟨work r statement quiet ++ [⟨.commit r.connection, false⟩, ⟨.lastError r.connection, report⟩],
        reply, by simp, ?_, ?_⟩⟩
    · exact filterMap_work Event.Quiet.rolledBack? hq _
    · rw [filterMap_work Event.Quiet.committed? hq]
      exact fun _ h => List.mem_singleton.mp h
  | committed hq hc =>
    refine ⟨releasesAll_work hq (by simp [Call.statement?, Event.acquired?]), fun _ => ⟨?_, ?_⟩,
      nofun⟩
    · rw [filterMap_work Event.Quiet.committed? hq, hc]
      rfl
    · exact filterMap_work Event.Quiet.rolledBack? hq _
  | pending hq hc =>
    refine ⟨releasesAll_work hq (by simp), fun _ => ⟨?_, ?_⟩, nofun⟩
    · rw [filterMap_work Event.Quiet.committed? hq, hc]
      rfl
    · exact filterMap_work Event.Quiet.rolledBack? hq _

/-! ## Every run takes a course -/

/-- While `statement` is open, the step makes quiet calls only and leaves it open. -/
def Busy (statement : η) (x : Step (σ × List (Event κ η)) η α) : Prop :=
  ∀ s, s.1.statement = some statement →
    OnlyQuiet statement s.2 (x s).2.2 ∧ (x s).2.1.statement = some statement

section Busy

variable {statement : η} {client : Client σ κ η} {r : Request κ}

theorem Busy.makes {x : Step (σ × List (Event κ η)) η α} (h : Busy statement x)
    {s : Execution η × σ × List (Event κ η)} (hs : s.1.statement = some statement) :
    Makes record x s fun calls _ s' =>
      (∀ e ∈ calls, Event.Quiet statement e) ∧ s'.1.statement = some statement := by
  obtain ⟨⟨calls, hr, hcalls⟩, hs'⟩ := h s hs
  exact ⟨calls.reverse, by rw [List.reverse_reverse]; exact hr,
    fun e he => hcalls e (List.mem_reverse.mp he), hs'⟩

theorem Busy.pure (a : α) : Busy statement (pure a : Step (σ × List (Event κ η)) η α) :=
  fun s h => ⟨.refl s.2, h⟩

theorem Busy.bind {x : Step (σ × List (Event κ η)) η α}
    {f : α → Step (σ × List (Event κ η)) η β} (hx : Busy statement x)
    (hf : ∀ a, Busy statement (f a)) : Busy statement (x >>= f) := by
  intro s h
  have hs := hx s h
  rw [bind_apply]
  rcases hxs : x s with ⟨_ | a, s'⟩ <;> rw [hxs] at hs
  · exact hs
  · obtain ⟨hq, h'⟩ := hf a s' hs.2
    exact ⟨hs.1.trans hq, h'⟩

theorem Busy.ofAction {x : Action (σ × List (Event κ η)) α} (hx : Quietly statement x) :
    Busy statement (Operation.ofAction x) :=
  fun s h => ⟨hx s.2, h⟩

theorem Busy.update {f : Execution η → Execution η} (hf : ∀ e, (f e).statement = e.statement) :
    Busy statement (Operation.update f : Step (σ × List (Event κ η)) η Unit) :=
  fun s h => ⟨.refl s.2, (hf s.1).trans h⟩

/-- A step that works with a statement does nothing when none is open. -/
theorem withoutStatement_apply {f : η → Step τ η α} {p : Execution η × τ}
    (hp : p.1.statement = none) :
    (requireStatement r >>= f) p = (.error (notPrepared r.sql), p) := by
  simp [requireStatement, bind_apply, Operation.track, hp]

/-- The statement that a step works with is the one that is open. -/
theorem withStatement_apply {f : η → Step τ η α} {p : Execution η × τ}
    (hp : p.1.statement = some statement) : (requireStatement r >>= f) p = f statement p := by
  simp [requireStatement, bind_apply, Operation.track, hp]

theorem Busy.withStatement {f : η → Step (σ × List (Event κ η)) η α}
    (hf : Busy statement (f statement)) : Busy statement (requireStatement r >>= f) := by
  intro s hs
  rw [withStatement_apply hs]
  exact hf s hs

theorem makes_withStatement {s : Execution η × σ × List (Event κ η)}
    {f : η → Step (σ × List (Event κ η)) η α}
    {Q : List (Event κ η) → Except Fault α → Execution η × σ × List (Event κ η) → Prop}
    (hs : s.1.statement = some statement) (h : Makes record (f statement) s Q) :
    Makes record (requireStatement r >>= f) s Q :=
  Makes.congr (withStatement_apply hs) h

theorem bind_busy (encoding : Text.Encoding) (values : List Value) :
    Busy statement (bind client.recorded r encoding values) :=
  .withStatement <| .bind (.ofAction (client.bindFrom_quiet r encoding statement _ 0 values))
    fun _ => .update fun _ => rfl

theorem execute_busy : Busy statement (execute client.recorded r) :=
  .withStatement <| .bind (.ofAction (.ask fun _ => rfl)) fun _ =>
    .bind (.ofAction (.check _)) fun _ => .update fun _ => rfl

theorem fetch_busy (encoding : Text.Encoding) : Busy statement (fetch client.recorded r encoding) :=
  .withStatement <| .bind (.ofAction (client.columns_quiet r statement)) fun columns =>
    .bind (.update fun _ => rfl) fun _ =>
      .bind (.ofAction (client.rows_quiet r encoding columns statement)) fun _ => .pure _

theorem countAffected_busy : Busy statement (countAffected client.recorded r) :=
  .withStatement <| .bind (.ofAction (.ask fun _ => rfl)) fun _ =>
    .bind (.ofAction (.require _)) fun _ => .update fun _ => rfl

end Busy

/-- The calls that release what is held. -/
def release : Option η → List (Event κ η)
  | some statement => [⟨.free statement, ()⟩]
  | none => []

section Runs

variable (client : Client σ κ η) (r : Request κ)

theorem free_makes (s : Execution η × σ × List (Event κ η)) :
    Makes record (free client.recorded) s fun calls result s' =>
      result = .ok () ∧ calls = release s.1.statement ∧ s'.1.statement = none := by
  obtain ⟨⟨phase, held, affected⟩, t, log⟩ := s
  cases held with
  | none => exact ⟨[], rfl, rfl, rfl, rfl⟩
  | some statement => exact ⟨[⟨.free statement, ()⟩], rfl, rfl, rfl, rfl⟩

theorem abort_makes (s : Execution η × σ × List (Event κ η)) :
    Makes record (abort client.recorded r) s fun calls result s' =>
      result = .ok () ∧ s'.1.statement = none ∧
        ∃ reply, calls = release s.1.statement ++ [⟨.rollback r.connection, reply⟩] := by
  obtain ⟨⟨phase, held, affected⟩, t, log⟩ := s
  cases held with
  | none => exact ⟨[⟨.rollback r.connection, _⟩], rfl, rfl, rfl, _, rfl⟩
  | some statement =>
    exact ⟨[⟨.free statement, ()⟩, ⟨.rollback r.connection, _⟩], rfl, rfl, rfl, _, rfl⟩

theorem prepare_makes (s : Execution η × σ × List (Event κ η)) :
    Makes record (prepare client.recorded r) s fun calls result s' => match result with
      | .ok _ => ∃ statement, s'.1.statement = some statement ∧
          calls = [⟨.prepare r.connection r.sql, some statement⟩]
      | .error _ => s'.1.statement = s.1.statement ∧ ∃ report,
          calls = [⟨.prepare r.connection r.sql, none⟩, ⟨.lastError r.connection, report⟩] := by
  refine makes_bind_ask fun reply t => ?_
  cases reply with
  | none => exact makes_bind_fail fun report _ => ⟨rfl, report, rfl⟩
  | some statement =>
    rw [bind_require_some]
    refine makes_update ?_
    exact ⟨statement, rfl, rfl⟩

theorem finish_makes (autoCommit : Bool) (s : Execution η × σ × List (Event κ η)) :
    Makes record (finish client.recorded r autoCommit) s fun calls result s' =>
      s'.1.statement = none ∧ match result with
      | .ok _ => calls = release s.1.statement ++
          (if autoCommit then [⟨.commit r.connection, true⟩] else [])
      | .error _ => autoCommit = true ∧ ∃ report, calls = release s.1.statement ++
          [⟨.commit r.connection, false⟩, ⟨.lastError r.connection, report⟩] := by
  refine Makes.bind (free_makes client s) ?_ (by rintro _ _ _ ⟨h, -⟩; cases h)
  rintro _ _ s₁ ⟨-, rfl, hs₁⟩
  cases autoCommit with
  | false => exact Makes.pure ⟨hs₁, rfl⟩
  | true =>
    refine makes_bind_ask fun reply t => ?_
    cases reply with
    | false => exact makes_bind_fail fun report _ => ⟨hs₁, rfl, report, rfl⟩
    | true =>
      rw [bind_check_true]
      refine makes_update ?_
      exact ⟨hs₁, rfl⟩

/-- The rows, if they are of interest. -/
def fetchIfWanted (options : RunOptions) : Step σ η ResultSet :=
  if options.fetchRows then fetch client r options.encoding else pure .empty

/-- All that is done with a statement while it is open. -/
def useStatement (values : List Value) (options : RunOptions) : Step σ η ResultSet := do
  bind client r options.encoding values
  execute client r
  let result ← fetchIfWanted client r options
  countAffected client r
  return result

theorem drive_eq (values : List Value) (options : RunOptions) :
    drive client r values options = (do
      prepare client r
      let result ← useStatement client r values options
      finish client r options.autoCommit
      return result) := by
  cases h : options.fetchRows <;> simp [drive, useStatement, fetchIfWanted, h]

theorem useStatement_busy (statement : η) (values : List Value) (options : RunOptions) :
    Busy statement (useStatement client.recorded r values options) := by
  refine .bind (bind_busy options.encoding values) fun _ => .bind execute_busy fun _ =>
    .bind ?_ fun _ => .bind countAffected_busy fun _ => .pure _
  unfold fetchIfWanted
  split
  · exact fetch_busy options.encoding
  · exact .pure _

/-- Whether all steps succeed or one of them fails, only the way in which a run ends is missing. -/
theorem drive_makes (values : List Value) (options : RunOptions)
    (s : Execution η × σ × List (Event κ η)) (hs : s.1.statement = none) :
    Makes record (drive client.recorded r values options) s fun calls result s' => match result with
      | .ok _ => s'.1.statement = none ∧ Course r options.autoCommit calls true
      | .error _ => ∀ reply, Course r options.autoCommit
          (calls ++ (release s'.1.statement ++ [⟨.rollback r.connection, reply⟩])) false := by
  rw [drive_eq]
  refine Makes.bind (prepare_makes client r s) ?_ ?_
  · rintro _ _ s₁ ⟨statement, hs₁, rfl⟩
    refine Makes.bind ((useStatement_busy client r statement values options).makes hs₁) ?_ ?_
    · rintro quiet result s₂ ⟨hq, hs₂⟩
      refine Makes.bind (finish_makes client r options.autoCommit s₂) ?_ ?_
      · rintro calls _ s₃ ⟨hs₃, hcalls⟩
        refine Makes.pure ⟨hs₃, ?_⟩
        rw [hcalls, hs₂]
        split
        · next hc => simpa [work, release] using Course.committed hq hc
        · next hc => simpa [work, release] using Course.pending hq (Bool.eq_false_iff.mpr hc)
      · -- the commit failed, and what was held is released already
        rintro calls fault s₃ ⟨hs₃, hc, report, hcalls⟩ reply
        rw [hcalls, hs₂, hs₃]
        simpa [work, release] using Course.uncommitted report reply hq hc
    · -- some step broke off, and the statement is still there
      rintro quiet fault s₂ ⟨hq, hs₂⟩ reply
      rw [hs₂]
      simpa [work, release] using Course.broken reply hq
  · -- there never was a statement
    rintro _ fault s₁ ⟨hs₁, report, rfl⟩ reply
    rw [hs₁, hs]
    exact .refused report reply

/-- **A run takes one of the courses,** and nothing is held behind it. -/
theorem run_makes (values : List Value) (options : RunOptions)
    (s : Execution η × σ × List (Event κ η)) (hs : s.1.statement = none) :
    Makes record (run client.recorded r values options) s fun calls result s' =>
      s'.1.statement = none ∧ Course r options.autoCommit calls result.isOk := by
  have hdrive := drive_makes client r values options s hs
  refine Makes.bind (P := fun calls result s' => s'.1.statement = none ∧
    Course r options.autoCommit calls result.isOk) (Makes.tryCatch hdrive ?_ ?_) ?_ ?_
  · exact fun calls result s' h => h
  · intro calls fault s₁ h
    refine Makes.bind (abort_makes client r s₁) ?_ ?_
    · rintro _ _ s₂ ⟨-, hs₂, reply, rfl⟩
      refine Makes.throw ⟨hs₂, ?_⟩
      rw [List.append_nil]
      exact h reply
    · rintro _ _ _ ⟨h, -⟩
      cases h
  · rintro calls result s₁ ⟨hs₁, hcourse⟩
    exact ⟨[], rfl, hs₁, by rwa [List.append_nil]⟩
  · exact fun calls fault s' h => h

/-- Without a statement there is nothing to let go of. -/
theorem free_of_none {client : Client τ κ η} {p : Execution η × τ} (h : p.1.statement = none) :
    free client p = (.ok (), p) := by
  simp [free, bind_apply, track, h]

end Runs

end Execution

/-- Nothing is held behind a run, so that letting go of it adds nothing. -/
theorem Client.recorded_run_eq {σ κ η : Type} (client : Client σ κ η) (r : Request κ)
    (values : List Value) (options : RunOptions) (s : σ × List (Event κ η)) :
    client.recorded.run r values options s =
      ((Execution.run client.recorded r values options (.idle, s)).1,
        (Execution.run client.recorded r values options (.idle, s)).2.2) := by
  obtain ⟨-, -, hnone, -⟩ := Execution.run_makes client r values options (.idle, s) rfl
  rw [Client.run]
  dsimp only
  rw [Execution.free_of_none hnone]

/-- **What a run asks of the client is orderly, whatever the client answers.** -/
theorem Client.run_orderly {σ κ η : Type} (client : Client σ κ η) (r : Request κ)
    (values : List Value) (options : RunOptions) (s : σ) :
    let (result, (_, calls)) := client.recorded.run r values options (s, [])
    Orderly r options.autoCommit calls.reverse result.isOk := by
  obtain ⟨calls, hr, hs, hcourse⟩ :=
    Execution.run_makes client r values options (.idle, (s, [])) rfl
  -- nothing is held behind the run, so letting go of it adds no calls
  obtain ⟨released, hr', -, hreleased, -⟩ :=
    Execution.free_makes client (Execution.run client.recorded r values options (.idle, (s, []))).2
  rw [hreleased, hs] at hr'
  have hcalls : (client.recorded.run r values options (s, [])).2.2 = calls.reverse := by
    refine Eq.trans hr' ?_
    rw [hr]
    exact List.append_nil _
  have hresult : (client.recorded.run r values options (s, [])).1 =
      (Execution.run client.recorded r values options (.idle, (s, []))).1 := rfl
  dsimp only
  rw [hcalls, List.reverse_reverse, hresult]
  exact hcourse.orderly

end Anywhere
