import Anywhere.Proofs.SessionRun
import Anywhere.Proofs.Transcripts

/-!
# Parameters are bound before a statement is executed

A statement that is executed works with the values that are bound to it then, so one that is left
out or mixed up goes unnoticed by the server. `bindings_precede_execution` says that nothing is left
out: in front of the call that executes a statement stand its preparation and one pair of calls for
each value, in order, and nothing else.

The calls of a run have one of two shapes, which `Binding` lists. Either the run broke off before
there was anything to execute, or all values were bound.
-/

namespace Anywhere

open Anywhere.Action Anywhere.Operation

variable {σ κ η α : Type}

/-- The stages in front of the execution of the statement. -/
def Stage.Early (stage : Stage) : Prop := stage = .preparing ∨ stage = .binding

/-- Binding is complete before execution, in calls that run a statement with values. -/
structure BindsFirst (r : Request κ) (encoding : Text.Encoding) (values : List Value)
    (calls : List (Event κ η)) : Prop where
  /-- What is executed was prepared, and each of its parameters was described and bound. -/
  bound : ∀ statement reply before after, calls = before ++ ⟨.execute statement, reply⟩ :: after →
    ∃ slots, slots.length = values.length ∧
      before = ⟨.prepare r.connection r.sql, some statement⟩ ::
        Client.parametersCalls encoding statement 0 slots values
  /-- Nothing is executed if a parameter could not be described or bound. -/
  refused : ∀ statement index, (⟨.describe statement index, none⟩ ∈ calls ∨
      ∃ slot, ⟨.bind statement index slot, false⟩ ∈ calls) →
    ∀ statement reply, ⟨.execute statement, reply⟩ ∉ calls
  /-- That, and too many values, is all that keeps a prepared statement from being executed. -/
  executed : calls ≠ [] → values.length ≤ Client.parameterLimit →
    (∀ e ∈ calls, e.At Stage.Early → ¬ e.Failed) →
    ∃ statement reply, ⟨.execute statement, reply⟩ ∈ calls

/-- The calls of a run, as far as the execution of its statement is concerned. -/
inductive Binding (r : Request κ) (encoding : Text.Encoding) (values : List Value) :
    List (Event κ η) → Prop where
  /-- The statement is not executed, and there is a reason for that. -/
  | never {calls : List (Event κ η)} : (∀ e ∈ calls, e.At (· ≠ .executing)) →
      ((∃ e ∈ calls, e.At Stage.Early ∧ e.Failed) ∨ Client.parameterLimit < values.length) →
      Binding r encoding values calls
  /-- The statement is executed behind its parameters, which are done with then. -/
  | behind {statement : η} {slots : List BindSlot} {reply : Bool} {after : List (Event κ η)} :
      slots.length = values.length → (∀ e ∈ after, e.At Stage.Late) →
      Binding r encoding values (⟨.prepare r.connection r.sql, some statement⟩ ::
        Client.parametersCalls encoding statement 0 slots values ++
          ⟨.execute statement, reply⟩ :: after)

/-- Only the question what went wrong comes up at stages that have nothing in common. -/
theorem Event.At.not_failed {stages stages' : Stage → Prop} {e : Event κ η} (h : e.At stages)
    (h' : e.At stages') (hdisjoint : ∀ stage, stages stage → ¬ stages' stage) : ¬ e.Failed := by
  obtain ⟨call, reply⟩ := e
  cases call <;> first | exact absurd h' (hdisjoint _ h) | exact id

namespace Binding

variable {r : Request κ} {encoding : Text.Encoding} {values : List Value}
  {calls more : List (Event κ η)}

theorem append (h : Binding r encoding values calls) (hmore : ∀ e ∈ more, e.At Stage.Late) :
    Binding r encoding values (calls ++ more) := by
  cases h with
  | never hcalls hreason =>
    refine .never (List.forall_mem_append.mpr ⟨hcalls, fun e he => (hmore e he).mono ?_⟩) ?_
    · rintro _ (rfl | rfl | rfl) <;> nofun
    · exact hreason.imp_left fun ⟨e, he, h⟩ => ⟨e, List.mem_append_left _ he, h⟩
  | behind hslots hafter =>
    rw [List.append_assoc, List.cons_append]
    exact .behind hslots (List.forall_mem_append.mpr ⟨hafter, hmore⟩)

/-- What prepares a statement and binds its values went well. -/
theorem early_of_mem {statement : η} {slots : List BindSlot} {e : Event κ η}
    (he : e ∈ ⟨.prepare r.connection r.sql, some statement⟩ ::
      Client.parametersCalls encoding statement 0 slots values) :
    e.At Stage.Early ∧ ¬ e.Failed := by
  rcases List.mem_cons.mp he with rfl | he
  · exact ⟨.inl rfl, nofun⟩
  · rcases Client.mem_parametersCalls he with ⟨i, slot, rfl⟩ | ⟨i, slot, rfl⟩
    · exact ⟨.inr rfl, nofun⟩
    · exact ⟨.inr rfl, nofun⟩

theorem not_early_execute (statement : η) (reply : Bool) :
    ¬ Event.At (κ := κ) Stage.Early ⟨.execute statement, reply⟩ := by
  simp [Event.At, Stage.Early]

theorem bindsFirst (h : Binding r encoding values calls) : BindsFirst r encoding values calls := by
  cases h with
  | never hcalls hreason =>
    have hnever : ∀ statement reply, ⟨.execute statement, reply⟩ ∉ calls :=
      fun statement reply hmem => hcalls _ hmem rfl
    constructor
    case bound =>
      intro statement reply before after heq
      exact absurd (by simp [heq]) (hnever statement reply)
    case refused => exact fun _ _ _ => hnever
    case executed =>
      intro _ hlimit hearly
      rcases hreason with ⟨e, he, hat, hfailed⟩ | htoo
      · exact absurd hfailed (hearly e he hat)
      · exact absurd hlimit (Nat.not_le.mpr htoo)
  | @behind statement slots reply after hslots hafter =>
    -- no parameter is described or bound any more behind the execution
    have hfine : ∀ e ∈ ⟨.prepare r.connection r.sql, some statement⟩ ::
        Client.parametersCalls encoding statement 0 slots values ++
          ⟨.execute statement, reply⟩ :: after, e.At Stage.Early → ¬ e.Failed := by
      refine List.forall_mem_append.mpr ⟨fun e he _ => (early_of_mem he).2,
        List.forall_mem_cons.mpr ⟨fun hat => absurd hat (not_early_execute statement reply), ?_⟩⟩
      exact fun e he hat => hat.not_failed (hafter e he) (by simp [Stage.Early, Stage.Late])
    constructor
    case bound =>
      intro statement' reply' before' after' heq
      obtain ⟨rfl, heq, -⟩ := (List.append_cons_inj_of_notMem
        (fun he => not_early_execute statement' reply' (early_of_mem he).1)
        fun he => absurd (hafter _ he) (by simp [Event.At, Stage.Late])).mp heq
      cases heq
      exact ⟨slots, hslots, rfl⟩
    case refused =>
      rintro statement' index (he | ⟨slot, he⟩)
      · exact absurd rfl (hfine _ he (.inr rfl))
      · exact absurd rfl (hfine _ he (.inr rfl))
    case executed => exact fun _ _ _ => ⟨statement, reply, by simp⟩

end Binding

/-! ## Runs -/

namespace Execution

variable {statement : η} {s : Execution η × σ × List (Event κ η)}

variable (client : Client σ κ η) (r : Request κ) (hs : s.1.statement = some statement)

include hs

theorem execute_makes :
    Makes record (execute client.recorded r) s fun calls result s' => ∃ reply after,
      calls = ⟨.execute statement, reply⟩ :: after ∧ (∀ e ∈ after, e.At Stage.Late) ∧
        (result = .ok () → s'.1.statement = some statement) := by
  refine makes_withStatement hs (makes_bind_ask fun reply t => ?_)
  cases reply with
  | false =>
    exact makes_bind_fail fun report _ =>
      ⟨false, _, rfl, List.forall_mem_singleton.mpr trivial, nofun⟩
  | true =>
    rw [bind_check_true]
    exact makes_update ⟨true, [], rfl, by simp, fun _ => hs⟩

/-- Behind the execution, nothing is bound. -/
theorem execute_complete (values : List Value) (options : RunOptions) :
    Makes record (execute client.recorded r >>= fun _ => complete r options client.recorded) s
      fun calls _ _ => ∃ reply after,
        calls = ⟨.execute statement, reply⟩ :: after ∧ ∀ e ∈ after, e.At Stage.Late := by
  refine Makes.bind (execute_makes client r hs) ?_ ?_
  · rintro _ _ s' ⟨reply, after, rfl, hafter, hkept⟩
    obtain ⟨more, hrecord, hmore, -⟩ := complete_told client r values options (hkept rfl)
    exact ⟨more, hrecord, reply, after ++ more, rfl, List.forall_mem_append.mpr ⟨hafter, hmore⟩⟩
  · rintro _ _ s' ⟨reply, after, rfl, hafter, -⟩
    exact ⟨reply, after, rfl, hafter⟩

omit hs

theorem drive_binding (values : List Value) (options : RunOptions) :
    Makes record (drive client.recorded r values options) s fun calls _ _ =>
      Binding r options.encoding values calls := by
  rw [drive_eq_complete]
  refine Makes.bind (prepare_told client r) ?_ ?_
  · rintro _ _ s₁ ⟨-, -, statement, hs₁, rfl⟩
    refine Makes.bind (bind_told client r hs₁ options.encoding values) ?_ ?_
    · rintro _ _ s₂ ⟨-, -, hs₂, -, slots, hslots, rfl⟩
      obtain ⟨_, hrecord, reply, after, rfl, hafter⟩ := execute_complete client r hs₂ values options
      exact ⟨_, hrecord, .behind hslots hafter⟩
    · rintro calls _ s₂ ⟨hat, hblames⟩
      refine .never ?_ (hblames.exists_failed_or.imp_left fun ⟨e, he, hfailed⟩ => ?_)
      · refine List.forall_mem_cons.mpr ⟨nofun, fun e he => (hat e he).mono ?_⟩
        rintro _ rfl
        exact nofun
      · refine ⟨e, List.mem_cons_of_mem _ he, (hat e he).mono ?_, hfailed⟩
        rintro _ rfl
        exact .inr rfl
  · rintro calls _ s₁ ⟨hat, hblames⟩
    obtain ⟨e, he, hfailed⟩ := hblames.exists_failed_or.resolve_right id
    refine .never (fun e he => (hat e he).mono ?_) (.inl ⟨e, he, (hat e he).mono ?_, hfailed⟩)
    · rintro _ rfl
      exact nofun
    · rintro _ rfl
      exact .inl rfl

theorem run_binding (values : List Value) (options : RunOptions) :
    Makes record (run client.recorded r values options) s fun calls _ _ =>
      Binding r options.encoding values calls := by
  refine makes_run client r values options (drive_binding client r values options)
    (fun _ _ h => h) fun calls fault held reply h => h.append fun e he => ?_
  refine (ending_of_mem r he).1.mono ?_
  rintro _ rfl
  exact .inr (.inr rfl)

end Execution

theorem BindsFirst.nil (r : Request κ) (encoding : Text.Encoding) (values : List Value) :
    BindsFirst r encoding values ([] : List (Event κ η)) where
  bound := by simp
  refused := by simp
  executed h := absurd rfl h

theorem Session.bindsFirst_run (client : Client σ κ η) (sql : String) (values : List Value)
    (fetchRows : Bool) (session : Session κ) (s : σ) :
    BindsFirst ⟨session.connection, sql⟩ session.encoding values
      (record (run client.recorded sql values fetchRows (session, s, [])).2).reverse := by
  cases hconnected : session.connected with
  | false =>
    rw [run_of_disconnected hconnected]
    exact .nil ..
  | true =>
    obtain ⟨calls, hrecord, hbinding⟩ := Execution.run_binding client
      ⟨session.connection, sql⟩ values (session.options fetchRows) (s := (.idle, s, []))
    rw [record_run_of_connected hconnected, client.recorded_run_eq]
    have hcalls : (Execution.run client.recorded ⟨session.connection, sql⟩ values
        (session.options fetchRows) (.idle, s, [])).2.2.2 = calls.reverse :=
      hrecord.trans (List.append_nil _)
    rw [hcalls, List.reverse_reverse]
    exact hbinding.bindsFirst

/-- **Binding is complete before execution,** both in a run and when a query tree is run. -/
theorem bindings_precede_execution (client : Client σ κ η) :
    (∀ (r : Request κ) (values : List Value) (options : RunOptions) (e : Execution η) (s : σ),
      let made := Execution.run client.recorded r values options (e, s, [])
      BindsFirst r options.encoding values (record made.2).reverse) ∧
    ∀ (q : Query) (session : Session κ) (s : σ),
      let made := Session.select client.recorded q (session, s, [])
      BindsFirst ⟨session.connection, q.render.sql⟩ session.encoding
        (q.render.parameters.map Parameter.value) (record made.2).reverse := by
  refine ⟨fun r values options e s => ?_, fun q session s => ?_⟩
  · obtain ⟨calls, hrecord, hbinding⟩ :=
      Execution.run_binding client r values options (s := (e, s, []))
    have hcalls : record (Execution.run client.recorded r values options (e, s, [])).2 =
        calls.reverse := hrecord.trans (List.append_nil _)
    dsimp only
    rw [hcalls, List.reverse_reverse]
    exact hbinding.bindsFirst
  · dsimp only
    rw [Session.select, Session.query_state]
    exact Session.bindsFirst_run client q.render.sql _ true session s

end Anywhere
