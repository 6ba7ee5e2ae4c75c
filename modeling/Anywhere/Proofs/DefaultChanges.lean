import Anywhere.Proofs.ColumnReferences
import Anywhere.Proofs.Placeholders
import Anywhere.Proofs.SchemaChanges

/-!
# Changes that come with a default

Three changes of the schema may come with a default, which is written as a literal. Bytes and
numbers without a finite value have none, and a change that needs such a literal is refused. That is
all that a session ever refuses about these changes, and when it does, nothing was done yet
(`Session.DefaultChange.perform_refuses_iff`): the literals are made before the first statement is
run, although the one that needs a literal may not be the only one.

A change that is not refused runs its statements in turn. `RunInTurn` says which calls that takes:
all those of each run, up to the first one that fails.
-/

namespace Anywhere

open Anywhere.Action Anywhere.Operation Schema

variable {σ κ η α β S : Type}

/-! ## Values without a literal -/

/-- Values that can only be sent as parameters: bytes, and numbers without a finite value. -/
inductive Value.Unquotable : Value → Prop where
  | binary (bytes : List UInt8) : Unquotable (.binary bytes)
  | float {x : Number.Double} : x.isFinite = false → Unquotable (.float x)

theorem Value.unquotable_iff (v : Value) : v.Unquotable ↔ v.literal? = none := by
  rw [← Option.not_isSome_iff_eq_none, v.isSome_literal?, Bool.not_eq_true]
  constructor
  · rintro (_ | hx)
    · rfl
    · exact hx
  · intro h
    cases v with
    | binary bytes => exact .binary bytes
    | float x => exact .float h
    | _ => exact nomatch h

theorem Value.literal_of_unquotable {v : Value} (h : v.Unquotable) :
    v.literal = .error (.argument (.unquotable v.logicalType)) := by
  rw [literal, v.unquotable_iff.mp h]

theorem Value.exists_literal {v : Value} (h : ¬ v.Unquotable) : ∃ sql, v.literal = .ok sql := by
  rw [v.unquotable_iff, ← ne_eq, Option.ne_none_iff_exists'] at h
  obtain ⟨sql, hsql⟩ := h
  exact ⟨sql, by rw [literal, hsql]⟩

/-! ## Actions that never refuse a call -/

namespace Action

/-- Whatever goes wrong, it is not that the call is refused. -/
def NeverRefuses (x : Action S α) : Prop := ∀ s cause, (x s).1 ≠ .error (.argument cause)

namespace NeverRefuses

theorem pure (a : α) : NeverRefuses (pure a : Action S α) := fun _ _ => nofun

theorem throw {fault : Fault} (h : ∀ cause, fault ≠ .argument cause) :
    NeverRefuses (throw fault : Action S α) :=
  fun _ cause hfault => h cause (Except.error.inj hfault)

theorem bind {x : Action S α} {f : α → Action S β} (hx : NeverRefuses x)
    (hf : ∀ a, NeverRefuses (f a)) : NeverRefuses (x >>= f) := by
  intro s cause
  have hs := hx s cause
  rw [bind_apply]
  rcases hxs : x s with ⟨fault | a, t⟩ <;> rw [hxs] at hs
  · exact fun hfault => hs (congrArg Except.error (Except.error.inj hfault))
  · exact hf a t cause

theorem map {x : Action S α} (f : α → β) (hx : NeverRefuses x) : NeverRefuses (f <$> x) := by
  rw [map_eq_pure_bind]
  exact hx.bind fun _ => .pure _

/-- What is done in place of an action that failed need not be good at failures that the action
does not have. -/
theorem tryCatch {x : Action S α} {f : Fault → Action S α} (hx : NeverRefuses x)
    (hf : ∀ fault, (∀ cause, fault ≠ .argument cause) → NeverRefuses (f fault)) :
    NeverRefuses (tryCatch x f) := by
  intro s cause
  have hs := hx s
  change (orElse x f s).1 ≠ _
  rw [orElse]
  rcases hxs : x s with ⟨fault | a, t⟩ <;> rw [hxs] at hs
  · exact hf fault (fun cause hcause => hs cause (congrArg Except.error hcause)) t cause
  · intro hrefused
    cases hrefused

theorem forM {f : α → Action S Unit} (hf : ∀ a, NeverRefuses (f a)) (items : List α) :
    NeverRefuses (items.forM f) := by
  induction items with
  | nil => exact .pure ()
  | cons a rest ih => exact (hf a).bind fun _ => ih

section Client

variable {client : Client σ κ η} {r : Request κ}

theorem ask (call : Call κ η) : NeverRefuses (ask client call) := fun _ _ => nofun

/-- What the client reports has a kind of its own, also if it is about an argument. -/
theorem fail : NeverRefuses (fail client r : Action σ α) := by
  refine (ask _).bind fun report => .throw fun cause hfault => ?_
  have herror := ClientError.clientError?_toFault
    ⟨report.code, if report.message.isEmpty then Report.silentFailure else report.message, r.sql⟩
  rw [Report.toFault] at hfault
  rw [hfault] at herror
  exact nomatch herror

theorem require (reply : Option α) : NeverRefuses (require client r reply) := by
  cases reply with
  | none => exact fail
  | some a => exact pure a

theorem check (reply : Bool) : NeverRefuses (check client r reply) := by
  cases reply with
  | false => exact fail
  | true => exact pure ()

end Client

end NeverRefuses

end Action

namespace Operation

variable {ρ : Type}

theorem ofAction_neverRefuses {x : Action σ α} (hx : NeverRefuses x) :
    NeverRefuses (ofAction x : Operation ρ σ α) := fun s => hx s.2

theorem track_neverRefuses : NeverRefuses (track : Operation ρ σ ρ) := fun _ _ => nofun

theorem update_neverRefuses (f : ρ → ρ) : NeverRefuses (update f : Operation ρ σ Unit) :=
  fun _ _ => nofun

end Operation

namespace Execution

variable (client : Client σ κ η) (r : Request κ)

theorem requireStatement_neverRefuses : NeverRefuses (requireStatement r : Step σ η η) := by
  refine .bind track_neverRefuses fun execution => ?_
  cases execution.statement with
  | none => exact .throw nofun
  | some statement => exact .pure statement

theorem free_neverRefuses : NeverRefuses (free client) := by
  refine .bind track_neverRefuses fun execution => ?_
  cases execution.statement with
  | none => exact .pure ()
  | some statement =>
    exact .bind (ofAction_neverRefuses (.ask _)) fun _ => update_neverRefuses _

theorem finish_neverRefuses (autoCommit : Bool) : NeverRefuses (finish client r autoCommit) := by
  refine (free_neverRefuses client).bind fun _ => ?_
  cases autoCommit with
  | false => exact .pure ()
  | true =>
    exact .bind (ofAction_neverRefuses (.ask _)) fun reply =>
      .bind (ofAction_neverRefuses (.check reply)) fun _ => update_neverRefuses _

theorem abort_neverRefuses : NeverRefuses (abort client r) :=
  .bind (update_neverRefuses _) fun _ => .bind (free_neverRefuses client) fun _ =>
    .bind (ofAction_neverRefuses (.ask _)) fun _ => update_neverRefuses _

/-- A statement without parameters whose rows are of no interest is not refused: there cannot be too
many parameters, and no cell is read. -/
theorem drive_neverRefuses (autoCommit : Bool) (encoding : Text.Encoding) :
    NeverRefuses (drive client r [] ⟨autoCommit, encoding, false⟩) := by
  have hprepare : NeverRefuses (prepare client r) :=
    .bind (ofAction_neverRefuses (.ask _)) fun reply =>
      .bind (ofAction_neverRefuses (.require reply)) fun _ => update_neverRefuses _
  have hbind : NeverRefuses (bind client r encoding []) :=
    .bind (requireStatement_neverRefuses r) fun _ =>
      .bind (ofAction_neverRefuses (.pure ())) fun _ => update_neverRefuses _
  have hexecute : NeverRefuses (execute client r) :=
    .bind (requireStatement_neverRefuses r) fun _ => .bind (ofAction_neverRefuses (.ask _))
      fun reply => .bind (ofAction_neverRefuses (.check reply)) fun _ => update_neverRefuses _
  have hcount : NeverRefuses (countAffected client r) :=
    .bind (requireStatement_neverRefuses r) fun _ => .bind (ofAction_neverRefuses (.ask _))
      fun reply => .bind (ofAction_neverRefuses (.require reply)) fun _ => update_neverRefuses _
  exact hprepare.bind fun _ => hbind.bind fun _ => hexecute.bind fun _ =>
    .bind (.pure ResultSet.empty) fun result => hcount.bind fun _ =>
      (finish_neverRefuses client r autoCommit).bind fun _ => .pure result

theorem run_neverRefuses (autoCommit : Bool) (encoding : Text.Encoding) :
    NeverRefuses (run client r [] ⟨autoCommit, encoding, false⟩) := by
  refine .bind (.tryCatch (drive_neverRefuses client r autoCommit encoding) fun fault hfault => ?_)
    fun result => .bind track_neverRefuses fun execution => .pure _
  exact (abort_neverRefuses client r).bind fun _ => .throw hfault

end Execution

namespace Session

/-! ## Statements in turn -/

/-- The calls that run texts one after the other until one fails, and what comes of it. -/
inductive RunInTurn (connection : κ) (autoCommit : Bool) :
    List String → List (Event κ η) → Except Fault Unit → Prop where
  | done : RunInTurn connection autoCommit [] [] (.ok ())
  | next {sql : String} {texts : List String} {calls more : List (Event κ η)}
      {result : Except Fault Unit} :
      Execution.Course ⟨connection, sql⟩ autoCommit calls true →
      RunInTurn connection autoCommit texts more result →
      RunInTurn connection autoCommit (sql :: texts) (calls ++ more) result
  | failed {sql : String} {texts : List String} {calls : List (Event κ η)} {fault : Fault} :
      Execution.Course ⟨connection, sql⟩ autoCommit calls false →
      RunInTurn connection autoCommit (sql :: texts) calls (.error fault)

/-- Nothing but the texts is sent, and all of them unless one fails. -/
theorem RunInTurn.upTo {connection : κ} {autoCommit : Bool} {texts : List String}
    {calls : List (Event κ η)} {result : Except Fault Unit}
    (h : RunInTurn connection autoCommit texts calls result) :
    UpTo texts (sentTexts calls) result := by
  induction h with
  | done => exact .refl
  | next hfirst _ ih =>
    rw [sentTexts_append, hfirst.sentTexts_eq]
    exact ih.append
  | @failed sql texts calls fault hfirst =>
    rw [hfirst.sentTexts_eq]
    have halone : UpTo [sql] [sql] (.error fault : Except Fault Unit) := .refl
    exact halone.error_append

variable (client : Client σ κ η)

theorem run_neverRefuses (sql : String) : NeverRefuses (run client sql [] false) := by
  refine .bind track_neverRefuses fun session => ?_
  have hrun : NeverRefuses (client.run ⟨session.connection, sql⟩ []
      ⟨session.autoCommit, session.encoding, false⟩) :=
    fun s => Execution.run_neverRefuses client _ _ _ (.idle, s)
  have hcaught : NeverRefuses (do
      let outcome ← tryCatch (ofAction (client.run ⟨session.connection, sql⟩ []
        ⟨session.autoCommit, session.encoding, false⟩)) fun fault => do
          Operation.update fun s => { s with affectedRows := 0 }
          throw fault
      Operation.update fun s => { s with affectedRows := outcome.affectedRows }
      return outcome : Step σ κ Outcome) :=
    .bind (.tryCatch (ofAction_neverRefuses hrun) fun _ hfault =>
      .bind (update_neverRefuses _) fun _ => .throw hfault) fun outcome =>
        .bind (update_neverRefuses _) fun _ => .pure outcome
  split
  · exact .bind (.throw nofun) fun _ => hcaught
  · exact hcaught

theorem changeAll_neverRefuses (statements : List Statement) :
    NeverRefuses (changeAll client statements) := by
  refine .forM (fun statement => ?_) statements
  have hexecute : NeverRefuses (execute client statement.sql) :=
    (run_neverRefuses client statement.sql).map _
  exact hexecute.bind fun _ => .pure ()

/-- One statement is one run. -/
theorem change_makes_course (statement : Statement) {p : Session κ × σ × List (Event κ η)}
    (h : p.1.connected = true) :
    Makes record (change client.recorded statement) p fun calls result q =>
      Execution.Course ⟨p.1.connection, statement.sql⟩ p.1.autoCommit calls result.isOk ∧
        q.1 = { p.1 with affectedRows := q.1.affectedRows } := by
  have hrun := run_makes_course client statement.sql [] false h
  rw [change, execute, map_eq_pure_bind, bind_assoc]
  refine hrun.bind (fun calls outcome q hq => .pure ?_) fun calls fault q hq => hq
  rw [List.append_nil]
  exact hq

/-- Several statements are run in turn. -/
theorem changeAll_makes (statements : List Statement) {p : Session κ × σ × List (Event κ η)}
    (h : p.1.connected = true) :
    Makes record (changeAll client.recorded statements) p fun calls result _ =>
      RunInTurn p.1.connection p.1.autoCommit (statements.map Statement.sql) calls result := by
  induction statements generalizing p with
  | nil => exact .pure .done
  | cons statement rest ih =>
    refine (change_makes_course client statement h).bind (fun calls _ q hq => ?_)
      fun calls fault q hq => .failed hq.1
    -- the next statement finds the session as the first one found it
    obtain ⟨hcourse, hsession⟩ := hq
    have hstill : q.1.connected = true := by
      rw [hsession]
      exact h
    obtain ⟨more, hrecord, hmore⟩ := ih hstill
    rw [hsession] at hmore
    exact ⟨more, hrecord, .next hcourse hmore⟩

/-! ## Changes -/

/-- A change of the schema that may come with a default. -/
inductive DefaultChange where
  | setDefault (table column : String) (default : Value)
  | setNullable (table column : String) (nullable : Bool) (default : Option Value)
  | setType (table column : String) (type : LogicalType) (options : ColumnOptions)

namespace DefaultChange

/-- What is done in a session. -/
def perform (client : Client σ κ η) : DefaultChange → Step σ κ Unit
  | setDefault table column default => Session.setDefault client table column default
  | setNullable table column nullable default =>
    Session.setNullable client table column nullable default
  | setType table column type options => Session.setType client table column type options

/-- The statements of the change, if its default can be written. -/
def statements : DefaultChange → Except Fault (List Statement)
  | setDefault table column default => (Schema.setDefault table column default).map ([·])
  | setNullable table column nullable default => Schema.setNullable table column nullable default
  | setType table column type options => (Schema.setType table column type options).map ([·])

/-- The default that has to be written. Where nulls are allowed, there is no need for one. -/
def written? : DefaultChange → Option Value
  | setDefault _ _ default => some default
  | setNullable _ _ nullable default => if nullable then none else default
  | setType _ _ _ options => options.default

/-- All statements are there before the first one is run. -/
theorem perform_eq (client : Client σ κ η) (change : DefaultChange) :
    change.perform client = Action.ofExcept change.statements >>= changeAll client := by
  have hone : ∀ made : Except Fault Statement,
      (Action.ofExcept made >>= Session.change client : Step σ κ Unit) =
        Action.ofExcept (made.map ([·])) >>= changeAll client := by
    intro made
    cases made with
    | error fault => rfl
    | ok statement => exact (bind_pure (Session.change client statement)).symm
  cases change with
  | setDefault table column default => exact hone _
  | setNullable table column nullable default => rfl
  | setType table column type options => exact hone _

theorem statements_of_unquotable {change : DefaultChange} {v : Value} (hv : v ∈ change.written?)
    (h : v.Unquotable) : change.statements = .error (.argument (.unquotable v.logicalType)) := by
  have hliteral := Value.literal_of_unquotable h
  cases change with
  | setDefault table column default =>
    cases hv
    rw [statements, Schema.setDefault, hliteral]
    rfl
  | setNullable table column nullable default =>
    cases nullable with
    | true => exact nomatch hv
    | false =>
      obtain rfl : default = some v := hv
      rw [statements, Schema.setNullable, hliteral]
      rfl
  | setType table column type options =>
    have hdefault : options.default = some v := hv
    rw [statements, Schema.setType, hdefault, Option.mapM_some, hliteral]
    rfl

theorem exists_statements {change : DefaultChange} (h : ∀ v ∈ change.written?, ¬ v.Unquotable) :
    ∃ statements, change.statements = .ok statements := by
  cases change with
  | setDefault table column default =>
    obtain ⟨sql, hsql⟩ := Value.exists_literal (h default rfl)
    rw [statements, Schema.setDefault, hsql]
    exact ⟨_, rfl⟩
  | setNullable table column nullable default =>
    cases nullable with
    | true => exact ⟨_, rfl⟩
    | false =>
      cases default with
      | none => exact ⟨_, rfl⟩
      | some default =>
        obtain ⟨sql, hsql⟩ := Value.exists_literal (h default rfl)
        rw [statements, Schema.setNullable, hsql]
        exact ⟨_, rfl⟩
  | setType table column type options =>
    rw [statements, Schema.setType]
    cases hdefault : options.default with
    | none => exact ⟨_, rfl⟩
    | some default =>
      obtain ⟨sql, hsql⟩ := Value.exists_literal (h default hdefault)
      rw [Option.mapM_some, hsql]
      exact ⟨_, rfl⟩

theorem perform_of_unquotable (client : Client σ κ η) {change : DefaultChange} {v : Value}
    (hv : v ∈ change.written?) (h : v.Unquotable) (p : Session κ × σ) :
    change.perform client p = (.error (.argument (.unquotable v.logicalType)), p) := by
  rw [perform_eq, statements_of_unquotable hv h]
  rfl

theorem perform_of_statements (client : Client σ κ η) {change : DefaultChange}
    {statements : List Statement} (h : change.statements = .ok statements) :
    change.perform client = changeAll client statements := by
  rw [perform_eq, h]
  rfl

/-- **A change is refused exactly if a default has to be written that has no literal.** Then nothing
was done: no call was made, and session and client are as before. Otherwise a connected session runs
the statements of the change in turn. -/
theorem perform_refuses_iff (client : Client σ κ η) (change : DefaultChange)
    (p : Session κ × σ × List (Event κ η)) :
    ((∃ cause, (change.perform client.recorded p).1 = .error (.argument cause)) ↔
      ∃ v ∈ change.written?, v.Unquotable) ∧
    (∀ v ∈ change.written?, v.Unquotable →
      change.perform client.recorded p = (.error (.argument (.unquotable v.logicalType)), p)) ∧
    ((∀ v ∈ change.written?, ¬ v.Unquotable) → p.1.connected = true →
      ∃ statements, change.statements = .ok statements ∧
        Makes record (change.perform client.recorded) p fun calls result _ =>
          RunInTurn p.1.connection p.1.autoCommit (statements.map Statement.sql) calls result ∧
            UpTo (statements.map Statement.sql) (sentTexts calls) result) := by
  have hrefused : ∀ v ∈ change.written?, v.Unquotable →
      change.perform client.recorded p = (.error (.argument (.unquotable v.logicalType)), p) :=
    fun v hv h => perform_of_unquotable client.recorded hv h p
  refine ⟨⟨fun ⟨cause, hcause⟩ => ?_, fun ⟨v, hv, h⟩ => ⟨_, by rw [hrefused v hv h]⟩⟩,
    hrefused, fun hfine hconnected => ?_⟩
  · by_contra hnone
    obtain ⟨statements, hstatements⟩ :=
      exists_statements fun v hv h => hnone ⟨v, hv, h⟩
    rw [perform_of_statements client.recorded hstatements] at hcause
    exact changeAll_neverRefuses client.recorded statements p cause hcause
  · obtain ⟨statements, hstatements⟩ := exists_statements hfine
    refine ⟨statements, hstatements, ?_⟩
    rw [perform_of_statements client.recorded hstatements]
    obtain ⟨calls, hrecord, hturn⟩ := changeAll_makes client statements hconnected
    exact ⟨calls, hrecord, hturn, hturn.upTo⟩

/-- Nulls are to be replaced by a value, and then forbidden. -/
def replaceNulls (value : Value) : DefaultChange := .setNullable "t" "a" false (some value)

/-- Updates fail. -/
def updatesFail : Script.State :=
  .start [] [⟨.execute, "UPDATE", ⟨-210, "the row is locked"⟩, 0, none⟩] []

/-- Bytes are refused. The number is written, and of the two statements the first one is sent, which
fails. -/
theorem perform_refuses_iff_replaceNulls :
    (replaceNulls (.binary [0])).perform Script.client.recorded (plainSession, (updatesFail, [])) =
        (.error (.argument (.unquotable .binary)), (plainSession, (updatesFail, []))) ∧
      (∀ v ∈ (replaceNulls (.int 0)).written?, ¬ v.Unquotable) ∧ plainSession.connected = true ∧
      Makes record ((replaceNulls (.int 0)).perform Script.client.recorded)
        (plainSession, (updatesFail, [])) fun calls result _ =>
          RunInTurn () true ["UPDATE \"t\" SET \"a\"=0 WHERE \"a\" IS NULL",
            "ALTER TABLE \"t\" ALTER \"a\" NOT NULL"] calls result ∧
          sentTexts calls = ["UPDATE \"t\" SET \"a\"=0 WHERE \"a\" IS NULL"] ∧
          result.isOk = false := by
  have hbytes := perform_refuses_iff Script.client (replaceNulls (.binary [0]))
    (plainSession, (updatesFail, []))
  have hnumber := perform_refuses_iff Script.client (replaceNulls (.int 0))
    (plainSession, (updatesFail, []))
  have hfine : ∀ v ∈ (replaceNulls (.int 0)).written?, ¬ v.Unquotable := by
    rintro _ ⟨⟩ ⟨⟩
  have hrun : sentTexts ((replaceNulls (.int 0)).perform Script.client.recorded
        (plainSession, (updatesFail, []))).2.2.2.reverse =
          ["UPDATE \"t\" SET \"a\"=0 WHERE \"a\" IS NULL"] ∧
      ((replaceNulls (.int 0)).perform Script.client.recorded
        (plainSession, (updatesFail, []))).1.isOk = false := by
    decide +kernel
  refine ⟨hbytes.2.1 _ rfl (.binary [0]), hfine, rfl, ?_⟩
  obtain ⟨statements, hstatements, calls, hrecord, hturn, -⟩ := hnumber.2.2 hfine rfl
  cases hstatements
  refine ⟨calls, hrecord, hturn, ?_, hrun.2⟩
  rw [calls_eq_reverse hrecord]
  exact hrun.1

end DefaultChange

end Session

end Anywhere
