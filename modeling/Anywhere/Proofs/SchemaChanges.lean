import Anywhere.Proofs.ColumnReferences
import Anywhere.Proofs.FetchedRows
import Anywhere.Proofs.Transactions

/-!
# What a schema change leaves behind when it fails

A change of the schema may take several *errands*: statements that change something, and questions
to the catalog, whose answers say which statements come next. Each errand is a run of its own, and a
session that commits every statement by itself does so here, too. So a change is carried out errand
by errand, and a failure leaves those in front of it behind (`Session.perform_effects`): a proper
part of the change, which is nothing at all only if the first errand is the one that fails.

What lasts is read off the calls. The journal of a server knows the texts of the statements that
were prepared. Executing one that asks for nothing makes its effect pending, a commit makes what is
pending last, and a rollback takes it back. An errand that succeeds has a known transcript, and one
that fails takes one of the courses that end with a rollback, so that the journal behind each of
them is known.
-/

namespace Anywhere

open Anywhere.Action Anywhere.Operation Schema

variable {σ κ η : Type}

/-! ## Texts that change something -/

/-- The text asks for rows, and changes nothing. -/
def isQuestion (sql : String) : Bool := sql.toList.take 7 == "SELECT ".toList

/-- However a text goes on, it is not a question. -/
structure Acts (front : String) : Prop where
  long : 7 ≤ front.toList.length
  isQuestion : isQuestion front = false

/-- The front of a text tells. -/
theorem isQuestion_append {front : String} (h : 7 ≤ front.toList.length) (rest : String) :
    isQuestion (front ++ rest) = isQuestion front := by
  rw [isQuestion, isQuestion, String.toList_append, List.take_append_of_le_length h]

theorem Acts.append {front : String} (h : Acts front) (rest : String) : Acts (front ++ rest) where
  long := by
    rw [String.toList_append, List.length_append]
    exact Nat.le_add_right_of_le h.long
  isQuestion := (isQuestion_append h.long rest).trans h.isQuestion

theorem acts_sql (statement : Statement) : Acts statement.sql := by
  have halter (table : String) : Acts (Statement.alter table) :=
    .append ⟨by decide, by decide⟩ _
  have hcolumn (table column : String) : Acts (Statement.alterColumn table column) :=
    ((halter table).append _).append _
  have hupdate : Acts "UPDATE " := ⟨by decide, by decide⟩
  have hdrop : Acts "DROP INDEX " := ⟨by decide, by decide⟩
  cases statement with
  | renameTable table newName => exact ((halter table).append _).append _
  | renameColumn table column newName =>
    exact ((((halter table).append _).append _).append _).append _
  | setDefault table column default => exact ((hcolumn table column).append _).append _
  | fillNulls table column value =>
    have hset := ((hupdate.append (Name.quotedPath table)).append " SET ").append
      (Name.quoted column)
    exact ((((hset.append _).append _).append _).append _).append _
  | setNullable table column nullable => exact ((hcolumn table column).append _).append _
  | setType table column type default nullable =>
    exact ((((hcolumn table column).append _).append _).append _).append _
  | dropColumn table column => exact ((halter table).append _).append _
  | dropIndex table index => exact ((hdrop.append _).append _).append _

theorem isQuestion_indexesOfColumn (table column : String) :
    isQuestion (indexesOfColumn table column) = true := by
  rw [indexesOfColumn, Schema.query, String.intercalate_cons_cons, String.append_assoc]
  exact isQuestion_append (by decide) _

/-! ## The journal of the server -/

/-- The SQL texts whose effects are pending, and those whose effects last. -/
structure Effects where
  pending : List String
  durable : List String
deriving DecidableEq, Repr

namespace Effects

/-- The pending effects are gone. -/
def clear (effects : Effects) : Effects := { effects with pending := [] }

/-- The pending effects last, and those of further statements behind them. -/
def settle (effects : Effects) (done : List Statement) : Effects :=
  ⟨[], effects.durable ++ effects.pending ++ done.map Statement.sql⟩

theorem settle_settle (effects : Effects) (done more : List Statement) :
    (effects.settle done).settle more = effects.settle (done ++ more) := by
  simp [settle]

end Effects

/-- What the server knows: the texts of the statements that were prepared, and their effects. -/
structure Journal (η : Type) extends Effects where
  sql : η → String

namespace Journal

/-- The journal with other effects. -/
def withEffects (journal : Journal η) (effects : Effects) : Journal η :=
  { journal with toEffects := effects }

/-- The effect of a text is pending, if it has one. -/
def execute (journal : Journal η) (sql : String) : Journal η :=
  if isQuestion sql then journal else { journal with pending := journal.pending ++ [sql] }

theorem durable_execute (journal : Journal η) (sql : String) :
    (journal.execute sql).durable = journal.durable := by
  rw [execute]
  split
  · rfl
  · rfl

variable [DecidableEq η]

/-- What the server writes down for a call and its answer. -/
def note : Event κ η → Journal η → Journal η
  | ⟨.prepare _ sql, some statement⟩, journal =>
    { journal with sql := Function.update journal.sql statement sql }
  | ⟨.execute statement, true⟩, journal => journal.execute (journal.sql statement)
  | ⟨.commit _, true⟩, journal => journal.withEffects (journal.settle [])
  | ⟨.rollback _, _⟩, journal => journal.withEffects journal.clear
  | _, journal => journal

/-- What the server has written down behind calls. -/
def after (journal : Journal η) (calls : List (Event κ η)) : Journal η :=
  calls.foldl (fun journal e => note e journal) journal

@[simp] theorem after_nil (journal : Journal η) :
    journal.after ([] : List (Event κ η)) = journal := rfl

@[simp] theorem after_cons (journal : Journal η) (e : Event κ η) (calls : List (Event κ η)) :
    journal.after (e :: calls) = (note e journal).after calls := rfl

@[simp] theorem after_append (journal : Journal η) (calls more : List (Event κ η)) :
    journal.after (calls ++ more) = (journal.after calls).after more :=
  List.foldl_append

/-- Nothing lasts without a commit that succeeds. -/
theorem durable_note {e : Event κ η} (h : Event.committed? e ≠ some true) (journal : Journal η) :
    (note e journal).durable = journal.durable := by
  obtain ⟨call, reply⟩ := e
  cases call with
  | prepare connection sql => cases reply <;> rfl
  | execute statement =>
    cases reply with
    | false => rfl
    | true => exact durable_execute journal _
  | commit connection =>
    cases reply with
    | false => rfl
    | true => exact absurd rfl h
  | _ => rfl

theorem durable_after {calls : List (Event κ η)}
    (h : ∀ e ∈ calls, Event.committed? e ≠ some true) (journal : Journal η) :
    (journal.after calls).durable = journal.durable := by
  induction calls generalizing journal with
  | nil => rfl
  | cons e calls ih =>
    rw [List.forall_mem_cons] at h
    rw [after_cons, ih h.2, durable_note h.1]

/-- Fetching leaves no trace. -/
theorem after_of_fetching {calls : List (Event κ η)} (h : ∀ e ∈ calls, e.At (· = .fetching))
    (journal : Journal η) : journal.after calls = journal := by
  induction calls with
  | nil => rfl
  | cons e calls ih =>
    rw [List.forall_mem_cons] at h
    obtain ⟨⟨call, reply⟩, hat⟩ := e, h.1
    have hnote : note ⟨call, reply⟩ journal = journal := by
      cases call <;> first | rfl | cases hat
    rw [after_cons, hnote, ih h.2]

end Journal

namespace Execution

variable {r : Request κ} {encoding : Text.Encoding} {fetchRows : Bool} {result : ResultSet}
  {calls : List (Event κ η)}

theorem Fetched.at_fetching {options : RunOptions} {statement : η}
    (h : Fetched options statement calls result) : ∀ e ∈ calls, e.At (· = .fetching) := by
  intro e he
  unfold Fetched at h
  split at h
  · obtain ⟨columns, rows, -, -, rfl⟩ := h
    rcases List.mem_append.mp he with he | he
    · rcases Client.mem_descriptionCalls he with rfl | ⟨_, _, -, rfl⟩ <;> rfl
    · rcases Client.mem_rowsCalls he with ⟨_, rfl⟩ | ⟨_, -, _, _, -, rfl⟩ <;> rfl
  · rw [h.1] at he
    exact nomatch he

variable [DecidableEq η]

/-- A run that succeeds and commits makes its text last, behind what was pending. -/
theorem Transcript.toEffects_after (h : Transcript r [] ⟨true, encoding, fetchRows⟩ result calls)
    (journal : Journal η) :
    (journal.after calls).toEffects = (journal.execute r.sql).settle [] := by
  obtain ⟨statement, slots, fetched, count, -, hslots, hfetched, rfl⟩ := h
  have hunbound : Client.parametersCalls (κ := κ) encoding statement 0 slots [] = [] := by
    rw [Client.parametersCalls, List.zip_nil_right]
    rfl
  have hexecuted : (Journal.note (⟨.execute statement, true⟩ : Event κ η)
      (Journal.note (⟨.prepare r.connection r.sql, some statement⟩ : Event κ η)
        journal)).toEffects = (journal.execute r.sql).toEffects := by
    change (Journal.execute _ (Function.update journal.sql statement r.sql statement)).toEffects = _
    rw [Function.update_self, Journal.execute, Journal.execute]
    split <;> rfl
  rw [hunbound, List.nil_append, Journal.after_cons, Journal.after_cons, Journal.after_append,
    Journal.after_of_fetching hfetched.at_fetching]
  exact congrArg (Effects.settle · []) hexecuted

/-- A run that fails takes back what was pending. -/
theorem Course.toEffects_after {autoCommit : Bool} (h : Course r autoCommit calls false)
    (journal : Journal η) : (journal.after calls).toEffects = journal.clear := by
  obtain ⟨earlier, reply, rfl, -, hcommitted⟩ := h.orderly.failure rfl
  have huncommitted : ∀ e ∈ earlier, Event.committed? e ≠ some true := by
    intro e he hreply
    have hmem := List.mem_filterMap.mpr ⟨e, he, hreply⟩
    exact Bool.false_ne_true (hcommitted true hmem).symm
  -- the rollback comes last, and takes back all that did not last
  rw [Journal.after_append]
  exact congrArg (Effects.mk []) (Journal.durable_after huncommitted journal)

end Execution

/-! ## Errands -/

/-- What a change of the schema has to do next. -/
inductive Errand where
  /-- Ask for the indexes of a column, and be told these. -/
  | ask (table column : String) (indexes : List String)
  | act (statement : Statement)

namespace Errand

/-- The text that is run. -/
def sql : Errand → String
  | ask table column _ => indexesOfColumn table column
  | act statement => statement.sql

/-- The statement that changes something, if there is one. -/
def statement? : Errand → Option Statement
  | ask .. => none
  | act statement => some statement

/-- The statements among errands. -/
def statements (errands : List Errand) : List Statement := errands.filterMap statement?

@[simp] theorem statements_append (errands more : List Errand) :
    statements (errands ++ more) = statements errands ++ statements more :=
  List.filterMap_append

/-- The calls of an errand that succeeds. Whoever asks is told the names that are fetched. -/
def Succeeds (connection : κ) (encoding : Text.Encoding) :
    Errand → List (Event κ η) → Prop
  | ask table column indexes, calls => ∃ result,
      Execution.Transcript ⟨connection, indexesOfColumn table column⟩ [] ⟨true, encoding, true⟩
        result calls ∧ indexes = textsOf result "index_name"
  | act statement, calls => ∃ result,
      Execution.Transcript ⟨connection, statement.sql⟩ [] ⟨true, encoding, false⟩ result calls

/-- The calls of an errand that fails. -/
def Fails (connection : κ) (errand : Errand) (calls : List (Event κ η)) : Prop :=
  Execution.Course ⟨connection, errand.sql⟩ true calls false

variable {connection : κ} {encoding : Text.Encoding} {errand : Errand} {calls : List (Event κ η)}

/-- An errand that succeeds makes its statement last, if it has one. -/
theorem Succeeds.toEffects_after [DecidableEq η] (h : errand.Succeeds connection encoding calls)
    (journal : Journal η) :
    (journal.after calls).toEffects = journal.settle (statements [errand]) := by
  cases errand with
  | ask table column indexes =>
    obtain ⟨result, htranscript, -⟩ := h
    rw [htranscript.toEffects_after, Journal.execute,
      if_pos (isQuestion_indexesOfColumn table column)]
    rfl
  | act statement =>
    obtain ⟨result, htranscript⟩ := h
    rw [htranscript.toEffects_after, Journal.execute, (acts_sql statement).isQuestion,
      if_neg Bool.false_ne_true]
    simp [Effects.settle, statements, statement?]

end Errand

/-- Errands are done one after the other, up to the first one that fails: `done` are those that
succeed. Nothing else is called. -/
inductive DoneInTurn (connection : κ) (encoding : Text.Encoding) :
    List Errand → List Errand → List (Event κ η) → Bool → Prop where
  | all : DoneInTurn connection encoding [] [] [] true
  | next {errand : Errand} {errands done : List Errand} {calls more : List (Event κ η)}
      {succeeded : Bool} :
      errand.Succeeds connection encoding calls →
      DoneInTurn connection encoding errands done more succeeded →
      DoneInTurn connection encoding (errand :: errands) (errand :: done) (calls ++ more) succeeded
  | stopped {errand : Errand} {errands : List Errand} {calls : List (Event κ η)} :
      errand.Fails connection calls →
      DoneInTurn connection encoding (errand :: errands) [] calls false

namespace DoneInTurn

variable {connection : κ} {encoding : Text.Encoding} {errands others done more : List Errand}
  {calls calls' : List (Event κ η)} {succeeded : Bool}

theorem single_of_succeeds {errand : Errand} (h : errand.Succeeds connection encoding calls) :
    DoneInTurn connection encoding [errand] [errand] calls true := by
  have honly : DoneInTurn connection encoding [errand] [errand] (calls ++ []) true := .next h .all
  rwa [List.append_nil] at honly

/-- When nothing fails, all errands are done. -/
theorem done_eq (h : DoneInTurn connection encoding errands done calls true) : done = errands := by
  generalize htrue : true = succeeded at h
  induction h with
  | all => rfl
  | next _ _ ih => rw [ih htrue]
  | stopped => cases htrue

/-- When one fails, it and those behind it are not done. -/
theorem exists_rest (h : DoneInTurn connection encoding errands done calls false) :
    ∃ failed rest, errands = done ++ failed :: rest := by
  generalize hfalse : false = succeeded at h
  induction h with
  | all => cases hfalse
  | next _ _ ih =>
    obtain ⟨failed, rest, rfl⟩ := ih hfalse
    exact ⟨failed, rest, rfl⟩
  | @stopped errand errands => exact ⟨errand, errands, rfl⟩

theorem append (h : DoneInTurn connection encoding errands done calls true)
    (h' : DoneInTurn connection encoding others more calls' succeeded) :
    DoneInTurn connection encoding (errands ++ others) (done ++ more) (calls ++ calls')
      succeeded := by
  generalize htrue : true = all at h
  induction h with
  | all => exact h'
  | next hfirst _ ih =>
    rw [List.append_assoc]
    exact .next hfirst (ih htrue)
  | stopped => cases htrue

/-- What comes behind a failure is not done. -/
theorem append_of_stopped (h : DoneInTurn connection encoding errands done calls false)
    (others : List Errand) :
    DoneInTurn connection encoding (errands ++ others) done calls false := by
  generalize hfalse : false = succeeded at h
  induction h with
  | all => cases hfalse
  | next hfirst _ ih => exact .next hfirst (ih hfalse)
  | stopped hfails => exact .stopped hfails

variable [DecidableEq η]

/-- **What errands leave behind.** What is done lasts, behind what was pending before; if nothing is
done because the first errand fails, what was pending is taken back. -/
theorem toEffects_after (h : DoneInTurn connection encoding errands done calls succeeded)
    (hsome : errands ≠ []) (journal : Journal η) :
    (journal.after calls).toEffects =
      if done = [] then journal.clear else journal.settle (Errand.statements done) := by
  induction h generalizing journal with
  | all => exact absurd rfl hsome
  | @next errand errands done calls more succeeded hfirst hrest ih =>
    have heffects := hfirst.toEffects_after journal
    rw [if_neg (List.cons_ne_nil _ _), Journal.after_append]
    cases hrest with
    | all => exact heffects
    | next hsecond hrest =>
      rw [ih (List.cons_ne_nil _ _), if_neg (List.cons_ne_nil _ _), heffects, Effects.settle_settle,
        ← Errand.statements_append]
      rfl
    | stopped hfails =>
      rw [ih (List.cons_ne_nil _ _), if_pos rfl, heffects]
      rfl
  | stopped hfails => rw [if_pos rfl, hfails.toEffects_after]

end DoneInTurn

/-! ## Changes and what they consist of -/

/-- A change of the schema that may take several statements. -/
inductive SchemaChange where
  | renameColumn (table column newName : String)
  | setNullable (table column : String) (nullable : Bool) (default : Option Value)
  | removeColumns (table : String) (columns : List String)

/-- The errands for a column that is to be removed: the question, each index that is found, and the
column. -/
def Session.Removal.errands (table : String) (removal : Removal) : List Errand :=
  .ask table removal.column removal.indexes ::
    (removal.indexes.map fun index => .act (.dropIndex table index)) ++
      [.act (.dropColumn table removal.column)]

namespace SchemaChange

/-- Makes the change in a session. -/
def perform (client : Client σ κ η) : SchemaChange → Session.Step σ κ Unit
  | renameColumn table column newName => Session.renameColumn client table column newName
  | setNullable table column nullable default =>
    Session.setNullable client table column nullable default
  | removeColumns table columns => Session.removeColumns client table columns

/-- Why the change is refused, if it is: there is no literal for the default, or there are no
columns. -/
def refusal? : SchemaChange → Option Fault
  | renameColumn .. => none
  | setNullable table column nullable default =>
    match Schema.setNullable table column nullable default with
    | .error fault => some fault
    | .ok _ => none
  | removeColumns _ columns => if columns.isEmpty then some (.argument .noColumns) else none

/-- The errands of which the change consists. Which indexes there are to be dropped is up to the
answers. -/
inductive Consists : SchemaChange → List Errand → Prop where
  | renameColumn (table column newName : String) :
      Consists (.renameColumn table column newName)
        ((Schema.renameColumn table column newName).map .act)
  | setNullable {table column : String} {nullable : Bool} {default : Option Value}
      {statements : List Statement} :
      Schema.setNullable table column nullable default = .ok statements →
      Consists (.setNullable table column nullable default) (statements.map .act)
  | removeColumns (table : String) {removals : List Session.Removal} :
      removals ≠ [] →
      Consists (.removeColumns table (removals.map (·.column)))
        (removals.flatMap (·.errands table))

theorem renameColumn_ne_nil (table column newName : String) :
    Schema.renameColumn table column newName ≠ [] := by
  unfold Schema.renameColumn
  split <;> exact List.cons_ne_nil _ _

theorem setNullable_ne_nil {table column : String} {nullable : Bool} {default : Option Value}
    {statements : List Statement}
    (h : Schema.setNullable table column nullable default = .ok statements) : statements ≠ [] := by
  rintro rfl
  unfold Schema.setNullable at h
  split at h
  · next value =>
    cases hliteral : value.literal with
    | error fault =>
      rw [hliteral] at h
      exact nomatch h
    | ok literal =>
      rw [hliteral] at h
      exact nomatch h
  · exact nomatch h

/-- The last errand of a change is a statement. -/
theorem Consists.exists_last {change : SchemaChange} {errands : List Errand}
    (h : change.Consists errands) : ∃ front statement, errands = front ++ [.act statement] := by
  have hmap {statements : List Statement} (hsome : statements ≠ []) :
      ∃ front statement, statements.map Errand.act = front ++ [.act statement] :=
    ⟨statements.dropLast.map .act, statements.getLast hsome, by
      rw [← List.map_singleton, ← List.map_append, List.dropLast_append_getLast]⟩
  cases h with
  | renameColumn table column newName => exact hmap (renameColumn_ne_nil table column newName)
  | setNullable h => exact hmap (setNullable_ne_nil h)
  | @removeColumns table removals hsome =>
    rw [← List.dropLast_append_getLast hsome, List.flatMap_append, List.flatMap_singleton,
      Session.Removal.errands, ← List.append_assoc]
    exact ⟨_, _, rfl⟩

/-- A change of which an errand fails is not done in full. -/
theorem Consists.exists_rest {change : SchemaChange} {errands done : List Errand}
    (h : change.Consists errands) {connection : κ} {encoding : Text.Encoding}
    {calls : List (Event κ η)} (hdone : DoneInTurn connection encoding errands done calls false) :
    ∃ rest, rest ≠ [] ∧ Errand.statements errands = Errand.statements done ++ rest := by
  obtain ⟨front, statement, hlast⟩ := h.exists_last
  obtain ⟨failed, rest, heq⟩ := hdone.exists_rest
  refine ⟨Errand.statements (failed :: rest), ?_, by rw [heq, Errand.statements_append]⟩
  have hmem : .act statement ∈ failed :: rest := by
    have hends := congrArg List.getLast? (heq.symm.trans hlast)
    rw [List.getLast?_append_cons, List.getLast?_concat] at hends
    exact List.mem_of_getLast? hends
  exact List.ne_nil_of_mem (List.mem_filterMap.mpr ⟨_, hmem, rfl⟩)

end SchemaChange

/-! ## Changes in a session -/

namespace Session

/-- Every statement of the session is committed by itself. -/
structure AutoCommits (session : Session κ) : Prop where
  connected : session.connected = true
  autoCommit : session.autoCommit = true

theorem AutoCommits.counted {session session' : Session κ} {count : Nat}
    (h : session.AutoCommits) (hcount : session' = { session with affectedRows := count }) :
    session'.AutoCommits := by
  subst hcount
  exact ⟨h.connected, h.autoCommit⟩

/-- The step does the errands of a plan in turn. Of the session it changes nothing but the number of
affected rows. -/
def CarriesOut (plan : List Errand → Prop) (x : Step (σ × List (Event κ η)) κ Unit) : Prop :=
  ∀ p, p.1.AutoCommits → Makes record x p fun calls result q =>
    (∃ errands done, plan errands ∧
      DoneInTurn p.1.connection p.1.encoding errands done calls result.isOk) ∧
    ∃ count, q.1 = { p.1 with affectedRows := count }

namespace CarriesOut

variable {P Q R : List Errand → Prop} {x y : Step (σ × List (Event κ η)) κ Unit}

theorem pure (h : P []) : CarriesOut P (pure () : Step (σ × List (Event κ η)) κ Unit) :=
  fun p _ => .pure ⟨⟨[], [], h, .all⟩, p.1.affectedRows, rfl⟩

theorem mono (h : ∀ errands, P errands → Q errands) (hx : CarriesOut P x) : CarriesOut Q x := by
  intro p hp
  obtain ⟨calls, hrecord, ⟨errands, done, hplan, hdone⟩, hsession⟩ := hx p hp
  exact ⟨calls, hrecord, ⟨errands, done, h errands hplan, hdone⟩, hsession⟩

/-- The errands of two steps, if those of the first one succeed. -/
theorem seq (hx : CarriesOut P x) (hy : CarriesOut Q y) (hQ : ∃ others, Q others)
    (hR : ∀ errands others, P errands → Q others → R (errands ++ others)) :
    CarriesOut R (x >>= fun _ => y) := by
  intro p hp
  refine (hx p hp).bind (fun calls _ q hfirst => ?_) fun calls fault q hfirst => ?_
  · obtain ⟨⟨errands, done, hplan, hdone⟩, count, hsession⟩ := hfirst
    obtain ⟨more, hrecord, ⟨others, done', hplan', hdone'⟩, count', hsession'⟩ :=
      hy q (hp.counted hsession)
    rw [hsession] at hdone' hsession'
    exact ⟨more, hrecord, ⟨_, _, hR _ _ hplan hplan', hdone.append hdone'⟩, count', hsession'⟩
  · -- of the second plan nothing was done, whatever it is
    obtain ⟨⟨errands, done, hplan, hdone⟩, hsession⟩ := hfirst
    obtain ⟨others, hothers⟩ := hQ
    exact ⟨⟨_, _, hR _ _ hplan hothers, hdone.append_of_stopped others⟩, hsession⟩

end CarriesOut

variable (client : Client σ κ η)

/-- A statement of a session that commits by itself is one run, with a transcript if it succeeds and
the course of a failure otherwise. -/
theorem run_makes_errand (sql : String) (fetchRows : Bool)
    {p : Session κ × σ × List (Event κ η)} (hp : p.1.AutoCommits) :
    Makes record (run client.recorded sql [] fetchRows) p fun calls result q =>
      (match result with
        | .ok outcome => Execution.Transcript ⟨p.1.connection, sql⟩ []
            ⟨true, p.1.encoding, fetchRows⟩ outcome.result calls
        | .error _ => Execution.Course ⟨p.1.connection, sql⟩ true calls false) ∧
      ∃ count, q.1 = { p.1 with affectedRows := count } := by
  obtain ⟨calls, hrecord, ⟨hcourse, hsession⟩, hexplains⟩ :=
    (run_makes_course client sql [] fetchRows hp.connected).and
      (run_makes_explained client sql [] fetchRows hp.connected)
  rw [hp.autoCommit] at hcourse
  rw [options, hp.autoCommit] at hexplains
  refine ⟨calls, hrecord, ?_, _, hsession⟩
  cases hresult : (run client.recorded sql [] fetchRows p).1 with
  | ok outcome =>
    rw [hresult] at hexplains
    exact hexplains.2
  | error fault =>
    rw [hresult] at hcourse
    exact hcourse

/-- A single statement is one errand. -/
theorem change_carriesOut (statement : Statement) :
    CarriesOut (· = [.act statement]) (change client.recorded statement) := by
  intro p hp
  rw [change, execute, map_eq_pure_bind, bind_assoc]
  refine (run_makes_errand client statement.sql false hp).bind
    (fun calls outcome q hrun => .pure ?_) fun calls fault q hrun => ?_
  · rw [List.append_nil]
    exact ⟨⟨_, _, rfl, .single_of_succeeds ⟨_, hrun.1⟩⟩, hrun.2⟩
  · exact ⟨⟨_, _, rfl, .stopped hrun.1⟩, hrun.2⟩

theorem changeAll_carriesOut (statements : List Statement) :
    CarriesOut (· = statements.map .act) (changeAll client.recorded statements) := by
  induction statements with
  | nil => exact .pure rfl
  | cons statement rest ih =>
    refine (change_carriesOut client statement).seq ih ⟨_, rfl⟩ ?_
    rintro _ _ rfl rfl
    rfl

/-- A question is an errand, and its answer decides how to go on. -/
theorem query_carriesOut (table column : String) (plan : List String → List Errand → Prop)
    {f : ResultSet → Step (σ × List (Event κ η)) κ Unit} (hplan : ∃ errands, plan [] errands)
    (hf : ∀ result, CarriesOut (plan (textsOf result "index_name")) (f result)) :
    CarriesOut (fun errands => ∃ indexes rest, plan indexes rest ∧
        errands = .ask table column indexes :: rest)
      (query client.recorded (indexesOfColumn table column) [] >>= f) := by
  intro p hp
  rw [query, map_eq_pure_bind, bind_assoc]
  refine (run_makes_errand client (indexesOfColumn table column) true hp).bind
    (fun calls outcome q hrun => ?_) fun calls fault q hrun => ?_
  · obtain ⟨htranscript, count, hsession⟩ := hrun
    obtain ⟨more, hrecord, ⟨errands, done, herrands, hdone⟩, count', hsession'⟩ :=
      hf outcome.result q (hp.counted hsession)
    rw [hsession] at hdone hsession'
    exact ⟨more, hrecord, ⟨_, _, ⟨_, errands, herrands, rfl⟩,
      .next ⟨_, htranscript, rfl⟩ hdone⟩, count', hsession'⟩
  · obtain ⟨errands, herrands⟩ := hplan
    exact ⟨⟨_, _, ⟨[], errands, herrands, rfl⟩, .stopped hrun.1⟩, hrun.2⟩

theorem removeColumn_carriesOut (table column : String) :
    CarriesOut (fun errands => ∃ removal : Removal, removal.column = column ∧
        errands = removal.errands table)
      (removeColumn client.recorded table column) := by
  refine (query_carriesOut client table column (fun indexes rest => rest =
    (indexes.map fun index => Errand.act (.dropIndex table index)) ++
      [.act (.dropColumn table column)]) ⟨_, rfl⟩ fun result => ?_).mono ?_
  · have hindexes := changeAll_carriesOut client
      ((textsOf result "index_name").map (.dropIndex table))
    rw [changeAll, List.forM_eq_forM, List.forM_map, List.map_map] at hindexes
    refine hindexes.seq (change_carriesOut client (.dropColumn table column)) ⟨_, rfl⟩ ?_
    rintro _ _ rfl rfl
    rfl
  · rintro _ ⟨indexes, _, rfl, rfl⟩
    exact ⟨⟨column, indexes⟩, rfl, rfl⟩

theorem removeColumns_carriesOut (table : String) (columns : List String) :
    CarriesOut (fun errands => ∃ removals : List Removal, removals.map (·.column) = columns ∧
        errands = removals.flatMap (·.errands table))
      (columns.forM (removeColumn client.recorded table)) := by
  induction columns with
  | nil => exact .pure ⟨[], rfl, rfl⟩
  | cons column columns ih =>
    obtain ⟨removals, hremovals⟩ := Removal.column_surjective.list_map columns
    refine (removeColumn_carriesOut client table column).seq ih ⟨_, removals, hremovals, rfl⟩ ?_
    rintro _ _ ⟨removal, rfl, rfl⟩ ⟨removals, rfl, rfl⟩
    exact ⟨removal :: removals, rfl, rfl⟩

/-- A change that is refused is refused before anything is tried. -/
theorem perform_of_refusal {change : SchemaChange} {fault : Fault}
    (h : change.refusal? = some fault) (p : Session κ × σ) :
    change.perform client p = (.error fault, p) := by
  cases change with
  | renameColumn => cases h
  | setNullable table column nullable default =>
    have hperform : (SchemaChange.setNullable table column nullable default).perform client p =
        (ofExcept (Schema.setNullable table column nullable default) >>= changeAll client) p := rfl
    rw [SchemaChange.refusal?] at h
    split at h
    · next hstatements =>
      cases h
      rw [hperform, hstatements]
      rfl
    · cases h
  | removeColumns table columns =>
    rw [SchemaChange.refusal?] at h
    split at h
    · next hempty =>
      cases h
      rw [List.isEmpty_iff.mp hempty]
      rfl
    · cases h

/-- A change that is not refused is carried out. -/
theorem perform_carriesOut {change : SchemaChange} (h : change.refusal? = none) :
    CarriesOut change.Consists (change.perform client.recorded) := by
  cases change with
  | renameColumn table column newName =>
    refine (changeAll_carriesOut client _).mono ?_
    rintro _ rfl
    exact .renameColumn table column newName
  | setNullable table column nullable default =>
    rw [SchemaChange.refusal?] at h
    split at h
    · cases h
    · next statements hstatements =>
      have hperform : (SchemaChange.setNullable table column nullable default).perform
          client.recorded = changeAll client.recorded statements := by
        change ofExcept (Schema.setNullable table column nullable default) >>= _ = _
        rw [hstatements]
        rfl
      rw [hperform]
      refine (changeAll_carriesOut client statements).mono ?_
      rintro _ rfl
      exact .setNullable hstatements
  | removeColumns table columns =>
    rw [SchemaChange.refusal?] at h
    split at h
    · cases h
    · next hsome =>
      have hperform : (SchemaChange.removeColumns table columns).perform client.recorded =
          columns.forM (removeColumn client.recorded table) := by
        change removeColumns client.recorded table columns = _
        rw [removeColumns, if_neg hsome]
      rw [hperform]
      refine (removeColumns_carriesOut client table columns).mono ?_
      rintro _ ⟨removals, rfl, rfl⟩
      refine .removeColumns table fun hnil => hsome ?_
      rw [hnil]
      rfl

/-- **A change that fails leaves behind what was done of it.** In a session that commits every
statement by itself, all statements of a change last if it succeeds. If it fails, it was refused
before anything was tried, or its errands were done up to the one that failed. Then the statements
in front of the failure last, which are a proper part of the change; if there is nothing in front of
it, what was pending is taken back. -/
theorem perform_effects [DecidableEq η] (change : SchemaChange)
    {p : Session κ × σ × List (Event κ η)} (hconnected : p.1.connected = true)
    (hauto : p.1.autoCommit = true) (journal : Journal η) :
    Makes record (change.perform client.recorded) p fun calls result _ =>
      match result with
      | .ok _ => ∃ errands, change.Consists errands ∧
          DoneInTurn p.1.connection p.1.encoding errands errands calls true ∧
          (journal.after calls).toEffects = journal.settle (Errand.statements errands)
      | .error fault =>
        (change.refusal? = some fault ∧ calls = [] ∧
          (journal.after calls).toEffects = journal.toEffects) ∨
        ∃ errands done, change.Consists errands ∧
          DoneInTurn p.1.connection p.1.encoding errands done calls false ∧
          (∃ rest, rest ≠ [] ∧ Errand.statements errands = Errand.statements done ++ rest) ∧
          (journal.after calls).toEffects =
            if done = [] then journal.clear else journal.settle (Errand.statements done) := by
  cases hrefusal : change.refusal? with
  | some fault =>
    unfold Makes
    rw [perform_of_refusal client.recorded hrefusal]
    exact ⟨[], rfl, .inl ⟨rfl, rfl, rfl⟩⟩
  | none =>
    obtain ⟨calls, hrecord, ⟨errands, done, hconsists, hdone⟩, -⟩ :=
      perform_carriesOut client hrefusal p ⟨hconnected, hauto⟩
    have hsome : errands ≠ [] := by
      obtain ⟨front, statement, rfl⟩ := hconsists.exists_last
      simp
    have heffects := hdone.toEffects_after hsome journal
    refine ⟨calls, hrecord, ?_⟩
    cases hresult : (change.perform client.recorded p).1 with
    | ok a =>
      rw [hresult] at hdone
      obtain rfl := hdone.done_eq
      rw [if_neg hsome] at heffects
      exact ⟨_, hconsists, hdone, heffects⟩
    | error fault =>
      rw [hresult] at hdone
      exact .inr ⟨errands, done, hconsists, hdone, hconsists.exists_rest hdone, heffects⟩

/-! ### Changes that fail on the way -/

/-- A server that was not asked for anything yet. -/
def blankJournal : Journal Nat := ⟨⟨[], []⟩, fun _ => ""⟩

/-- A column is to be removed. -/
def removeIndexed : SchemaChange := .removeColumns "t" ["a"]

/-- There are two indexes of the column, and the second one cannot be dropped. -/
def indexStays : Script.State :=
  .start [⟨"index_name", [⟨"index_name", .varchar⟩], [[.text [105]], [.text [106]]], some 0⟩]
    [⟨.execute, "\"j\"", ⟨-110, "the index is in use"⟩, 0, none⟩] []

/-- Of the two indexes that were found the first one is gone, and the column is still there. -/
theorem perform_effects_indexStays :
    plainSession.connected = true ∧ plainSession.autoCommit = true ∧
      Makes record (removeIndexed.perform Script.client.recorded) (plainSession, (indexStays, []))
        fun calls result _ => result.isOk = false ∧
          ∃ errands done, removeIndexed.Consists errands ∧
            DoneInTurn () .utf8 errands done calls false ∧
            (blankJournal.after calls).toEffects = blankJournal.settle (Errand.statements done) ∧
            (Errand.statements done).map Statement.sql = ["DROP INDEX \"t\".\"i\""] := by
  have hrun : (removeIndexed.perform Script.client.recorded
        (plainSession, (indexStays, []))).1.isOk = false ∧
      (blankJournal.after (record (removeIndexed.perform Script.client.recorded
        (plainSession, (indexStays, []))).2).reverse).durable = ["DROP INDEX \"t\".\"i\""] := by
    decide +kernel
  have hconnected : plainSession.connected = true := rfl
  have heffects := perform_effects Script.client removeIndexed
    (p := (plainSession, (indexStays, []))) hconnected rfl blankJournal
  refine ⟨hconnected, rfl, ?_⟩
  unfold Makes at heffects ⊢
  cases hresult : (removeIndexed.perform Script.client.recorded
    (plainSession, (indexStays, []))).1 with
  | ok a =>
    rw [hresult] at hrun
    exact absurd hrun.1.symm Bool.false_ne_true
  | error fault =>
    rw [hresult] at heffects
    obtain ⟨calls, hrecord, ⟨hrefused, -⟩ | ⟨errands, done, hconsists, hdone, -, heffects⟩⟩ :=
      heffects
    · exact absurd hrefused (Option.some_ne_none fault).symm
    · rw [← calls_eq_reverse hrecord, heffects] at hrun
      have hsome : done ≠ [] := by
        rintro rfl
        exact List.cons_ne_nil _ _ hrun.2.symm
      rw [if_neg hsome] at heffects hrun
      exact ⟨calls, hrecord, rfl, errands, done, hconsists, hdone, heffects, hrun.2⟩

/-- The nulls of a column are to be replaced, and then forbidden. -/
def forbidNulls : SchemaChange := .setNullable "t" "a" false (some (.int 0))

/-- A statement that is to forbid nulls fails. -/
def nullsStay : Script.State :=
  .start [] [⟨.execute, "NOT NULL", ⟨-110, "cannot alter the column"⟩, 0, none⟩] []

/-- So a change that fails does not leave everything as it was before. -/
theorem perform_effects_forbidNulls_ne :
    let made := forbidNulls.perform Script.client.recorded (plainSession, (nullsStay, []))
    plainSession.connected = true ∧ plainSession.autoCommit = true ∧ made.1.isOk = false ∧
      (blankJournal.after (record made.2).reverse).durable ≠ blankJournal.durable := by
  decide +kernel

end Session

end Anywhere
