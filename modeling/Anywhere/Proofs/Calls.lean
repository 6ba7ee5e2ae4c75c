import Anywhere.Client.Statement

/-!
# The calls that an action makes

`Client.recorded` writes down every call next to the state of the client. This file is about what an
action adds to that record. `Action.Makes` relates three things that are of interest together: the
calls that are added, the result, and the state behind it; its rules follow the way in which
actions are put together.

Most actions on a prepared statement have no say in when it is released or the transaction ends.
They are *quiet*, and being quiet is kept by every way of putting actions together, so that one line
for each action is enough.
-/

namespace Anywhere

/-- What is true of every entry of a log and what comes before it, the latest entry first. -/
theorem forall_suffix_cons {α : Type} {P : α → List α → Prop} {a : α} {log : List α} :
    (∀ b earlier, b :: earlier <:+ a :: log → P b earlier) ↔
      P a log ∧ ∀ b earlier, b :: earlier <:+ log → P b earlier := by
  constructor
  · exact fun h => ⟨h a log List.suffix_rfl,
      fun b earlier hsuffix => h b earlier (hsuffix.trans (List.suffix_cons _ _))⟩
  · rintro ⟨ha, hlog⟩ b earlier hsuffix
    rcases List.suffix_cons_iff.mp hsuffix with heq | hsuffix
    · cases heq
      exact ha
    · exact hlog b earlier hsuffix

/-! ## What an event is about -/

/-- The statement that a call is about. -/
def Call.statement? {κ η : Type} : Call κ η → Option η
  | describe statement _ => some statement
  | bind statement _ _ => some statement
  | execute statement => some statement
  | columnCount statement => some statement
  | columnInfo statement _ => some statement
  | fetch statement => some statement
  | cell statement _ => some statement
  | affectedRows statement => some statement
  | free statement => some statement
  | _ => none

namespace Event

variable {κ η : Type}

/-- The statement that a call obtained. -/
def acquired? : Event κ η → Option η
  | ⟨.prepare .., reply⟩ => reply
  | _ => none

/-- The statement that a call released. -/
def released? : Event κ η → Option η
  | ⟨.free statement, _⟩ => some statement
  | _ => none

/-- The reply to a commit. -/
def committed? : Event κ η → Option Bool
  | ⟨.commit _, reply⟩ => some reply
  | _ => none

/-- The reply to a rollback. -/
def rolledBack? : Event κ η → Option Bool
  | ⟨.rollback _, reply⟩ => some reply
  | _ => none

/-- The call works with the statement and leaves it open, or it asks for the last error. -/
def Quiet (statement : η) (e : Event κ η) : Prop :=
  match e.1 with
  | .describe st _ => st = statement
  | .bind st _ _ => st = statement
  | .execute st => st = statement
  | .columnCount st => st = statement
  | .columnInfo st _ => st = statement
  | .fetch st => st = statement
  | .cell st _ => st = statement
  | .affectedRows st => st = statement
  | .lastError _ => True
  | _ => False

theorem Quiet.acquired? {statement : η} {e : Event κ η} (h : Quiet statement e) :
    acquired? e = none := by
  obtain ⟨call, reply⟩ := e
  cases call <;> first | rfl | exact h.elim

theorem Quiet.released? {statement : η} {e : Event κ η} (h : Quiet statement e) :
    released? e = none := by
  obtain ⟨call, reply⟩ := e
  cases call <;> first | rfl | exact h.elim

theorem Quiet.committed? {statement : η} {e : Event κ η} (h : Quiet statement e) :
    committed? e = none := by
  obtain ⟨call, reply⟩ := e
  cases call <;> first | rfl | exact h.elim

theorem Quiet.rolledBack? {statement : η} {e : Event κ η} (h : Quiet statement e) :
    rolledBack? e = none := by
  obtain ⟨call, reply⟩ := e
  cases call <;> first | rfl | exact h.elim

end Event

/-! ## Calls, result and state -/

namespace Action

variable {S σ κ η α β : Type} {record : S → List (Event κ η)}

/-- Begun in `s`, the action adds calls to the record that satisfy `Q` together with its result and
the state behind it. The record has the latest call first, `Q` gets them in order. -/
def Makes (record : S → List (Event κ η)) (x : Action S α) (s : S)
    (Q : List (Event κ η) → Except Fault α → S → Prop) : Prop :=
  ∃ calls, record (x s).2 = calls.reverse ++ record s ∧ Q calls (x s).1 (x s).2

theorem Makes.pure {a : α} {s : S} {Q : List (Event κ η) → Except Fault α → S → Prop}
    (h : Q [] (.ok a) s) : Makes record (pure a) s Q :=
  ⟨[], rfl, h⟩

theorem Makes.throw {fault : Fault} {s : S} {Q : List (Event κ η) → Except Fault α → S → Prop}
    (h : Q [] (.error fault) s) : Makes record (throw fault) s Q :=
  ⟨[], rfl, h⟩

/-- Only what an action does where it is begun matters. -/
theorem Makes.congr {x y : Action S α} {s : S} {Q : List (Event κ η) → Except Fault α → S → Prop}
    (hxy : x s = y s) (h : Makes record y s Q) : Makes record x s Q := by
  unfold Makes
  rw [hxy]
  exact h

/-- On a blank record, the calls are all that there is. -/
theorem calls_eq_reverse {log calls : List (Event κ η)} (h : log = calls.reverse ++ []) :
    calls = log.reverse := by
  rw [h, List.append_nil, List.reverse_reverse]

/-- An action adds its calls to the record only once. -/
theorem Makes.and {x : Action S α} {s : S} {P Q : List (Event κ η) → Except Fault α → S → Prop}
    (hP : Makes record x s P) (hQ : Makes record x s Q) :
    Makes record x s fun calls result s' => P calls result s' ∧ Q calls result s' := by
  obtain ⟨calls, hcalls, hP⟩ := hP
  obtain ⟨calls', hcalls', hQ⟩ := hQ
  have hsame : calls = calls' :=
    List.reverse_inj.mp (List.append_cancel_right (hcalls.symm.trans hcalls'))
  subst hsame
  exact ⟨calls, hcalls, hP, hQ⟩

/-- The calls of two actions in sequence, if the first one succeeds. -/
theorem Makes.bind {x : Action S α} {f : α → Action S β} {s : S}
    {P : List (Event κ η) → Except Fault α → S → Prop}
    {Q : List (Event κ η) → Except Fault β → S → Prop} (h : Makes record x s P)
    (hok : ∀ calls a s', P calls (.ok a) s' →
      Makes record (f a) s' fun more result s'' => Q (calls ++ more) result s'')
    (herror : ∀ calls fault s', P calls (.error fault) s' → Q calls (.error fault) s') :
    Makes record (x >>= f) s Q := by
  obtain ⟨calls, hr, hP⟩ := h
  unfold Makes
  rw [bind_apply]
  rcases hx : x s with ⟨_ | a, s'⟩ <;> rw [hx] at hr hP
  · exact ⟨calls, hr, herror _ _ _ hP⟩
  · obtain ⟨more, hr', hQ⟩ := hok _ _ _ hP
    refine ⟨calls ++ more, ?_, hQ⟩
    rw [hr', hr, List.reverse_append, List.append_assoc]

/-- The calls of an action and of what is done in its place when it fails. -/
theorem Makes.tryCatch {x : Action S α} {f : Fault → Action S α} {s : S}
    {P Q : List (Event κ η) → Except Fault α → S → Prop} (h : Makes record x s P)
    (hok : ∀ calls a s', P calls (.ok a) s' → Q calls (.ok a) s')
    (herror : ∀ calls fault s', P calls (.error fault) s' →
      Makes record (f fault) s' fun more result s'' => Q (calls ++ more) result s'') :
    Makes record (tryCatch x f) s Q := by
  obtain ⟨calls, hr, hP⟩ := h
  have happly : (MonadExcept.tryCatch x f : Action S α) s = orElse x f s := rfl
  unfold Makes
  rw [happly, orElse]
  rcases hx : x s with ⟨fault | a, s'⟩ <;> rw [hx] at hr hP
  · obtain ⟨more, hr', hQ⟩ := herror _ _ _ hP
    refine ⟨calls ++ more, ?_, hQ⟩
    rw [hr', hr, List.reverse_append, List.append_assoc]
  · exact ⟨calls, hr, hok _ _ _ hP⟩

/-! ## Quiet actions -/

/-- All that the record holds in the second state beyond the first one are quiet calls. -/
def OnlyQuiet (statement : η) (s s' : σ × List (Event κ η)) : Prop :=
  ∃ calls, s'.2 = calls ++ s.2 ∧ ∀ e ∈ calls, Event.Quiet statement e

theorem OnlyQuiet.refl {statement : η} (s : σ × List (Event κ η)) : OnlyQuiet statement s s :=
  ⟨[], rfl, by simp⟩

theorem OnlyQuiet.trans {statement : η} {s s' s'' : σ × List (Event κ η)}
    (h : OnlyQuiet statement s s') (h' : OnlyQuiet statement s' s'') :
    OnlyQuiet statement s s'' := by
  obtain ⟨calls, hr, hcalls⟩ := h
  obtain ⟨more, hr', hmore⟩ := h'
  refine ⟨more ++ calls, by rw [hr', hr, List.append_assoc], fun e he => ?_⟩
  rcases List.mem_append.mp he with he | he
  · exact hmore e he
  · exact hcalls e he

theorem OnlyQuiet.answer {client : Client σ κ η} {statement : η} {call : Call κ η}
    {reply : call.Reply} {s s' : σ × List (Event κ η)}
    (h : client.recorded.answer call s = (reply, s')) (hq : Event.Quiet statement ⟨call, reply⟩) :
    OnlyQuiet statement s s' := by
  cases h
  refine ⟨[⟨call, (client.answer call s.1).1⟩], rfl, fun e he => ?_⟩
  rw [List.mem_singleton.mp he]
  exact hq

/-- The action makes quiet calls only. -/
def Quietly (statement : η) (x : Action (σ × List (Event κ η)) α) : Prop :=
  ∀ s, OnlyQuiet statement s (x s).2

namespace Quietly

variable {statement : η} {client : Client σ κ η} {r : Request κ}

theorem pure (a : α) : Quietly statement (pure a : Action (σ × List (Event κ η)) α) :=
  fun s => .refl s

theorem throw (fault : Fault) :
    Quietly statement (throw fault : Action (σ × List (Event κ η)) α) :=
  fun s => .refl s

theorem ofExcept (result : Except Fault α) :
    Quietly statement (ofExcept result : Action (σ × List (Event κ η)) α) :=
  fun s => .refl s

theorem bind {x : Action (σ × List (Event κ η)) α} {f : α → Action (σ × List (Event κ η)) β}
    (hx : Quietly statement x) (hf : ∀ a, Quietly statement (f a)) :
    Quietly statement (x >>= f) := by
  intro s
  have h := hx s
  rw [bind_apply]
  rcases hs : x s with ⟨_ | a, s'⟩ <;> rw [hs] at h
  · exact h
  · exact h.trans (hf a s')

theorem ask {call : Call κ η} (h : ∀ reply, Event.Quiet statement ⟨call, reply⟩) :
    Quietly statement (ask client.recorded call) :=
  fun _ => .answer rfl (h _)

theorem fail : Quietly statement (fail client.recorded r : Action (σ × List (Event κ η)) α) :=
  bind (ask fun _ => trivial) fun _ => throw _

theorem require (reply : Option α) : Quietly statement (require client.recorded r reply) := by
  cases reply with
  | none => exact fail
  | some a => exact pure a

theorem check (reply : Bool) : Quietly statement (check client.recorded r reply) := by
  cases reply with
  | false => exact fail
  | true => exact pure ()

end Quietly

end Action

/-! ## Steps next to what the adapter keeps track of -/

namespace Operation

open Anywhere.Action

variable {ρ σ κ η α β : Type} {client : Client σ κ η}

/-- The record of the calls. -/
def record (s : ρ × σ × List (Event κ η)) : List (Event κ η) := s.2.2

/-- A call never fails; what comes behind it is done with the reply. -/
theorem makes_bind_ask {call : Call κ η} {f : call.Reply → Operation ρ (σ × List (Event κ η)) α}
    {s : ρ × σ × List (Event κ η)}
    {Q : List (Event κ η) → Except Fault α → ρ × σ × List (Event κ η) → Prop}
    (h : ∀ reply t, Makes record (f reply) (s.1, t) fun calls result s' =>
      Q (⟨call, reply⟩ :: calls) result s') :
    Makes record (ask client.recorded call >>= f) s Q := by
  obtain ⟨calls, hr, hQ⟩ := h (client.answer call s.2.1).1
    ((client.answer call s.2.1).2, ⟨call, (client.answer call s.2.1).1⟩ :: s.2.2)
  refine ⟨⟨call, (client.answer call s.2.1).1⟩ :: calls, ?_, hQ⟩
  rw [List.reverse_cons, List.append_assoc]
  exact hr

/-- Behind a failure nothing is done any more. -/
theorem makes_bind_fail {r : Request κ} {f : β → Operation ρ (σ × List (Event κ η)) α}
    {s : ρ × σ × List (Event κ η)}
    {Q : List (Event κ η) → Except Fault α → ρ × σ × List (Event κ η) → Prop}
    (h : ∀ (report : Report) t,
      Q [⟨.lastError r.connection, report⟩] (.error (report.toFault r.sql)) (s.1, t)) :
    Makes record (ofAction (fail client.recorded r) >>= f) s Q :=
  ⟨[⟨.lastError r.connection, (client.answer (.lastError r.connection) s.2.1).1⟩], rfl, h _ _⟩

theorem bind_require_some {r : Request κ} {a : α} {f : α → Operation ρ σ β} :
    (ofAction (require client r (some a)) >>= f) = f a := rfl

theorem bind_check_true {r : Request κ} {f : Unit → Operation ρ σ β} :
    (ofAction (check client r true) >>= f) = f () := rfl

theorem makes_update {f : ρ → ρ} {s : ρ × σ × List (Event κ η)}
    {Q : List (Event κ η) → Except Fault Unit → ρ × σ × List (Event κ η) → Prop}
    (h : Q [] (.ok ()) (f s.1, s.2)) : Makes record (update f) s Q :=
  ⟨[], rfl, h⟩

end Operation

namespace Client

open Anywhere.Action

variable {σ κ η : Type} (client : Client σ κ η) (r : Request κ)

theorem bindValue_quiet (encoding : Text.Encoding) (statement : η) (index : Nat) (value : Value) :
    Quietly statement (client.recorded.bindValue r encoding statement index value) :=
  .bind (.ask fun _ => rfl) fun _ => .bind (.require _) fun _ => .bind (.ask fun _ => rfl) fun _ =>
    .check _

theorem bindFrom_quiet (encoding : Text.Encoding) (statement : η) (count index : Nat)
    (values : List Value) :
    Quietly statement (client.recorded.bindFrom r encoding statement count index values) := by
  induction values generalizing index with
  | nil => exact .pure ()
  | cons value rest ih =>
    -- a number that does not fit is refused without a call
    have hrest := Quietly.bind (client.bindValue_quiet r encoding statement index value)
      fun _ => ih (index + 1)
    rw [bindFrom]
    split
    · exact .bind (.throw _) fun _ => hrest
    · exact hrest

theorem columnsFrom_quiet (statement : η) (index count : Nat) :
    Quietly statement (client.recorded.columnsFrom r statement index count) := by
  induction count generalizing index with
  | zero => exact .pure []
  | succ count ih =>
    exact .bind (.ask fun _ => rfl) fun _ => .bind (.require _) fun _ => .bind (ih (index + 1))
      fun _ => .pure _

theorem columns_quiet (statement : η) : Quietly statement (client.recorded.columns r statement) :=
  .bind (.ask fun _ => rfl) fun _ => .bind (.require _) fun _ =>
    client.columnsFrom_quiet r statement 0 _

theorem cellsFrom_quiet (encoding : Text.Encoding) (statement : η) (index : Nat)
    (columns : List ColumnInfo) :
    Quietly statement (client.recorded.cellsFrom r encoding statement index columns) := by
  induction columns generalizing index with
  | nil => exact .pure []
  | cons column rest ih =>
    exact .bind (.ask fun _ => rfl) fun _ => .bind (.require _) fun _ => .bind (.ofExcept _)
      fun _ => .bind (ih (index + 1)) fun _ => .pure _

theorem rows_quiet (encoding : Text.Encoding) (columns : List ColumnInfo) (statement : η) :
    Quietly statement (client.recorded.rows r encoding columns statement) := by
  intro s
  -- one case for each way in which a row comes out: none left, unreadable, and read, with the rows
  -- behind it failing or not
  fun_induction Client.rows client.recorded r encoding columns statement s with
  | case1 s s₁ fetched => exact .answer fetched rfl
  | case2 s s₁ fetched fault s₂ read =>
    have hread := client.cellsFrom_quiet r encoding statement 0 columns s₁
    rw [read] at hread
    exact (OnlyQuiet.answer fetched rfl).trans hread
  | case3 s s₁ fetched row s₂ read fault s₃ more ih =>
    have hread := client.cellsFrom_quiet r encoding statement 0 columns s₁
    rw [read] at hread
    rw [more] at ih
    exact (OnlyQuiet.answer fetched rfl).trans (hread.trans ih)
  | case4 s s₁ fetched row s₂ read rest s₃ more ih =>
    have hread := client.cellsFrom_quiet r encoding statement 0 columns s₁
    rw [read] at hread
    rw [more] at ih
    exact (OnlyQuiet.answer fetched rfl).trans (hread.trans ih)

end Client

end Anywhere
