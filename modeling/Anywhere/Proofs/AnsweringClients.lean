import Anywhere.Proofs.Fetching
import Anywhere.Proofs.Transcripts

/-!
# Clients that answer questions

An `AnsweringClient` is any client that has columns and rows for certain texts. Which of the answers
that fit a text it gives, and all that it does with other statements, is left open.
`AnswerServer.client` is one of them.

A query that asks such a client for something it can read succeeds with the rows of a fitting
answer, and so does all that is put together from such queries: `Session.Succeeds` has a rule for
each way of putting steps together.
-/

namespace Anywhere

open Anywhere.Action

variable {σ κ η α β : Type}

/-! ## Answers -/

/-- The columns and the rows that are the answer to a question. -/
structure Answer where
  columns : List ColumnInfo
  rows : List (List WireValue)
deriving DecidableEq, Repr

/-- How far a statement is that asks a question. -/
inductive Answer.Progress where
  | prepared (answer : Answer)
  /-- The rows that are still to be fetched, and the current one. -/
  | answering (columns : List ColumnInfo) (left : List (List WireValue))
    (current : Option (List WireValue))

/-- A client that answers the texts that ask something by what fits them. -/
structure AnsweringClient (client : Client σ κ η) (connection : κ) (Asks : String → Prop)
    (Fits : String → Answer → Prop) where
  /-- How far a statement is, if it asks a question. -/
  progress : η → σ → Option Answer.Progress
  prepare : ∀ {sql} s, Asks sql → ∃ st t answer,
    client.answer (.prepare connection sql) s = (some st, t) ∧
      progress st t = some (.prepared answer) ∧ Fits sql answer
  execute : ∀ {st s answer}, progress st s = some (.prepared answer) →
    ∃ t, client.answer (.execute st) s = (true, t) ∧
      progress st t = some (.answering answer.columns answer.rows none)
  columnCount : ∀ {st s columns left current},
    progress st s = some (.answering columns left current) →
      ∃ t, client.answer (.columnCount st) s = (some columns.length, t) ∧
        progress st t = some (.answering columns left current)
  columnInfo : ∀ {st s columns left current index column},
    progress st s = some (.answering columns left current) → columns[index]? = some column →
      ∃ t, client.answer (.columnInfo st index) s = (some column, t) ∧
        progress st t = some (.answering columns left current)
  fetch_cons : ∀ {st s columns row left current},
    progress st s = some (.answering columns (row :: left) current) →
      ∃ t, client.answer (.fetch st) s = (true, t) ∧
        progress st t = some (.answering columns left (some row))
  fetch_nil : ∀ {st s columns current}, progress st s = some (.answering columns [] current) →
    ∃ t, client.answer (.fetch st) s = (false, t) ∧
      progress st t = some (.answering columns [] none)
  cell : ∀ {st s columns left row index cell},
    progress st s = some (.answering columns left (some row)) → row[index]? = some cell →
      ∃ t, client.answer (.cell st index) s = (some cell, t) ∧
        progress st t = some (.answering columns left (some row))
  /-- What was executed has a number of affected rows, whatever it is. -/
  affectedRows : ∀ {st s columns left current},
    progress st s = some (.answering columns left current) →
      (client.answer (.affectedRows st) s).1.isSome = true
  commit : ∀ s, (client.answer (.commit connection) s).1 = true

/-- Whoever answers more texts, by what fits them better, answers these texts. -/
def AnsweringClient.weaken {client : Client σ κ η} {connection : κ} {Asks Asks' : String → Prop}
    {Fits Fits' : String → Answer → Prop} (server : AnsweringClient client connection Asks Fits)
    (hasks : ∀ sql, Asks' sql → Asks sql)
    (hfits : ∀ sql answer, Fits sql answer → Fits' sql answer) :
    AnsweringClient client connection Asks' Fits' :=
  { server with
    prepare := fun s hasked => by
      obtain ⟨statement, t, answer, hprepare, h, hfit⟩ := server.prepare s (hasks _ hasked)
      exact ⟨statement, t, answer, hprepare, h, hfits _ _ hfit⟩ }

/-! ### A server of fixed answers -/

namespace AnswerServer

/-- How far the only statement is. -/
abbrev State := Option Answer.Progress

namespace State

/-- Executes the question that was prepared. -/
def execute : State → Bool × State
  | some (.prepared answer) => (true, some (.answering answer.columns answer.rows none))
  | s => (false, s)

/-- The columns of a statement that was executed. -/
def columns : State → List ColumnInfo
  | some (.answering columns _ _) => columns
  | _ => []

/-- The rows that are still to be fetched. -/
def left : State → List (List WireValue)
  | some (.answering _ left _) => left
  | _ => []

/-- The current row. -/
def current : State → List WireValue
  | some (.answering _ _ (some row)) => row
  | _ => []

/-- Goes on to the next row. -/
def fetch : State → Bool × State
  | some (.answering columns (row :: left) _) => (true, some (.answering columns left (some row)))
  | some (.answering columns [] _) => (false, some (.answering columns [] none))
  | s => (false, s)

/-- The answer to a call. -/
def answer (answer? : String → Option Answer) : (call : Call Unit Unit) → State → call.Reply × State
  | .init, s => (true, s)
  | .fini, s => ((), s)
  | .newConnection, s => (some (), s)
  | .connect .., s => (true, s)
  | .disconnect _, s => ((), s)
  | .executeImmediate .., s => (false, s)
  | .prepare _ sql, s => match answer? sql with
    | some answer => (some (), some (.prepared answer))
    | none => (none, s)
  | .describe .., s => (none, s)
  | .bind .., s => (false, s)
  | .execute _, s => s.execute
  | .columnCount _, s => (some s.columns.length, s)
  | .columnInfo _ index, s => (s.columns[index]?, s)
  | .fetch _, s => s.fetch
  | .cell _ index, s => (s.current[index]?, s)
  | .affectedRows _, s => (some 0, s)
  | .free _, _ => ((), none)
  | .commit _, s => (true, s)
  | .rollback _, s => (true, s)
  | .lastError _, s => (⟨-1, "refused"⟩, s)

theorem left_fetch (s : State) (h : s.fetch.1 = true) :
    s.fetch.2.left.length < s.left.length := by
  match s, h with
  | some (.answering _ (_ :: left) _), _ => exact Nat.lt_succ_self left.length

end State

/-- The client of a server that has an answer to some texts. -/
def client (answer? : String → Option Answer) : Client State Unit Unit where
  answer := State.answer answer?
  pending _ s := s.left.length
  pending_fetch _ := State.left_fetch
  pending_cell _ _ _ := Nat.le_refl _

/-- A session with such a server. -/
def session : Session Unit := ⟨(), "", .utf8, true, true, 0⟩

/-- It gives the answers that it has. -/
def answeringClient (answer? : String → Option Answer) :
    AnsweringClient (client answer?) () (fun sql => (answer? sql).isSome)
      fun sql answer => answer? sql = some answer where
  progress _ s := s
  prepare {sql} s hasks := by
    obtain ⟨answer, hanswer⟩ := Option.isSome_iff_exists.mp hasks
    refine ⟨(), some (.prepared answer), answer, ?_, rfl, hanswer⟩
    change (match answer? sql with
      | some answer => (some (), some (Answer.Progress.prepared answer))
      | none => (none, s)) = _
    rw [hanswer]
  execute h := ⟨_, by rw [h]; rfl, rfl⟩
  columnCount h := ⟨_, by rw [h]; rfl, h⟩
  columnInfo h hcolumn := ⟨_, by rw [← hcolumn, h]; rfl, h⟩
  fetch_cons h := ⟨_, by rw [h]; rfl, rfl⟩
  fetch_nil h := ⟨_, by rw [h]; rfl, rfl⟩
  cell h hcell := ⟨_, by rw [← hcell, h]; rfl, h⟩
  affectedRows _ := rfl
  commit _ := rfl

end AnswerServer

/-! ## Runs -/

namespace AnsweringClient

variable {client : Client σ κ η} {connection : κ} {Asks : String → Prop}
  {Fits : String → Answer → Prop} (server : AnsweringClient client connection Asks Fits)
  {r : Request κ} {encoding : Text.Encoding} {statement : η} {columns : List ColumnInfo}
  {left : List (List WireValue)}

theorem columnsFrom_eq {current : Option (List WireValue)} {index count : Nat} {s : σ}
    (h : server.progress statement s = some (.answering columns left current))
    (hcount : index + count = columns.length) :
    ∃ t, client.columnsFrom r statement index count s = (.ok (columns.drop index), t) ∧
      server.progress statement t = some (.answering columns left current) := by
  induction count generalizing index s with
  | zero =>
    refine ⟨s, ?_, h⟩
    rw [List.drop_of_length_le (by omega)]
    rfl
  | succ count ih =>
    have hindex : index < columns.length := by omega
    obtain ⟨s₁, hinfo, h₁⟩ := server.columnInfo h (List.getElem?_eq_getElem hindex)
    obtain ⟨t, hrest, ht⟩ := @ih (index + 1) s₁ h₁ (by omega)
    refine ⟨t, ?_, ht⟩
    rw [List.drop_eq_getElem_cons hindex]
    simp [Client.columnsFrom, bind_apply, map_apply, ask, require, Except.map, hinfo, hrest]

theorem columns_eq {current : Option (List WireValue)} {s : σ}
    (h : server.progress statement s = some (.answering columns left current)) :
    ∃ t, client.columns r statement s = (.ok columns, t) ∧
      server.progress statement t = some (.answering columns left current) := by
  obtain ⟨s₁, hcount, h₁⟩ := server.columnCount h
  obtain ⟨t, hcolumns, ht⟩ := server.columnsFrom_eq (r := r) h₁ (Nat.zero_add _)
  refine ⟨t, ?_, ht⟩
  simpa [Client.columns, bind_apply, ask, require, hcount] using hcolumns

theorem cellsFrom_eq {cells : List WireValue} {index : Nat} {rest : List ColumnInfo}
    {row : List Value} {s : σ} (hdecodes : Decodes encoding rest (cells.drop index) row)
    (h : server.progress statement s = some (.answering columns left (some cells))) :
    ∃ t, client.cellsFrom r encoding statement index rest s = (.ok row, t) ∧
      server.progress statement t = some (.answering columns left (some cells)) := by
  induction rest generalizing index row s with
  | nil =>
    refine ⟨s, ?_, h⟩
    rw [List.eq_nil_of_length_eq_zero hdecodes.length_row]
    rfl
  | cons column rest ih =>
    obtain ⟨cell, cells', value, row, hcells, rfl, hvalue, hrest⟩ := hdecodes.uncons
    have hcell : cells[index]? = some cell := by
      rw [← List.head?_drop, hcells, List.head?_cons]
    have htail : cells.drop (index + 1) = cells' := by
      rw [← List.tail_drop, hcells, List.tail_cons]
    obtain ⟨s₁, hread, h₁⟩ := server.cell h hcell
    obtain ⟨t, hmore, ht⟩ := ih (htail ▸ hrest) h₁
    refine ⟨t, ?_, ht⟩
    simp [Client.cellsFrom, bind_apply, map_apply, ask, require, Action.ofExcept, Except.map, hread,
      hvalue, hmore]

/-- The rows that are left are delivered, one after the other. -/
theorem delivers {rows : List (List Value)} {current : Option (List WireValue)} {s : σ}
    (hrows : List.Forall₂ (Decodes encoding columns) left rows)
    (h : server.progress statement s = some (.answering columns left current)) :
    ∃ t last, client.Delivers r encoding columns statement s rows t ∧
      server.progress statement t = some (.answering columns [] last) := by
  -- one turn of the loop for each row
  induction hrows generalizing s current with
  | nil => exact ⟨s, current, .done s, h⟩
  | @cons cells _ _ _ hrow _ ih =>
    obtain ⟨s₁, hfetch, h₁⟩ := server.fetch_cons h
    rw [← List.drop_zero (l := cells)] at hrow
    obtain ⟨s₂, hread, h₂⟩ := server.cellsFrom_eq (r := r) hrow h₁
    obtain ⟨t, last, hrest, ht⟩ := ih h₂
    exact ⟨t, last, .row hfetch hread hrest, ht⟩

include server in
/-- A question whose answers can all be read has a result that one of them is read as. -/
theorem run_eq_ok {sql : String} {Q : ResultSet → Prop} (hasks : Asks sql)
    (hread : ∀ answer, Fits sql answer →
      ∃ rows, List.Forall₂ (Decodes encoding answer.columns) answer.rows rows ∧
        Q ⟨answer.columns.map ColumnInfo.name, rows⟩)
    (autoCommit : Bool) (s : σ) :
    ∃ result count t, client.run ⟨connection, sql⟩ [] ⟨autoCommit, encoding, true⟩ s =
      (.ok ⟨result, count⟩, t) ∧ Q result := by
  obtain ⟨statement, s₁, answer, hprepare, h₁, hfits⟩ := server.prepare s hasks
  obtain ⟨rows, hrows, hresult⟩ := hread answer hfits
  obtain ⟨s₂, hexecute, h₂⟩ := server.execute h₁
  obtain ⟨s₃, hcolumns, h₃⟩ := server.columns_eq (r := ⟨connection, sql⟩) h₂
  obtain ⟨s₄, last, hdelivers, h₄⟩ := server.delivers (r := ⟨connection, sql⟩) hrows h₃
  obtain ⟨s₅, hend, h₅⟩ := server.fetch_nil h₄
  let fetched : FetchedRun client ⟨connection, sql⟩ encoding [] s :=
    { statement, columns := answer.columns, rows, prepared := s₁, bound := s₁, executed := s₂,
      opened := s₃, fetched := s₄, ended := s₅, prepare_eq := hprepare, bind_eq := rfl,
      execute_eq := hexecute, columns_eq := hcolumns, delivers := hdelivers, fetch_eq := hend }
  have hsettles : client.Settles ⟨connection, sql⟩ autoCommit statement s₅ :=
    ⟨server.affectedRows h₅, fun _ => server.commit _⟩
  obtain ⟨count, hrun⟩ := fetched.run_eq_ok hsettles
  exact ⟨_, count, _, Prod.ext hrun rfl, hresult⟩

theorem recorded_answer_eq {call : Call κ η} {reply : call.Reply} {s : σ × List (Event κ η)} {t : σ}
    (h : client.answer call s.1 = (reply, t)) :
    client.recorded.answer call s = (reply, (t, ⟨call, reply⟩ :: s.2)) := by
  change ((client.answer call s.1).1, ((client.answer call s.1).2,
    (⟨call, (client.answer call s.1).1⟩ : Event κ η) :: s.2)) = _
  rw [h]

/-- A record of the calls has no say in the answers. -/
def recorded : AnsweringClient client.recorded connection Asks Fits where
  progress statement s := server.progress statement s.1
  prepare s hasks := by
    obtain ⟨statement, t, answer, hprepare, h⟩ := server.prepare s.1 hasks
    exact ⟨statement, _, answer, recorded_answer_eq hprepare, h⟩
  execute h := by
    obtain ⟨t, hexecute, h⟩ := server.execute h
    exact ⟨_, recorded_answer_eq hexecute, h⟩
  columnCount h := by
    obtain ⟨t, hcount, h⟩ := server.columnCount h
    exact ⟨_, recorded_answer_eq hcount, h⟩
  columnInfo h hcolumn := by
    obtain ⟨t, hinfo, h⟩ := server.columnInfo h hcolumn
    exact ⟨_, recorded_answer_eq hinfo, h⟩
  fetch_cons h := by
    obtain ⟨t, hfetch, h⟩ := server.fetch_cons h
    exact ⟨_, recorded_answer_eq hfetch, h⟩
  fetch_nil h := by
    obtain ⟨t, hfetch, h⟩ := server.fetch_nil h
    exact ⟨_, recorded_answer_eq hfetch, h⟩
  cell h hcell := by
    obtain ⟨t, hread, h⟩ := server.cell h hcell
    exact ⟨_, recorded_answer_eq hread, h⟩
  affectedRows h := server.affectedRows h
  commit s := server.commit s.1

end AnsweringClient

/-! ## Steps of a session -/

namespace Session

/-- The step always succeeds. Of the session it changes nothing but the number of affected rows. -/
def Succeeds (session : Session κ) (x : Step σ κ α) (Q : α → Prop) : Prop :=
  ∀ n s, ∃ a m t,
    x ({ session with affectedRows := n }, s) = (.ok a, ({ session with affectedRows := m }, t)) ∧
      Q a

namespace Succeeds

variable {session : Session κ} {x : Step σ κ α} {f : α → Step σ κ β} {P : α → Prop} {Q : β → Prop}

theorem pure {a : α} (h : P a) : Succeeds session (pure a : Step σ κ α) P :=
  fun n s => ⟨a, n, s, rfl, h⟩

theorem bind (hx : Succeeds session x P) (hf : ∀ a, P a → Succeeds session (f a) Q) :
    Succeeds session (x >>= f) Q := by
  intro n s
  obtain ⟨a, m, t, hx, hP⟩ := hx n s
  obtain ⟨b, l, u, hf, hQ⟩ := hf a hP m t
  refine ⟨b, l, u, ?_, hQ⟩
  rw [bind_apply, hx]
  exact hf

theorem mono {P' : α → Prop} (hx : Succeeds session x P) (h : ∀ a, P a → P' a) :
    Succeeds session x P' := by
  intro n s
  obtain ⟨a, m, t, hx, hP⟩ := hx n s
  exact ⟨a, m, t, hx, h a hP⟩

theorem mapM {R : α → β → Prop} {items : List α}
    (h : ∀ a ∈ items, Succeeds session (f a) (R a)) :
    Succeeds session (items.mapM f) (List.Forall₂ R items) := by
  induction items with
  | nil => exact pure .nil
  | cons a rest ih =>
    obtain ⟨hfirst, hrest⟩ := List.forall_mem_cons.mp h
    rw [List.mapM_cons]
    exact hfirst.bind fun b hb => (ih hrest).bind fun others hothers => pure (.cons hb hothers)

/-- A question to a client that answers it succeeds if all its answers can be read. -/
theorem query {client : Client σ κ η} {Asks : String → Prop} {Fits : String → Answer → Prop}
    (server : AnsweringClient client session.connection Asks Fits)
    (hconnected : session.connected = true) {sql : String} {Q : ResultSet → Prop}
    (hasks : Asks sql)
    (hread : ∀ answer, Fits sql answer →
      ∃ rows, List.Forall₂ (Decodes session.encoding answer.columns) answer.rows rows ∧
        Q ⟨answer.columns.map ColumnInfo.name, rows⟩) :
    Succeeds session (query client sql []) Q := by
  intro n s
  obtain ⟨result, count, t, hrun, hresult⟩ :=
    server.run_eq_ok hasks hread session.autoCommit s
  refine ⟨result, count, t, ?_, hresult⟩
  have hconnected' : { session with affectedRows := n }.connected = true := hconnected
  rw [Session.query, map_apply, run_of_connected hconnected']
  dsimp only [options]
  rw [hrun]
  rfl

end Succeeds

end Session

end Anywhere
