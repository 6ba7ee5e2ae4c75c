import Anywhere.Proofs.Cleanup
import Anywhere.Proofs.Simulation
import Mathlib.Data.List.Forall2

/-!
# What is said in a run

The record of a run is a transcript: each call stands next to its answer. Here every step of a run
is given the part of the transcript that it is responsible for. As long as the answers are good, the
calls are known one by one: the values are bound in order, the columns are described in order, and
the cells of each row are read in order.

An answer that is a failure ends the run. The next call is the question what went wrong, and the
answer to that is what the run fails with. A run may also fail on its own account, when there are
too many values or a cell cannot be read; then no answer was a failure, and the client has nothing
to do with it. `Told` says all of this of a single step, and `Execution.drive_told` of a run.
-/

namespace Anywhere

open Anywhere.Action Anywhere.Operation

variable {σ κ η α β S : Type}

/-! ## Answers that are failures, and what calls are for -/

/-- What the calls of a run are for, in the order of a run. -/
inductive Stage where
  | preparing
  | binding
  | executing
  | fetching
  | counting
  | ending
deriving DecidableEq, Repr

/-- The stages behind the execution of the statement. -/
def Stage.Late (stage : Stage) : Prop :=
  stage = .fetching ∨ stage = .counting ∨ stage = .ending

namespace Event

/-- The call failed, and the run with it. -/
def Failed : Event κ η → Prop
  | ⟨.prepare .., reply⟩ => reply = none
  | ⟨.describe .., reply⟩ => reply = none
  | ⟨.bind .., reply⟩ => reply = false
  | ⟨.execute _, reply⟩ => reply = false
  | ⟨.columnCount _, reply⟩ => reply = none
  | ⟨.columnInfo .., reply⟩ => reply = none
  | ⟨.cell .., reply⟩ => reply = none
  | ⟨.affectedRows _, reply⟩ => reply = none
  | ⟨.commit _, reply⟩ => reply = false
  | _ => False

/-- The call is made at one of the stages. The question what went wrong may come up at any of
them. -/
def At (stages : Stage → Prop) (e : Event κ η) : Prop :=
  match e.1 with
  | .prepare .. => stages .preparing
  | .describe .. => stages .binding
  | .bind .. => stages .binding
  | .execute _ => stages .executing
  | .columnCount _ => stages .fetching
  | .columnInfo .. => stages .fetching
  | .fetch _ => stages .fetching
  | .cell .. => stages .fetching
  | .affectedRows _ => stages .counting
  | .free _ => stages .ending
  | .commit _ => stages .ending
  | .rollback _ => stages .ending
  | .lastError _ => True
  | _ => False

theorem At.mono {stages stages' : Stage → Prop} {e : Event κ η} (h : e.At stages)
    (hstages : ∀ stage, stages stage → stages' stage) : e.At stages' := by
  obtain ⟨call, reply⟩ := e
  cases call <;> first | exact hstages _ h | exact h

end Event

/-- Who is to blame for a failure behind the calls, `own` being what may be wrong although no call
failed. -/
inductive Blames (r : Request κ) (own : List (Event κ η) → Prop) (fault : Fault) :
    List (Event κ η) → Prop where
  /-- No call failed. -/
  | itself {calls : List (Event κ η)} : (∀ e ∈ calls, ¬ e.Failed) → fault.clientError? = none →
      own calls → Blames r own fault calls
  /-- The last call but one failed, and no call before it. The last one asks what went wrong. -/
  | client {earlier : List (Event κ η)} {failing : Event κ η} {report : Report} :
      (∀ e ∈ earlier, ¬ e.Failed) → failing.Failed → fault = report.toFault r.sql →
      Blames r own fault (earlier ++ [failing, ⟨.lastError r.connection, report⟩])

namespace Blames

variable {r : Request κ} {own own' : List (Event κ η) → Prop} {fault : Fault}
  {calls more : List (Event κ η)}

theorem mono (h : Blames r own fault calls) (hown : ∀ calls, own calls → own' calls) :
    Blames r own' fault calls := by
  cases h with
  | itself hcalls hnone hcause => exact .itself hcalls hnone (hown _ hcause)
  | client hearlier hfailing hfault => exact .client hearlier hfailing hfault

theorem append (h : Blames r (fun more => own (calls ++ more)) fault more)
    (hcalls : ∀ e ∈ calls, ¬ e.Failed) : Blames r own fault (calls ++ more) := by
  cases h with
  | itself hmore hnone hcause =>
    exact .itself (List.forall_mem_append.mpr ⟨hcalls, hmore⟩) hnone hcause
  | client hearlier hfailing hfault =>
    rw [← List.append_assoc]
    exact .client (List.forall_mem_append.mpr ⟨hcalls, hearlier⟩) hfailing hfault

/-- There is always a reason. -/
theorem exists_failed_or (h : Blames r own fault calls) : (∃ e ∈ calls, e.Failed) ∨ own calls := by
  cases h with
  | itself _ _ hcause => exact .inr hcause
  | client _ hfailing _ => exact .inl ⟨_, by simp, hfailing⟩

end Blames

/-! ## Transcripts of single steps -/

/-- The transcript of a step: its calls are made at certain stages. If it succeeds, no call failed
and `P` holds of the calls, the result and the state behind it; if it fails, somebody is to
blame. -/
def Told (r : Request κ) (stages : Stage → Prop) (own : List (Event κ η) → Prop)
    (P : List (Event κ η) → α → S → Prop) (calls : List (Event κ η)) (result : Except Fault α)
    (s : S) : Prop :=
  (∀ e ∈ calls, e.At stages) ∧ match result with
    | .ok a => (∀ e ∈ calls, ¬ e.Failed) ∧ P calls a s
    | .error fault => Blames r own fault calls

section Told

variable {r : Request κ} {stages : Stage → Prop} {own : List (Event κ η) → Prop}
  {record : S → List (Event κ η)}

theorem Told.mono {x : Action S α} {s : S} {P Q : List (Event κ η) → α → S → Prop}
    (h : Makes record x s (Told r stages own P)) (hPQ : ∀ calls a s', P calls a s' → Q calls a s') :
    Makes record x s (Told r stages own Q) := by
  obtain ⟨calls, hrecord, hat, htold⟩ := h
  refine ⟨calls, hrecord, hat, ?_⟩
  split
  · next a hresult =>
    rw [hresult] at htold
    exact ⟨htold.1, hPQ _ _ _ htold.2⟩
  · next fault hresult =>
    rw [hresult] at htold
    exact htold

theorem Told.widen {x : Action S α} {s : S} {P : List (Event κ η) → α → S → Prop}
    {stages' : Stage → Prop} {own' : List (Event κ η) → Prop}
    (h : Makes record x s (Told r stages own P))
    (hstages : ∀ stage, stages stage → stages' stage) (hown : ∀ calls, own calls → own' calls) :
    Makes record x s (Told r stages' own' P) := by
  obtain ⟨calls, hrecord, hat, htold⟩ := h
  refine ⟨calls, hrecord, fun e he => (hat e he).mono hstages, ?_⟩
  split
  · next a hresult =>
    rw [hresult] at htold
    exact htold
  · next fault hresult =>
    rw [hresult] at htold
    exact htold.mono hown

/-- An answer that is no failure, in front of a transcript. -/
theorem Told.cons {P : List (Event κ η) → α → S → Prop} {e : Event κ η} {calls : List (Event κ η)}
    {result : Except Fault α} {s : S} (hat : e.At stages) (hfine : ¬ e.Failed)
    (h : Told r stages (fun more => own (e :: more)) (fun more a s => P (e :: more) a s) calls
      result s) :
    Told r stages own P (e :: calls) result s := by
  refine ⟨List.forall_mem_cons.mpr ⟨hat, h.1⟩, ?_⟩
  cases result with
  | ok a => exact ⟨List.forall_mem_cons.mpr ⟨hfine, h.2.1⟩, h.2.2⟩
  | error fault =>
    have hfirst : ∀ e' ∈ [e], ¬ e'.Failed := List.forall_mem_singleton.mpr hfine
    exact Blames.append h.2 hfirst

/-- An answer that is a failure, and the question what went wrong. -/
theorem Told.failed {P : List (Event κ η) → α → S → Prop} {e : Event κ η} {report : Report} {s : S}
    (hat : e.At stages) (hfailed : e.Failed) :
    Told r stages own P [e, ⟨.lastError r.connection, report⟩] (.error (report.toFault r.sql))
      s := by
  refine ⟨List.forall_mem_cons.mpr ⟨hat, List.forall_mem_singleton.mpr trivial⟩, ?_⟩
  have hnone : ∀ e ∈ ([] : List (Event κ η)), ¬ e.Failed := by simp
  exact Blames.client hnone hfailed rfl

/-- The transcript of a step that does nothing. -/
theorem Told.pure {P : List (Event κ η) → α → S → Prop} {a : α} {s : S} (h : P [] a s) :
    Makes record (pure a) s (Told r stages own P) :=
  Makes.pure ⟨by simp, by simp, h⟩

/-- The transcript of a step that fails on its own account. -/
theorem Told.throw {P : List (Event κ η) → α → S → Prop} {fault : Fault} {s : S}
    (h : fault.clientError? = none) (hown : own []) :
    Makes record (throw fault) s (Told r stages own P) :=
  Makes.throw ⟨by simp, .itself (by simp) h hown⟩

/-- Transcripts of two steps in a row. -/
theorem Told.bind {x : Action S α} {f : α → Action S β} {s : S}
    {P : List (Event κ η) → α → S → Prop} {Q : List (Event κ η) → β → S → Prop}
    (h : Makes record x s (Told r stages own P))
    (hf : ∀ calls a s', x s = (.ok a, s') → P calls a s' →
      Makes record (f a) s' (Told r stages (fun more => own (calls ++ more))
        fun more b s'' => Q (calls ++ more) b s'')) :
    Makes record (x >>= f) s (Told r stages own Q) := by
  have hx : Makes record x s fun calls result s' =>
      Told r stages own P calls result s' ∧ x s = (result, s') := by
    obtain ⟨calls, hrecord, htold⟩ := h
    exact ⟨calls, hrecord, htold, rfl⟩
  refine Makes.bind hx (fun calls a s' htold => ?_) fun calls fault s' htold => htold.1
  obtain ⟨⟨hat, hfine, hP⟩, hstate⟩ := htold
  obtain ⟨more, hrecord, hat', hmore⟩ := hf calls a s' hstate hP
  refine ⟨more, hrecord, List.forall_mem_append.mpr ⟨hat, hat'⟩, ?_⟩
  split
  · next b hresult =>
    rw [hresult] at hmore
    exact ⟨List.forall_mem_append.mpr ⟨hfine, hmore.1⟩, hmore.2⟩
  · next fault hresult =>
    rw [hresult] at hmore
    exact hmore.append hfine

end Told

section Replies

variable {client : Client σ κ η} {r : Request κ} {stages : Stage → Prop}
  {own : List (Event κ η) → Prop} {s : σ × List (Event κ η)}
  {P : List (Event κ η) → α → σ × List (Event κ η) → Prop}

/-- A call, and what is done with the answer. -/
theorem Told.ask {call : Call κ η} {f : call.Reply → Action (σ × List (Event κ η)) α}
    (h : ∀ reply t, client.recorded.answer call s = (reply, t) →
      Makes Prod.snd (f reply) t fun calls result s' =>
        Told r stages own P (⟨call, reply⟩ :: calls) result s') :
    Makes Prod.snd (Action.ask client.recorded call >>= f) s (Told r stages own P) := by
  obtain ⟨calls, hrecord, htold⟩ := h (client.answer call s.1).1
    ((client.answer call s.1).2, ⟨call, (client.answer call s.1).1⟩ :: s.2) rfl
  refine ⟨⟨call, (client.answer call s.1).1⟩ :: calls, ?_, htold⟩
  rw [List.reverse_cons, List.append_assoc]
  exact hrecord

/-- Behind an answer that is a failure, the client is asked what went wrong. -/
theorem Told.fail {e : Event κ η} (hat : e.At stages) (hfailed : e.Failed) :
    Makes Prod.snd (Action.fail client.recorded r) s fun calls result s' =>
      Told r stages own P (e :: calls) result s' :=
  ⟨[⟨.lastError r.connection, _⟩], rfl, .failed hat hfailed⟩

/-- What would have come next is not done then. -/
theorem Told.fail_bind {f : β → Action (σ × List (Event κ η)) α} {e : Event κ η}
    (hat : e.At stages) (hfailed : e.Failed) :
    Makes Prod.snd (Action.fail client.recorded r >>= f) s fun calls result s' =>
      Told r stages own P (e :: calls) result s' :=
  ⟨[⟨.lastError r.connection, _⟩], rfl, .failed hat hfailed⟩

theorem ofExcept_ok_bind (b : β) (f : β → Action σ α) : (Action.ofExcept (.ok b) >>= f) = f b :=
  rfl

theorem require_some_bind (client : Client σ κ η) (r : Request κ) (b : β) (f : β → Action σ α) :
    (Action.require client r (some b) >>= f) = f b := rfl

/-- Behind an answer that is no failure, the transcript goes on. -/
theorem Told.next {x : Action (σ × List (Event κ η)) α} {e : Event κ η} (hat : e.At stages)
    (hfine : ¬ e.Failed)
    (h : Makes Prod.snd x s (Told r stages (fun more => own (e :: more))
      fun more a s' => P (e :: more) a s')) :
    Makes Prod.snd x s fun calls result s' => Told r stages own P (e :: calls) result s' := by
  obtain ⟨calls, hrecord, htold⟩ := h
  exact ⟨calls, hrecord, htold.cons hat hfine⟩

end Replies

/-! ## Parameters -/

/-- The representation in which a value is handed over. -/
def Value.hostType : Value → HostType
  | null => .string
  | bool _ => .val64
  | int _ => .val64
  | float _ => .double
  | decimal _ => .string
  | date _ => .string
  | time _ => .string
  | dateTime _ => .string
  | text _ => .string
  | binary _ => .binary

/-- Of a slot that is filled, only the name stays. -/
theorem BindSlot.fill_eq (slot : BindSlot) (encoding : Text.Encoding) (value : Value) :
    slot.fill encoding value =
      ⟨slot.name, .input, value.hostType, value.toWire encoding⟩ := by
  cases value <;> rfl

namespace Client

/-- The calls that describe a parameter and bind a value to it. -/
def parameterCalls (encoding : Text.Encoding) (statement : η) (index : Nat) (slot : BindSlot)
    (value : Value) : List (Event κ η) :=
  [⟨.describe statement index, some slot⟩,
    ⟨.bind statement index ⟨slot.name, .input, value.hostType, value.toWire encoding⟩, true⟩]

/-- The calls that bind values to parameters in order, `index` being the number of the first. -/
def parametersCalls (encoding : Text.Encoding) (statement : η) (index : Nat)
    (slots : List BindSlot) (values : List Value) : List (Event κ η) :=
  ((slots.zip values).zipIdx index).flatMap fun ((slot, value), index) =>
    parameterCalls encoding statement index slot value

theorem mem_parametersCalls {encoding : Text.Encoding} {statement : η} {index : Nat}
    {slots : List BindSlot} {values : List Value} {e : Event κ η}
    (he : e ∈ parametersCalls encoding statement index slots values) :
    (∃ i slot, e = ⟨.describe statement i, some slot⟩) ∨
      ∃ i slot, e = ⟨.bind statement i slot, true⟩ := by
  obtain ⟨⟨⟨slot, value⟩, i⟩, -, he⟩ := List.mem_flatMap.mp he
  rcases List.mem_pair.mp he with rfl | rfl
  · exact .inl ⟨i, slot, rfl⟩
  · exact .inr ⟨i, _, rfl⟩

variable (client : Client σ κ η) (r : Request κ) (encoding : Text.Encoding) (statement : η)
  (s : σ × List (Event κ η))

theorem bindValue_told (index : Nat) (value : Value) :
    Makes Prod.snd (client.recorded.bindValue r encoding statement index value) s
      (Told r (· = .binding) (fun _ => False) fun calls _ _ =>
        ∃ slot, calls = parameterCalls encoding statement index slot value) := by
  refine Told.ask fun reply t _ => ?_
  cases reply with
  | none => exact Told.fail_bind rfl rfl
  | some slot =>
    rw [require_some_bind]
    refine Told.next rfl nofun (Told.ask fun reply t _ => ?_)
    cases reply with
    | false => exact Told.fail rfl rfl
    | true =>
      refine Told.next rfl nofun (Told.pure ⟨slot, ?_⟩)
      rw [slot.fill_eq]
      rfl

/-- The only thing that may be wrong on this side is the number of values. -/
theorem bindFrom_told (count index : Nat) (values : List Value) :
    Makes Prod.snd (client.recorded.bindFrom r encoding statement count index values) s
      (Told r (· = .binding) (fun _ => parameterLimit < index + values.length) fun calls _ _ =>
        (values ≠ [] → index + values.length ≤ parameterLimit) ∧
          ∃ slots, slots.length = values.length ∧
            calls = parametersCalls encoding statement index slots values) := by
  induction values generalizing index s with
  | nil => exact Told.pure ⟨absurd rfl, [], rfl, rfl⟩
  | cons value rest ih =>
    have hrest : index < parameterLimit → Makes Prod.snd
        (client.recorded.bindValue r encoding statement index value >>=
          fun _ => client.recorded.bindFrom r encoding statement count (index + 1) rest) s
        (Told r (· = .binding) (fun _ => parameterLimit < index + (value :: rest).length)
          fun calls _ _ =>
            (value :: rest ≠ [] → index + (value :: rest).length ≤ parameterLimit) ∧
              ∃ slots, slots.length = (value :: rest).length ∧
                calls = parametersCalls encoding statement index slots (value :: rest)) := by
      intro hindex
      refine Told.bind (Told.widen (client.bindValue_told r encoding statement s index value)
        (fun _ h => h) fun _ => False.elim) ?_
      rintro _ _ s' - ⟨slot, rfl⟩
      refine Told.mono (Told.widen (ih s' (index + 1)) (fun _ h => h) fun _ htoo => ?_) ?_
      · rw [List.length_cons]
        omega
      · rintro _ _ _ ⟨hlimit, slots, hlength, rfl⟩
        refine ⟨fun _ => ?_, slot :: slots, congrArg (· + 1) hlength, rfl⟩
        rw [List.length_cons]
        cases rest with
        | nil => exact hindex
        | cons _ _ =>
          have := hlimit nofun
          omega
    rw [bindFrom]
    split
    · next hindex =>
      refine Told.throw rfl ?_
      rw [List.length_cons]
      omega
    · next hindex => exact hrest (Nat.not_le.mp hindex)

end Client

/-! ## Columns and rows -/

/-- The cells of a row are read as the columns say: there is one value for each column, and it is
what the type of the column makes of the cell. -/
structure Decodes (encoding : Text.Encoding) (columns : List ColumnInfo) (cells : List WireValue)
    (row : List Value) : Prop where
  length_cells : cells.length = columns.length
  length_row : row.length = columns.length
  value_eq : ∀ (i : Nat) column cell value, columns[i]? = some column → cells[i]? = some cell →
    row[i]? = some value → cell.toValue column.type encoding = .ok value

theorem Decodes.nil (encoding : Text.Encoding) : Decodes encoding [] [] [] where
  length_cells := rfl
  length_row := rfl
  value_eq := by simp

theorem Decodes.cons {encoding : Text.Encoding} {columns : List ColumnInfo} {cells : List WireValue}
    {row : List Value} {column : ColumnInfo} {cell : WireValue} {value : Value}
    (hvalue : cell.toValue column.type encoding = .ok value)
    (h : Decodes encoding columns cells row) :
    Decodes encoding (column :: columns) (cell :: cells) (value :: row) where
  length_cells := congrArg (· + 1) h.length_cells
  length_row := congrArg (· + 1) h.length_row
  value_eq
    | 0, _, _, _, hcolumn, hcell, hrow => by
      cases hcolumn
      cases hcell
      cases hrow
      exact hvalue
    | i + 1, _, _, _, hcolumn, hcell, hrow => h.value_eq i _ _ _ hcolumn hcell hrow

theorem Decodes.uncons {encoding : Text.Encoding} {columns : List ColumnInfo}
    {cells : List WireValue} {row : List Value} {column : ColumnInfo}
    (h : Decodes encoding (column :: columns) cells row) :
    ∃ cell cells' value row', cells = cell :: cells' ∧ row = value :: row' ∧
      cell.toValue column.type encoding = .ok value ∧ Decodes encoding columns cells' row' := by
  obtain ⟨cell, cells, rfl⟩ := List.exists_cons_of_length_eq_add_one h.length_cells
  obtain ⟨value, row, rfl⟩ := List.exists_cons_of_length_eq_add_one h.length_row
  exact ⟨cell, cells, value, row, rfl, rfl, h.value_eq 0 _ _ _ rfl rfl rfl,
    { length_cells := Nat.succ.inj h.length_cells
      length_row := Nat.succ.inj h.length_row
      value_eq := fun i _ _ _ hcolumn hcell hvalue =>
        h.value_eq (i + 1) _ _ _ hcolumn hcell hvalue }⟩

/-- A cell that cannot be read is no concern of the client. -/
theorem WireValue.clientError?_of_toValue {type : NativeType} {encoding : Text.Encoding}
    {cell : WireValue} {fault : Fault} (h : cell.toValue type encoding = .error fault) :
    fault.clientError? = none := by
  have hbytes : ∀ bytes, decimalOfBytes bytes = .error fault → fault.clientError? = none := by
    intro bytes h
    unfold decimalOfBytes at h
    dsimp only at h
    split at h
    · cases h
    · cases h
      rfl
  have hdecimal : cell.toDecimal = .error fault → fault.clientError? = none := by
    intro h
    cases cell with
    | double x =>
      rw [toDecimal] at h
      split at h
      · cases h
      · cases h
        rfl
    | text bytes => exact hbytes bytes h
    | binary bytes => exact hbytes bytes h
    | _ => cases h
  unfold toValue at h
  split at h
  · cases h
  · split at h
    · cases hcell : cell.toDecimal with
      | error fault' =>
        rw [hcell] at h hdecimal
        cases h
        exact hdecimal rfl
      | ok d =>
        rw [hcell] at h
        cases h
    all_goals cases h

namespace Client

/-- The calls that describe columns, `index` being the number of the first. -/
def columnsCalls (statement : η) (index : Nat) (columns : List ColumnInfo) : List (Event κ η) :=
  (columns.zipIdx index).map fun (column, index) => ⟨.columnInfo statement index, some column⟩

/-- The calls that read cells, `index` being the number of the first. -/
def cellsCalls (statement : η) (index : Nat) (cells : List WireValue) : List (Event κ η) :=
  (cells.zipIdx index).map fun (cell, index) => ⟨.cell statement index, some cell⟩

/-- The calls that describe all columns. -/
def descriptionCalls (statement : η) (columns : List ColumnInfo) : List (Event κ η) :=
  ⟨.columnCount statement, some columns.length⟩ :: columnsCalls statement 0 columns

/-- The calls that fetch one row. -/
def rowCalls (statement : η) (cells : List WireValue) : List (Event κ η) :=
  ⟨.fetch statement, true⟩ :: cellsCalls statement 0 cells

/-- The calls that fetch rows until there are none left. -/
def rowsCalls (statement : η) (rows : List (List WireValue)) : List (Event κ η) :=
  rows.flatMap (rowCalls statement) ++ [⟨.fetch statement, false⟩]

/-- A cell is on record that makes no value of the type with which its column was described. -/
def Misread (encoding : Text.Encoding) (described calls : List (Event κ η)) : Prop :=
  ∃ statement index column cell fault, ⟨.columnInfo statement index, some column⟩ ∈ described ∧
    ⟨.cell statement index, some cell⟩ ∈ calls ∧ cell.toValue column.type encoding = .error fault

theorem Misread.mono {encoding : Text.Encoding}
    {described described' calls calls' : List (Event κ η)}
    (h : Misread encoding described calls) (hdescribed : described ⊆ described')
    (hcalls : calls ⊆ calls') : Misread encoding described' calls' := by
  obtain ⟨statement, index, column, cell, fault, hcolumn, hcell, hfails⟩ := h
  exact ⟨statement, index, column, cell, fault, hdescribed hcolumn, hcalls hcell, hfails⟩

variable (client : Client σ κ η) (r : Request κ) (encoding : Text.Encoding) (statement : η)
  (s : σ × List (Event κ η))

theorem columnsFrom_told (index count : Nat) :
    Makes Prod.snd (client.recorded.columnsFrom r statement index count) s
      (Told r (· = .fetching) (fun _ => False) fun calls columns _ => columns.length = count ∧
        calls = columnsCalls statement index columns) := by
  induction count generalizing index s with
  | zero => exact Told.pure ⟨rfl, rfl⟩
  | succ count ih =>
    refine Told.ask fun reply t _ => ?_
    cases reply with
    | none => exact Told.fail_bind rfl rfl
    | some column =>
      rw [require_some_bind]
      refine Told.next rfl nofun (Told.bind (ih t (index + 1)) ?_)
      rintro _ columns s' - ⟨hlength, rfl⟩
      exact Told.pure ⟨congrArg (· + 1) hlength, by rw [List.append_nil]; rfl⟩

theorem columns_told :
    Makes Prod.snd (client.recorded.columns r statement) s
      (Told r (· = .fetching) (fun _ => False) fun calls columns _ =>
        calls = descriptionCalls statement columns) := by
  refine Told.ask fun reply t _ => ?_
  cases reply with
  | none => exact Told.fail_bind rfl rfl
  | some count =>
    rw [require_some_bind]
    refine Told.next rfl nofun (Told.mono (client.columnsFrom_told r statement t 0 count) ?_)
    rintro _ columns _ ⟨rfl, rfl⟩
    rfl

theorem cellsFrom_told (index : Nat) (columns : List ColumnInfo) :
    Makes Prod.snd (client.recorded.cellsFrom r encoding statement index columns) s
      (Told r (· = .fetching) (Misread encoding (columnsCalls statement index columns))
        fun calls row _ => ∃ cells, Decodes encoding columns cells row ∧
          calls = cellsCalls statement index cells) := by
  induction columns generalizing index s with
  | nil => exact Told.pure ⟨[], .nil encoding, rfl⟩
  | cons column rest ih =>
    refine Told.ask fun reply t _ => ?_
    cases reply with
    | none => exact Told.fail_bind rfl rfl
    | some cell =>
      rw [require_some_bind]
      refine Told.next rfl nofun ?_
      cases hvalue : cell.toValue column.type encoding with
      | error fault =>
        exact Told.throw (WireValue.clientError?_of_toValue hvalue)
          ⟨statement, index, column, cell, fault, List.mem_cons_self, List.mem_cons_self, hvalue⟩
      | ok value =>
        rw [ofExcept_ok_bind]
        refine Told.bind (Told.widen (ih t (index + 1)) (fun _ h => h) fun _ hmisread =>
          hmisread.mono (List.subset_cons_self _ _) (List.subset_cons_self _ _)) ?_
        rintro _ row s' - ⟨cells, hdecodes, rfl⟩
        exact Told.pure ⟨cell :: cells, hdecodes.cons hvalue, by rw [List.append_nil]; rfl⟩

/-- **The rows are those in front of the first fetch that is answered with no.** -/
theorem rows_told (columns : List ColumnInfo) :
    Makes Prod.snd (client.recorded.rows r encoding columns statement) s
      (Told r (· = .fetching) (Misread encoding (columnsCalls statement 0 columns))
        fun calls rows _ => ∃ cells, List.Forall₂ (Decodes encoding columns) cells rows ∧
          calls = rowsCalls statement cells) := by
  -- each row that is read leaves fewer of them
  induction hn : client.recorded.pending statement s using Nat.strongRecOn generalizing s with
  | ind n ih =>
    refine Makes.congr (rows_eq_bind client.recorded r encoding columns statement s)
      (Told.ask fun more t hasked => ?_)
    cases more with
    | false => exact Told.next rfl nofun (Told.pure ⟨[], .nil, rfl⟩)
    | true =>
      have hfewer := client.recorded.pending_fetch statement s (congrArg Prod.fst hasked)
      rw [show (client.recorded.answer (.fetch statement) s).2 = t from congrArg Prod.snd hasked]
        at hfewer
      refine Told.next rfl nofun (Told.bind
        (Told.widen (client.cellsFrom_told r encoding statement t 0 columns) (fun _ h => h)
          fun _ hmisread => hmisread.mono (List.Subset.refl _) (List.subset_cons_self _ _)) ?_)
      rintro _ row u hread ⟨cells, hdecodes, rfl⟩
      have hleft := client.recorded.pending_cellsFrom r hread
      refine Told.bind (Told.widen (ih _ (by omega) u rfl) (fun _ h => h) fun _ hmisread =>
        hmisread.mono (List.Subset.refl _)
          (List.subset_cons_of_subset _ (List.subset_append_right _ _))) ?_
      rintro _ rows v - ⟨others, hothers, rfl⟩
      refine Told.pure ⟨cells :: others, .cons hdecodes hothers, ?_⟩
      rw [List.append_nil, rowsCalls, rowsCalls, List.flatMap_cons, List.append_assoc]
      rfl

end Client

/-! ## Steps of an execution -/

namespace Execution

section Steps

variable {r : Request κ} {stages : Stage → Prop} {own : List (Event κ η) → Prop}
  {s : Execution η × σ × List (Event κ η)}

/-- The transcript of an action is that of the step. -/
theorem told_ofAction {P : List (Event κ η) → α → σ × List (Event κ η) → Prop}
    {x : Action (σ × List (Event κ η)) α} (h : Makes Prod.snd x s.2 (Told r stages own P)) :
    Makes record (Operation.ofAction x) s
      (Told r stages own fun calls a s' => s'.1 = s.1 ∧ P calls a s'.2) := by
  obtain ⟨calls, hrecord, hat, htold⟩ := h
  refine ⟨calls, hrecord, hat, ?_⟩
  have hresult : (Operation.ofAction x s).1 = (x s.2).1 := rfl
  rw [hresult]
  split
  · next a ha =>
    rw [ha] at htold
    exact ⟨htold.1, rfl, htold.2⟩
  · next fault hfault =>
    rw [hfault] at htold
    exact htold

theorem told_update {P : List (Event κ η) → Unit → Execution η × σ × List (Event κ η) → Prop}
    {f : Execution η → Execution η} (h : P [] () (f s.1, s.2)) :
    Makes record (update f) s (Told r stages own P) :=
  makes_update ⟨by simp, by simp, h⟩

end Steps

section Transcripts

variable (client : Client σ κ η) (r : Request κ) {s : Execution η × σ × List (Event κ η)}

theorem prepare_told :
    Makes record (prepare client.recorded r) s
      (Told r (· = .preparing) (fun _ => False) fun calls _ s' =>
        ∃ statement, s'.1.statement = some statement ∧
          calls = [⟨.prepare r.connection r.sql, some statement⟩]) := by
  refine makes_bind_ask fun reply t => ?_
  cases reply with
  | none => exact makes_bind_fail fun report _ => .failed rfl rfl
  | some statement =>
    rw [bind_require_some]
    exact makes_update (.cons rfl nofun ⟨by simp, by simp, statement, rfl, rfl⟩)

variable {statement : η} (hs : s.1.statement = some statement)

include hs

theorem bind_told (encoding : Text.Encoding) (values : List Value) :
    Makes record (bind client.recorded r encoding values) s
      (Told r (· = .binding) (fun _ => Client.parameterLimit < values.length) fun calls _ s' =>
        s'.1.statement = some statement ∧ values.length ≤ Client.parameterLimit ∧
          ∃ slots, slots.length = values.length ∧
            calls = Client.parametersCalls encoding statement 0 slots values) := by
  refine makes_withStatement hs (Told.bind (Told.widen
    (told_ofAction (client.bindFrom_told r encoding statement s.2 _ 0 values)) (fun _ h => h)
      fun _ htoo => by rwa [Nat.zero_add] at htoo) ?_)
  rintro _ _ s' - ⟨hsame, hlimit, hslots⟩
  rw [← hsame] at hs
  refine told_update ⟨hs, ?_, by rwa [List.append_nil]⟩
  cases values with
  | nil => exact Nat.zero_le _
  | cons _ _ =>
    have := hlimit nofun
    rwa [Nat.zero_add] at this

theorem execute_told :
    Makes record (execute client.recorded r) s
      (Told r (· = .executing) (fun _ => False) fun calls _ s' =>
        s'.1.statement = some statement ∧ calls = [⟨.execute statement, true⟩]) := by
  refine makes_withStatement hs (makes_bind_ask fun reply t => ?_)
  cases reply with
  | false => exact makes_bind_fail fun report _ => .failed rfl rfl
  | true =>
    rw [bind_check_true]
    exact makes_update (.cons rfl nofun ⟨by simp, by simp, hs, rfl⟩)

theorem fetch_told (encoding : Text.Encoding) :
    Makes record (fetch client.recorded r encoding) s
      (Told r (· = .fetching) (fun calls => Client.Misread encoding calls calls)
        fun calls result s' => s'.1.statement = some statement ∧ ∃ columns cells,
          result.columns = columns.map ColumnInfo.name ∧
          List.Forall₂ (Decodes encoding columns) cells result.rows ∧
          calls = Client.descriptionCalls statement columns ++
            Client.rowsCalls statement cells) := by
  refine makes_withStatement hs (Told.bind (Told.widen
    (told_ofAction (client.columns_told r statement s.2)) (fun _ h => h) fun _ => False.elim) ?_)
  rintro _ columns s₁ - ⟨hsame, rfl⟩
  rw [← hsame] at hs
  refine Told.bind (P := fun calls _ s' => calls = [] ∧ s'.1.statement = some statement)
    (told_update ⟨rfl, hs⟩) ?_
  rintro _ _ s₂ - ⟨rfl, hs₂⟩
  refine Told.bind (Told.widen (told_ofAction (client.rows_told r encoding statement s₂.2 columns))
    (fun _ h => h) fun more hmisread => ?_) ?_
  · -- the columns of the cells are those that were described
    exact hmisread.mono (List.subset_append_of_subset_left _ (List.subset_cons_self _ _))
      (List.subset_append_right _ _)
  rintro _ rows s₃ - ⟨hsame, cells, hdecodes, rfl⟩
  rw [← hsame] at hs₂
  exact Told.pure ⟨hs₂, columns, cells, rfl, hdecodes, by simp⟩

theorem countAffected_told :
    Makes record (countAffected client.recorded r) s
      (Told r (· = .counting) (fun _ => False) fun calls _ s' =>
        s'.1.statement = some statement ∧
          calls = [⟨.affectedRows statement, some s'.1.affectedRows⟩]) := by
  refine makes_withStatement hs (makes_bind_ask fun reply t => ?_)
  cases reply with
  | none => exact makes_bind_fail fun report _ => .failed rfl rfl
  | some count =>
    rw [bind_require_some]
    exact makes_update (.cons rfl nofun ⟨by simp, by simp, hs, rfl⟩)

theorem free_told :
    Makes record (free client.recorded) s
      (Told r (· = .ending) (fun _ => False) fun calls _ _ =>
        calls = [⟨.free statement, ()⟩]) := by
  obtain ⟨calls, hrecord, hresult, hcalls, -⟩ := free_makes client s
  rw [hs] at hcalls
  refine ⟨calls, hrecord, ?_⟩
  rw [hresult, hcalls]
  exact .cons rfl nofun ⟨by simp, by simp, rfl⟩

theorem finish_told (autoCommit : Bool) :
    Makes record (finish client.recorded r autoCommit) s
      (Told r (· = .ending) (fun _ => False) fun calls _ _ => calls = ⟨.free statement, ()⟩ ::
        if autoCommit then [⟨.commit r.connection, true⟩] else []) := by
  refine Told.bind (free_told client r hs) ?_
  rintro _ _ s' - rfl
  cases autoCommit with
  | false => exact Told.pure rfl
  | true =>
    refine makes_bind_ask fun reply t => ?_
    cases reply with
    | false => exact makes_bind_fail fun report _ => .failed rfl rfl
    | true =>
      rw [bind_check_true]
      exact makes_update (.cons rfl nofun ⟨by simp, by simp, rfl⟩)

end Transcripts

/-! ## Runs -/

/-- The rows on record and the result are the same, if the rows are of interest. -/
def Fetched (options : RunOptions) (statement : η) (calls : List (Event κ η)) (result : ResultSet) :
    Prop :=
  if options.fetchRows then
    ∃ columns cells, result.columns = columns.map ColumnInfo.name ∧
      List.Forall₂ (Decodes options.encoding columns) cells result.rows ∧
      calls = Client.descriptionCalls statement columns ++ Client.rowsCalls statement cells
  else calls = [] ∧ result = .empty

/-- What may be wrong with a run although no call failed: there are too many values, or a cell
cannot be read. -/
def Unfit (values : List Value) (options : RunOptions) (calls : List (Event κ η)) : Prop :=
  Client.parameterLimit < values.length ∨ Client.Misread options.encoding calls calls

theorem Unfit.mono {values : List Value} {options : RunOptions} {calls calls' : List (Event κ η)}
    (h : Unfit values options calls) (hcalls : calls ⊆ calls') : Unfit values options calls' :=
  h.imp_right fun h => h.mono hcalls hcalls

theorem Unfit.append {values : List Value} {options : RunOptions} {more : List (Event κ η)}
    (h : Unfit values options more) (calls : List (Event κ η)) :
    Unfit values options (calls ++ more) :=
  h.mono (List.subset_append_right _ _)

/-- The calls of a run that succeeds, one by one. -/
def Transcript (r : Request κ) (values : List Value) (options : RunOptions) (result : ResultSet)
    (calls : List (Event κ η)) : Prop :=
  ∃ statement slots fetched count, values.length ≤ Client.parameterLimit ∧
    slots.length = values.length ∧ Fetched options statement fetched result ∧
    calls = ⟨.prepare r.connection r.sql, some statement⟩ ::
      (Client.parametersCalls options.encoding statement 0 slots values ++
        ⟨.execute statement, true⟩ :: (fetched ++
          ⟨.affectedRows statement, some count⟩ :: ⟨.free statement, ()⟩ ::
            if options.autoCommit then [⟨.commit r.connection, true⟩] else []))

section Runs

variable (client : Client σ κ η) (r : Request κ) (values : List Value) (options : RunOptions)
  {s : Execution η × σ × List (Event κ η)}

theorem fetchIfWanted_told {statement : η} (hs : s.1.statement = some statement) :
    Makes record (fetchIfWanted client.recorded r options) s
      (Told r (· = .fetching) (fun calls => Client.Misread options.encoding calls calls)
        fun calls result s' =>
          s'.1.statement = some statement ∧ Fetched options statement calls result) := by
  unfold fetchIfWanted Fetched
  split
  · exact fetch_told client r hs options.encoding
  · exact Told.pure ⟨hs, rfl, rfl⟩

/-- What is left to do with a statement that was executed. -/
def complete (client : Client σ κ η) : Step σ η ResultSet := do
  let result ← fetchIfWanted client r options
  countAffected client r
  finish client r options.autoCommit
  return result

theorem drive_eq_complete (client : Client σ κ η) :
    drive client r values options = (do
      prepare client r
      bind client r options.encoding values
      execute client r
      complete r options client) := by
  rw [drive_eq, useStatement]
  simp only [complete, bind_assoc, pure_bind]

theorem complete_told {statement : η} (hs : s.1.statement = some statement) :
    Makes record (complete r options client.recorded) s
      (Told r Stage.Late (Unfit values options) fun calls result _ => ∃ fetched count,
        Fetched options statement fetched result ∧
        calls = fetched ++ ⟨.affectedRows statement, some count⟩ :: ⟨.free statement, ()⟩ ::
          if options.autoCommit then [⟨.commit r.connection, true⟩] else []) := by
  refine Told.bind (Told.widen (fetchIfWanted_told client r options hs)
    (by simp [Stage.Late]) fun _ => Or.inr) ?_
  rintro fetched result s₁ - ⟨hs₁, hfetched⟩
  refine Told.bind (Told.widen (countAffected_told client r hs₁)
    (by simp [Stage.Late]) fun _ => False.elim) ?_
  rintro _ _ s₂ - ⟨hs₂, rfl⟩
  refine Told.bind (Told.widen (finish_told client r hs₂ _)
    (by simp [Stage.Late]) fun _ => False.elim) ?_
  rintro _ _ s₃ - rfl
  exact Told.pure ⟨fetched, s₂.1.affectedRows, hfetched, by simp⟩

/-- **The transcript of a run,** as far as it goes well. -/
theorem drive_told :
    Makes record (drive client.recorded r values options) s
      (Told r (fun _ => True) (Unfit values options) fun calls result _ =>
        Transcript r values options result calls) := by
  rw [drive_eq_complete]
  refine Told.bind (Told.widen (prepare_told client r) (by simp) fun _ => False.elim) ?_
  rintro _ _ s₁ - ⟨statement, hs₁, rfl⟩
  refine Told.bind (Told.widen (bind_told client r hs₁ options.encoding values) (by simp)
    fun _ => Or.inl) ?_
  rintro _ _ s₂ - ⟨hs₂, hlimit, slots, hslots, rfl⟩
  refine Told.bind (Told.widen (execute_told client r hs₂) (by simp) fun _ => False.elim) ?_
  rintro _ _ s₃ - ⟨hs₃, rfl⟩
  refine Told.mono (Told.widen (complete_told client r values options hs₃) (by simp)
    fun _ hunfit => ((hunfit.append _).append _).append _) ?_
  rintro _ result _ ⟨fetched, count, hfetched, rfl⟩
  exact ⟨statement, slots, fetched, count, hlimit, hslots, hfetched, by simp⟩

/-- The rule for runs. A run that fails still releases the statement that it holds, and rolls
back. -/
theorem makes_run {P : List (Event κ η) → Except Fault ResultSet → Prop}
    {Q : List (Event κ η) → Except Fault Outcome → Prop}
    (h : Makes record (drive client.recorded r values options) s fun calls result _ =>
      P calls result)
    (hok : ∀ calls outcome, P calls (.ok outcome.result) → Q calls (.ok outcome))
    (herror : ∀ calls fault held reply, P calls (.error fault) →
      Q (calls ++ (release held ++ [⟨.rollback r.connection, reply⟩])) (.error fault)) :
    Makes record (run client.recorded r values options) s fun calls result _ => Q calls result := by
  -- what is known in between is said of the ends that the run may still come to
  have hends : Makes record (tryCatch (drive client.recorded r values options) fun fault => do
      abort client.recorded r
      throw fault) s fun calls result _ =>
        ∀ made : Except Fault Outcome, made.map Outcome.result = result → Q calls made := by
    refine Makes.tryCatch h (fun calls rows s₁ hP made hmade => ?_) fun calls fault s₁ hP => ?_
    · cases made with
      | ok outcome =>
        cases hmade
        exact hok calls outcome hP
      | error fault => cases hmade
    · refine Makes.bind (abort_makes client r s₁) ?_ (by rintro _ _ _ ⟨hresult, -⟩; cases hresult)
      rintro _ _ s₂ ⟨-, -, reply, rfl⟩
      refine Makes.throw fun made hmade => ?_
      cases made with
      | ok outcome => cases hmade
      | error fault =>
        cases hmade
        rw [List.append_nil]
        exact herror calls fault s₁.1.statement reply hP
  refine Makes.bind hends (fun calls rows s₁ hQ => ?_) fun _ fault _ hQ => hQ (.error fault) rfl
  refine ⟨[], rfl, ?_⟩
  change Q (calls ++ []) (.ok ⟨rows, s₁.1.affectedRows⟩)
  rw [List.append_nil]
  exact hQ (.ok ⟨rows, s₁.1.affectedRows⟩) rfl

/-- Letting go of a statement cannot fail, and a rollback that fails is not asked about. -/
theorem ending_of_mem {held : Option η} {reply : Bool} {e : Event κ η}
    (he : e ∈ release held ++ [⟨.rollback r.connection, reply⟩]) :
    e.At (· = .ending) ∧ ¬ e.Failed := by
  rcases List.mem_append.mp he with he | he
  · cases held with
    | none => exact nomatch he
    | some statement =>
      cases List.mem_singleton.mp he
      exact ⟨rfl, id⟩
  · cases List.mem_singleton.mp he
    exact ⟨rfl, id⟩

/-- What the calls of a run have to do with its result. If it succeeds, they are known one by one;
if it fails, they show a reason. -/
def Explains (r : Request κ) (values : List Value) (options : RunOptions)
    (calls : List (Event κ η)) : Except Fault ResultSet → Prop
  | .ok result => (∀ e ∈ calls, ¬ e.Failed) ∧ Transcript r values options result calls
  | .error _ => (∃ e ∈ calls, e.Failed) ∨ Unfit values options calls

theorem run_explains :
    Makes record (run client.recorded r values options) s fun calls result _ =>
      Explains r values options calls (result.map Outcome.result) := by
  have hdrive : Makes record (drive client.recorded r values options) s fun calls result _ =>
      Explains r values options calls result := by
    obtain ⟨calls, hrecord, -, htold⟩ := drive_told client r values options (s := s)
    refine ⟨calls, hrecord, ?_⟩
    split at htold
    · next rows hresult =>
      rw [hresult]
      exact htold
    · next fault hresult =>
      rw [hresult]
      exact htold.exists_failed_or
  refine makes_run client r values options hdrive (fun _ _ h => h) ?_
  rintro calls fault held reply (⟨e, he, hfailed⟩ | hunfit)
  · exact .inl ⟨e, List.mem_append_left _ he, hfailed⟩
  · exact .inr (hunfit.mono (List.subset_append_left _ _))

end Runs

end Execution

end Anywhere
