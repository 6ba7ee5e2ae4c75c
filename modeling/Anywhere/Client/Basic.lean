import Anywhere.Client.Wire
import Anywhere.Fault

/-!
# The client library

Everything that reaches the server goes through a client library. A `Call` is what can be asked of
it, and a `Client` says what it answers in each of its states. Nothing is assumed about the answers
but that rows run out: a fetch that succeeds leaves fewer of them, and reading a cell does not make
new ones. That is why fetching ends.

What is done with a client is an `Action`: it passes the state of the client on, and may fail. An
action that fails leaves a state behind, too.
-/

namespace Anywhere

/-- What the client library says about its last failure. -/
structure Report where
  code : Int
  message : String
deriving DecidableEq, Repr

namespace Report

/-- Stands for a message that the client library does not give. -/
def silentFailure : String := "the native driver reported a failure without an error message"

/-- The failure of an SQL text that the client library reports. -/
def toFault (report : Report) (sql : String) : Fault :=
  ClientError.toFault
    ⟨report.code, if report.message.isEmpty then silentFailure else report.message, sql⟩

end Report

/-- A call of the client library, `κ` being its connections and `η` its statements. -/
inductive Call (κ η : Type) where
  | init
  | fini
  | newConnection
  | connect (connection : κ) (text : String)
  | disconnect (connection : κ)
  | executeImmediate (connection : κ) (sql : String)
  | prepare (connection : κ) (sql : String)
  | describe (statement : η) (index : Nat)
  | bind (statement : η) (index : Nat) (slot : BindSlot)
  | execute (statement : η)
  | columnCount (statement : η)
  | columnInfo (statement : η) (index : Nat)
  | fetch (statement : η)
  | cell (statement : η) (index : Nat)
  | affectedRows (statement : η)
  | free (statement : η)
  | commit (connection : κ)
  | rollback (connection : κ)
  | lastError (connection : κ)
deriving DecidableEq, Repr

/-- What a call is answered with. Whatever can fail says so with `false` or `none`. -/
@[reducible] def Call.Reply {κ η : Type} : Call κ η → Type
  | init => Bool
  | fini => Unit
  | newConnection => Option κ
  | connect .. => Bool
  | disconnect _ => Unit
  | executeImmediate .. => Bool
  | prepare .. => Option η
  | describe .. => Option BindSlot
  | bind .. => Bool
  | execute _ => Bool
  | columnCount _ => Option Nat
  | columnInfo .. => Option ColumnInfo
  | fetch _ => Bool
  | cell .. => Option WireValue
  | affectedRows _ => Option Nat
  | free _ => Unit
  | commit _ => Bool
  | rollback _ => Bool
  | lastError _ => Report

/-- A client library with the states `σ`. -/
structure Client (σ κ η : Type) where
  answer : (call : Call κ η) → σ → call.Reply × σ
  /-- A bound on the rows that are still to come. -/
  pending : η → σ → Nat
  pending_fetch : ∀ (statement : η) (s : σ), (answer (.fetch statement) s).1 = true →
    pending statement (answer (.fetch statement) s).2 < pending statement s
  pending_cell : ∀ (statement : η) (index : Nat) (s : σ),
    pending statement (answer (.cell statement index) s).2 ≤ pending statement s

/-! ## Actions -/

/-- Something that is done in one of the states `σ`, and the state that it leaves behind. -/
def Action (σ α : Type) : Type := σ → Except Fault α × σ

/-- Something that is done with a client next to what the adapter itself keeps track of. -/
abbrev Operation (ρ σ α : Type) := Action (ρ × σ) α

namespace Action

variable {σ : Type}

/-- Does nothing. -/
def done (a : α) : Action σ α := fun s => (.ok a, s)

/-- One action after another. The second one is not begun when the first one fails. -/
def andThen (x : Action σ α) (f : α → Action σ β) : Action σ β := fun s =>
  match x s with
  | (.ok a, s) => f a s
  | (.error fault, s) => (.error fault, s)

/-- An action, and another one in its place from the state that it leaves behind if it fails. -/
def orElse (x : Action σ α) (f : Fault → Action σ α) : Action σ α := fun s =>
  match x s with
  | (.ok a, s) => (.ok a, s)
  | (.error fault, s) => f fault s

instance : Monad (Action σ) where
  pure := done
  bind := andThen

instance : MonadExcept Fault (Action σ) where
  throw fault := fun s => (.error fault, s)
  tryCatch := orElse

@[simp] theorem pure_apply (a : α) (s : σ) : (pure a : Action σ α) s = (.ok a, s) := rfl

@[simp] theorem throw_apply (fault : Fault) (s : σ) :
    (throw fault : Action σ α) s = (.error fault, s) := rfl

theorem bind_apply (x : Action σ α) (f : α → Action σ β) (s : σ) :
    (x >>= f) s = match x s with
      | (.ok a, s) => f a s
      | (.error fault, s) => (.error fault, s) := rfl

theorem map_apply (f : α → β) (x : Action σ α) (s : σ) :
    (f <$> x) s = ((x s).1.map f, (x s).2) := by
  change (match x s with
    | (.ok a, s) => (pure (f a) : Action σ β) s
    | (.error fault, s) => (.error fault, s)) = ((x s).1.map f, (x s).2)
  rcases x s with ⟨_ | a, s₁⟩ <;> rfl

theorem discard_apply (x : Action σ α) (s : σ) :
    discard x s = ((x s).1.map fun _ => (), (x s).2) :=
  map_apply (fun _ => ()) x s

/-- A sequence of two actions succeeds when both do, one after the other. -/
theorem bind_eq_ok {x : Action σ α} {f : α → Action σ β} {b : β} {s s' : σ} :
    (x >>= f) s = (.ok b, s') ↔ ∃ a s₁, x s = (.ok a, s₁) ∧ f a s₁ = (.ok b, s') := by
  rw [bind_apply]
  rcases x s with ⟨_ | a, s₁⟩
  · simp
  · constructor
    · exact fun h => ⟨a, s₁, rfl, h⟩
    · rintro ⟨_, _, e, h⟩
      cases e
      exact h

theorem pure_eq_ok {a b : α} {s s' : σ} :
    (pure a : Action σ α) s = (.ok b, s') ↔ a = b ∧ s = s' := by
  simp

instance : LawfulMonad (Action σ) := LawfulMonad.mk' (Action σ)
  (fun x => by
    funext s
    change (match x s with
      | (.ok a, s) => (.ok a, s)
      | (.error fault, s) => (.error fault, s)) = x s
    rcases x s with ⟨_ | a, s₁⟩ <;> rfl)
  (fun _ _ => rfl)
  (fun x f g => by
    funext s
    simp only [bind_apply]
    rcases x s with ⟨_ | a, s₁⟩ <;> rfl)

/-- What is made of a result does not matter if it is discarded. -/
theorem discard_map (f : α → β) (x : Action σ α) : discard (f <$> x) = discard x := by
  simp [discard, LawfulFunctor.map_const]

end Action

/-- The text of a statement and the connection on which it runs. -/
structure Request (κ : Type) where
  connection : κ
  sql : String

namespace Action

variable {σ κ η : Type} (client : Client σ κ η)

/-- Asks the client. -/
def ask (call : Call κ η) : Action σ call.Reply := fun s =>
  let (reply, s) := client.answer call s
  (.ok reply, s)

/-- A result, or a failure that is no concern of the client. -/
def ofExcept : Except Fault α → Action σ α := fun result s => (result, s)

/-- Fails with what the client reports. -/
def fail (r : Request κ) : Action σ α := do
  let report ← ask client (.lastError r.connection)
  throw (report.toFault r.sql)

/-- Fails with what the client reports if there is no answer. -/
def require (r : Request κ) (reply : Option α) : Action σ α :=
  match reply with
  | some a => pure a
  | none => fail client r

/-- Fails with what the client reports if the answer is no. -/
def check (r : Request κ) (reply : Bool) : Action σ Unit :=
  if reply then pure () else fail client r

end Action

namespace Operation

variable {ρ σ κ η : Type}

/-- An action, which leaves alone what the adapter keeps track of. -/
def ofAction (action : Action σ α) : Operation ρ σ α := fun (r, s) =>
  let (result, s) := action s
  (result, (r, s))

/-- Asks the client. -/
def ask (client : Client σ κ η) (call : Call κ η) : Operation ρ σ call.Reply :=
  ofAction (Action.ask client call)

/-- What the adapter keeps track of. -/
def track : Operation ρ σ ρ := fun (r, s) => (.ok r, (r, s))

/-- Changes what the adapter keeps track of. -/
def update (f : ρ → ρ) : Operation ρ σ Unit := fun (r, s) => (.ok (), (f r, s))

end Operation

/-! ## Observed calls -/

/-- A call and its answer. -/
abbrev Event (κ η : Type) := (call : Call κ η) × call.Reply

/-- The client whose calls are also noted. -/
def Client.observed {σ κ η τ : Type} (client : Client σ κ η) (note : Event κ η → τ → τ) :
    Client (σ × τ) κ η where
  answer call := fun (s, t) =>
    let (reply, s) := client.answer call s
    (reply, (s, note ⟨call, reply⟩ t))
  pending statement s := client.pending statement s.1
  pending_fetch statement s := client.pending_fetch statement s.1
  pending_cell statement index s := client.pending_cell statement index s.1

/-- The client that also keeps a record of its calls, the latest first. -/
def Client.recorded {σ κ η : Type} (client : Client σ κ η) : Client (σ × List (Event κ η)) κ η :=
  client.observed List.cons

end Anywhere
