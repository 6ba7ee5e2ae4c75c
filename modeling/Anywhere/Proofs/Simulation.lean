import Anywhere.Session.Query

/-!
# Clients that answer alike

The adapter sees nothing of a client but its answers. Two clients that give the same answers in
related states, and whose states stay related, are treated alike: an action comes to the same result
with the one as with the other, and leaves related states behind.

`Client.Matches` is that relation between clients, `Action.Matches` the one between what is done
with them, and there is one rule for each way of putting actions together. Fetching rows is the only
place where the rules do not suffice, since it goes on as long as the client has rows; there the
induction is on the rows that are still to come.

With this, what is known about a client holds of the same client with an observer, who sees the
calls and has no say in the answers.
-/

namespace Anywhere

variable {σ σ' κ η ρ α β : Type}

/-- The clients give the same answers in states related by `R` and keep them related. -/
structure Client.Matches (R : σ → σ' → Prop) (client : Client σ κ η) (client' : Client σ' κ η) :
    Prop where
  reply : ∀ (call : Call κ η) {s s'}, R s s' →
    (client.answer call s).1 = (client'.answer call s').1
  state : ∀ (call : Call κ η) {s s'}, R s s' →
    R (client.answer call s).2 (client'.answer call s').2

/-- The same for what the adapter keeps track of, and related states of the client. -/
def Beside (R : σ → σ' → Prop) (s : ρ × σ) (s' : ρ × σ') : Prop := s.1 = s'.1 ∧ R s.2 s'.2

namespace Action

variable {R : σ → σ' → Prop}

/-- The same result, and related states behind it. -/
def Agree (R : σ → σ' → Prop) (p : Except Fault α × σ) (p' : Except Fault α × σ') : Prop :=
  p.1 = p'.1 ∧ R p.2 p'.2

/-- The actions agree wherever they are begun in related states. -/
def Matches (R : σ → σ' → Prop) (x : Action σ α) (x' : Action σ' α) : Prop :=
  ∀ s s', R s s' → Agree R (x s) (x' s')

/-- What comes behind two actions only has to agree where the first one got. -/
theorem Agree.bind {x : Action σ α} {x' : Action σ' α} {f : α → Action σ β} {f' : α → Action σ' β}
    {s : σ} {s' : σ'} (h : Agree R (x s) (x' s'))
    (hf : ∀ a t t', x s = (.ok a, t) → R t t' → Agree R (f a t) (f' a t')) :
    Agree R ((x >>= f) s) ((x' >>= f') s') := by
  rw [bind_apply, bind_apply]
  obtain ⟨hresult, hstate⟩ := h
  rcases hx : x s with ⟨fault | a, t⟩ <;> rcases hx' : x' s' with ⟨fault' | a', t'⟩ <;>
    rw [hx, hx'] at hresult hstate
  · cases hresult
    exact ⟨rfl, hstate⟩
  · exact nomatch hresult
  · exact nomatch hresult
  · cases hresult
    exact hf a t t' hx hstate

namespace Matches

theorem pure (a : α) : Matches R (pure a) (pure a) := fun _ _ h => ⟨rfl, h⟩

theorem throw (fault : Fault) : Matches (α := α) R (throw fault) (throw fault) :=
  fun _ _ h => ⟨rfl, h⟩

theorem ofExcept (result : Except Fault α) : Matches R (ofExcept result) (ofExcept result) :=
  fun _ _ h => ⟨rfl, h⟩

theorem bind {x : Action σ α} {x' : Action σ' α} {f : α → Action σ β} {f' : α → Action σ' β}
    (hx : Matches R x x') (hf : ∀ a, Matches R (f a) (f' a)) : Matches R (x >>= f) (x' >>= f') :=
  fun s s' h => (hx s s' h).bind fun a t t' _ ht => hf a t t' ht

theorem map {x : Action σ α} {x' : Action σ' α} (f : α → β) (hx : Matches R x x') :
    Matches R (f <$> x) (f <$> x') := by
  rw [map_eq_pure_bind, map_eq_pure_bind]
  exact hx.bind fun a => .pure (f a)

theorem tryCatch {x : Action σ α} {x' : Action σ' α} {f : Fault → Action σ α}
    {f' : Fault → Action σ' α} (hx : Matches R x x')
    (hf : ∀ fault, Matches R (f fault) (f' fault)) :
    Matches R (tryCatch x f) (tryCatch x' f') := by
  intro s s' h
  obtain ⟨hresult, hstate⟩ := hx s s' h
  change Agree R (orElse x f s) (orElse x' f' s')
  unfold orElse
  rcases hxs : x s with ⟨fault | a, t⟩ <;> rcases hxs' : x' s' with ⟨fault' | a', t'⟩ <;>
    rw [hxs, hxs'] at hresult hstate
  · cases hresult
    exact hf fault t t' hstate
  · exact nomatch hresult
  · exact nomatch hresult
  · exact ⟨hresult, hstate⟩

variable {client : Client σ κ η} {client' : Client σ' κ η}

theorem ask (hc : client.Matches R client') (call : Call κ η) :
    Matches R (ask client call) (ask client' call) :=
  fun _ _ h => ⟨congrArg Except.ok (hc.reply call h), hc.state call h⟩

theorem fail (hc : client.Matches R client') (r : Request κ) :
    Matches (α := α) R (fail client r) (fail client' r) :=
  .bind (.ask hc _) fun _ => .throw _

theorem require (hc : client.Matches R client') (r : Request κ) (reply : Option α) :
    Matches R (require client r reply) (require client' r reply) := by
  cases reply with
  | some a => exact .pure a
  | none => exact .fail hc r

theorem check (hc : client.Matches R client') (r : Request κ) (reply : Bool) :
    Matches R (check client r reply) (check client' r reply) := by
  cases reply with
  | true => exact .pure ()
  | false => exact .fail hc r

theorem ofAction {x : Action σ α} {x' : Action σ' α} (hx : Matches R x x') :
    Matches (Beside (ρ := ρ) R) (Operation.ofAction x) (Operation.ofAction x') := by
  rintro ⟨r, s⟩ ⟨r', s'⟩ ⟨hr, hs⟩
  exact ⟨(hx s s' hs).1, hr, (hx s s' hs).2⟩

theorem operate (hc : client.Matches R client') (call : Call κ η) :
    Matches (Beside (ρ := ρ) R) (Operation.ask client call) (Operation.ask client' call) :=
  ofAction (.ask hc call)

theorem track : Matches (Beside (ρ := ρ) R) Operation.track Operation.track :=
  fun _ _ h => ⟨congrArg Except.ok h.1, h⟩

theorem update (f : ρ → ρ) :
    Matches (Beside R) (Operation.update f) (Operation.update f) :=
  fun _ _ h => ⟨rfl, congrArg f h.1, h.2⟩

end Matches

end Action

namespace Client

open Anywhere.Action

variable {R : σ → σ' → Prop} {client : Client σ κ η} {client' : Client σ' κ η}

/-! ## Prepared statements -/

section Statements

variable (hc : client.Matches R client') (r : Request κ)

include hc

theorem Matches.bindFrom (encoding : Text.Encoding) (statement : η) (count index : Nat)
    (values : List Value) :
    Action.Matches R (client.bindFrom r encoding statement count index values)
      (client'.bindFrom r encoding statement count index values) := by
  induction values generalizing index with
  | nil => exact .pure ()
  | cons value rest ih =>
    have hvalue : Action.Matches R (client.bindValue r encoding statement index value)
        (client'.bindValue r encoding statement index value) :=
      .bind (.ask hc _) fun _ => .bind (.require hc r _) fun _ => .bind (.ask hc _) fun _ =>
        .check hc r _
    have hrest := hvalue.bind fun _ => ih (index + 1)
    rw [Client.bindFrom, Client.bindFrom]
    split
    · exact .bind (.throw _) fun _ => hrest
    · exact hrest

theorem Matches.columnsFrom (statement : η) (index count : Nat) :
    Action.Matches R (client.columnsFrom r statement index count)
      (client'.columnsFrom r statement index count) := by
  induction count generalizing index with
  | zero => exact .pure []
  | succ count ih =>
    exact .bind (.ask hc _) fun _ => .bind (.require hc r _) fun _ => .bind (ih (index + 1))
      fun _ => .pure _

theorem Matches.columns (statement : η) :
    Action.Matches R (client.columns r statement) (client'.columns r statement) :=
  .bind (.ask hc _) fun _ => .bind (.require hc r _) fun _ => hc.columnsFrom r statement 0 _

theorem Matches.cellsFrom (encoding : Text.Encoding) (statement : η) (index : Nat)
    (columns : List ColumnInfo) :
    Action.Matches R (client.cellsFrom r encoding statement index columns)
      (client'.cellsFrom r encoding statement index columns) := by
  induction columns generalizing index with
  | nil => exact .pure []
  | cons column rest ih =>
    exact .bind (.ask hc _) fun _ => .bind (.require hc r _) fun _ => .bind (.ofExcept _) fun _ =>
      .bind (ih (index + 1)) fun _ => .pure _

end Statements

/-- One row after the other: whether there is one, its cells, and the rows behind it. -/
theorem rows_eq_bind (client : Client σ κ η) (r : Request κ) (encoding : Text.Encoding)
    (columns : List ColumnInfo) (statement : η) (s : σ) :
    client.rows r encoding columns statement s =
      (Action.ask client (.fetch statement) >>= fun (more : Bool) =>
        if more then
          client.cellsFrom r encoding statement 0 columns >>= fun row =>
            client.rows r encoding columns statement >>= fun rest => pure (row :: rest)
        else pure []) s := by
  rw [bind_apply, Action.ask, Client.rows]
  split
  · next h => rw [h]; rfl
  · next h =>
    rw [h]
    dsimp only
    rw [if_pos rfl, bind_apply]
    split
    · next hread => rw [hread]
    · next row t hread =>
      rw [hread]
      refine Eq.trans ?_ (bind_apply (client.rows r encoding columns statement)
        (fun rest => pure (row :: rest)) t).symm
      rcases client.rows r encoding columns statement t with ⟨fault | rest, u⟩
      · rfl
      · rfl

theorem Matches.rows (hc : client.Matches R client') (r : Request κ) (encoding : Text.Encoding)
    (columns : List ColumnInfo) (statement : η) :
    Action.Matches R (client.rows r encoding columns statement)
      (client'.rows r encoding columns statement) := by
  intro s s' hs
  -- each row that is read leaves fewer of them
  induction hn : client.pending statement s using Nat.strongRecOn generalizing s s' with
  | ind n ih =>
    rw [rows_eq_bind, rows_eq_bind]
    refine (Matches.ask hc _ s s' hs).bind fun more t t' hasked ht => ?_
    cases more with
    | false => exact Matches.pure [] t t' ht
    | true =>
      have hfewer := client.pending_fetch statement s (Except.ok.inj (congrArg Prod.fst hasked))
      rw [show (client.answer (.fetch statement) s).2 = t from congrArg Prod.snd hasked] at hfewer
      refine (hc.cellsFrom r encoding statement 0 columns t t' ht).bind fun row u u' hread hu => ?_
      have hleft := client.pending_cellsFrom r hread
      refine (ih _ ?_ u u' hu rfl).bind fun rest v v' _ hv => Matches.pure _ v v' hv
      omega

end Client

/-! ## Executions -/

namespace Execution

open Anywhere.Action

variable {R : σ → σ' → Prop} {client : Client σ κ η} {client' : Client σ' κ η}
  (hc : client.Matches R client') (r : Request κ)

theorem requireStatement_matches :
    Matches (Beside R) (requireStatement (σ := σ) (η := η) r) (requireStatement r) :=
  .bind .track fun e => match e.statement with
    | some statement => .pure statement
    | none => .throw _

include hc

theorem prepare_matches : Matches (Beside R) (prepare client r) (prepare client' r) :=
  .bind (.operate hc _) fun _ => .bind (.ofAction (.require hc r _)) fun _ => .update _

theorem bind_matches (encoding : Text.Encoding) (values : List Value) :
    Matches (Beside R) (bind client r encoding values) (bind client' r encoding values) :=
  .bind (requireStatement_matches r) fun statement =>
    .bind (.ofAction (hc.bindFrom r encoding statement _ 0 values)) fun _ => .update _

theorem execute_matches : Matches (Beside R) (execute client r) (execute client' r) :=
  .bind (requireStatement_matches r) fun _ => .bind (.operate hc _) fun _ =>
    .bind (.ofAction (.check hc r _)) fun _ => .update _

theorem fetch_matches (encoding : Text.Encoding) :
    Matches (Beside R) (fetch client r encoding) (fetch client' r encoding) :=
  .bind (requireStatement_matches r) fun statement =>
    .bind (.ofAction (hc.columns r statement)) fun columns => .bind (.update _) fun _ =>
      .bind (.ofAction (hc.rows r encoding columns statement)) fun _ => .pure _

theorem countAffected_matches :
    Matches (Beside R) (countAffected client r) (countAffected client' r) :=
  .bind (requireStatement_matches r) fun _ => .bind (.operate hc _) fun _ =>
    .bind (.ofAction (.require hc r _)) fun _ => .update _

theorem free_matches : Matches (Beside R) (free client) (free client') :=
  .bind .track fun e => match e.statement with
    | some _ => .bind (.operate hc _) fun _ => .update _
    | none => .pure ()

theorem finish_matches (autoCommit : Bool) :
    Matches (Beside R) (finish client r autoCommit) (finish client' r autoCommit) := by
  refine .bind (free_matches hc) fun _ => ?_
  cases autoCommit with
  | false => exact .pure ()
  | true =>
    exact .bind (.operate hc _) fun _ => .bind (.ofAction (.check hc r _)) fun _ => .update _

theorem abort_matches : Matches (Beside R) (abort client r) (abort client' r) :=
  .bind (.update _) fun _ => .bind (free_matches hc) fun _ => .bind (.operate hc _) fun _ =>
    .update _

theorem drive_matches (values : List Value) (options : RunOptions) :
    Matches (Beside R) (drive client r values options) (drive client' r values options) := by
  refine .bind (prepare_matches hc r) fun _ => .bind (bind_matches hc r _ values) fun _ =>
    .bind (execute_matches hc r) fun _ => ?_
  have hrest : ∀ result : ResultSet, Matches (Beside R)
      (do countAffected client r; finish client r options.autoCommit; pure result)
      (do countAffected client' r; finish client' r options.autoCommit; pure result) :=
    fun result => .bind (countAffected_matches hc r) fun _ => .bind (finish_matches hc r _) fun _ =>
      .pure result
  split
  · exact .bind (fetch_matches hc r _) hrest
  · exact .bind (.pure _) hrest

theorem run_matches (values : List Value) (options : RunOptions) :
    Matches (Beside R) (run client r values options) (run client' r values options) :=
  .bind (.tryCatch (drive_matches hc r values options) fun _ =>
    .bind (abort_matches hc r) fun _ => .throw _) fun _ => .bind .track fun _ => .pure _

end Execution

/-- **A run comes to the same with clients that answer alike.** -/
theorem Client.Matches.run {R : σ → σ' → Prop} {client : Client σ κ η} {client' : Client σ' κ η}
    (hc : client.Matches R client') (r : Request κ) (values : List Value) (options : RunOptions) :
    Action.Matches R (client.run r values options) (client'.run r values options) := by
  intro s s' hs
  have hrun := Execution.run_matches hc r values options (.idle, s) (.idle, s') ⟨rfl, hs⟩
  have hfree := Execution.free_matches hc _ _ hrun.2
  exact ⟨hrun.1, hfree.2.2⟩

/-! ## Sessions -/

namespace Session

open Anywhere.Action

variable {R : σ → σ' → Prop} {client : Client σ κ η} {client' : Client σ' κ η}
  (hc : client.Matches R client')

include hc

theorem run_matches (sql : String) (values : List Value) (fetchRows : Bool) :
    Matches (Beside R) (run client sql values fetchRows) (run client' sql values fetchRows) := by
  refine .bind .track fun session => ?_
  have hrest : Matches (Beside R)
      (do
        let outcome ← tryCatch
          (Operation.ofAction (client.run ⟨session.connection, sql⟩ values
            ⟨session.autoCommit, session.encoding, fetchRows⟩))
          fun fault => do
            Operation.update fun s : Session κ => { s with affectedRows := 0 }
            throw fault
        Operation.update fun s => { s with affectedRows := outcome.affectedRows }
        pure outcome)
      (do
        let outcome ← tryCatch
          (Operation.ofAction (client'.run ⟨session.connection, sql⟩ values
            ⟨session.autoCommit, session.encoding, fetchRows⟩))
          fun fault => do
            Operation.update fun s : Session κ => { s with affectedRows := 0 }
            throw fault
        Operation.update fun s => { s with affectedRows := outcome.affectedRows }
        pure outcome) :=
    .bind (.tryCatch (.ofAction (hc.run _ values _)) fun _ => .bind (.update _) fun _ => .throw _)
      fun _ => .bind (.update _) fun _ => .pure _
  split
  · exact .bind (.throw _) fun _ => hrest
  · exact hrest

theorem query_matches (sql : String) (values : List Value) :
    Matches (Beside R) (query client sql values) (query client' sql values) :=
  .map _ (run_matches hc sql values true)

end Session

end Anywhere
