import Anywhere.Proofs.SessionRun

/-!
# Which texts a session sends

A server is told what to do by the texts that are sent to it to be prepared, and a statement of a
session sends one text, whatever comes of it: `Execution.Course.sentTexts_eq` says so for each of
the courses that a run can take. A session without a connection sends none.

`Session.Sends` is about steps of a session that run statements and do nothing else. It relates the
texts that a step sends to what comes of it, and its rules follow the way in which steps are put
together, so that the texts of an operation can be read off its definition.
-/

namespace Anywhere

open Anywhere.Action Anywhere.Operation

variable {σ κ η α β : Type}

namespace Event

/-- The text that a call sends to be prepared. -/
def sent? : Event κ η → Option String
  | ⟨.prepare _ sql, _⟩ => some sql
  | _ => none

theorem Quiet.sent? {statement : η} {e : Event κ η} (h : Quiet statement e) : sent? e = none := by
  obtain ⟨call, reply⟩ := e
  cases call <;> first | rfl | exact h.elim

end Event

/-- The texts that the calls send to be prepared, in order. -/
def sentTexts (calls : List (Event κ η)) : List String := calls.filterMap Event.sent?

@[simp] theorem sentTexts_nil : sentTexts ([] : List (Event κ η)) = [] := rfl

@[simp] theorem sentTexts_append (calls more : List (Event κ η)) :
    sentTexts (calls ++ more) = sentTexts calls ++ sentTexts more :=
  List.filterMap_append

/-- **A run sends its text once,** also if it fails. -/
theorem Execution.Course.sentTexts_eq {r : Request κ} {autoCommit succeeded : Bool}
    {calls : List (Event κ η)} (h : Course r autoCommit calls succeeded) :
    sentTexts calls = [r.sql] := by
  cases h with
  | refused report reply => rfl
  | broken reply hquiet => exact filterMap_work Event.Quiet.sent? hquiet _
  | uncommitted report reply hquiet => exact filterMap_work Event.Quiet.sent? hquiet _
  | committed hquiet => exact filterMap_work Event.Quiet.sent? hquiet _
  | pending hquiet => exact filterMap_work Event.Quiet.sent? hquiet _

namespace Session

/-- A statement of a connected session is one run, and of the session it changes nothing but the
number of affected rows. -/
theorem run_makes_course (client : Client σ κ η) (sql : String) (values : List Value)
    (fetchRows : Bool) {p : Session κ × σ × List (Event κ η)} (h : p.1.connected = true) :
    Makes record (run client.recorded sql values fetchRows) p fun calls result q =>
      Execution.Course ⟨p.1.connection, sql⟩ p.1.autoCommit calls result.isOk ∧
        q.1 = { p.1 with affectedRows := q.1.affectedRows } := by
  obtain ⟨session, s, log⟩ := p
  obtain ⟨calls, hrecord, hcourse⟩ := client.run_course ⟨session.connection, sql⟩ values
    (session.options fetchRows) s log
  unfold Makes
  rw [run_of_connected h]
  exact ⟨calls, hrecord, hcourse, rfl⟩

/-- In a connected session, the texts that the step sends and what comes of it are related by `P`,
and the session stays connected. -/
def Sends (x : Step (σ × List (Event κ η)) κ α) (P : List String → Except Fault α → Prop) : Prop :=
  ∀ p, p.1.connected = true →
    Makes record x p fun calls result q => P (sentTexts calls) result ∧ q.1.connected = true

namespace Sends

variable {client : Client σ κ η} {x : Step (σ × List (Event κ η)) κ α}
  {f : α → Step (σ × List (Event κ η)) κ β} {P : List String → Except Fault α → Prop}
  {Q : List String → Except Fault β → Prop}

theorem pure {a : α} (h : P [] (.ok a)) : Sends (pure a : Step (σ × List (Event κ η)) κ α) P :=
  fun _ hconnected => .pure ⟨h, hconnected⟩

theorem throw {fault : Fault} (h : P [] (.error fault)) :
    Sends (throw fault : Step (σ × List (Event κ η)) κ α) P :=
  fun _ hconnected => .throw ⟨h, hconnected⟩

theorem bind (hx : Sends x P)
    (hok : ∀ texts a, P texts (.ok a) → Sends (f a) fun more result => Q (texts ++ more) result)
    (herror : ∀ texts fault, P texts (.error fault) → Q texts (.error fault)) :
    Sends (x >>= f) Q := by
  intro p hconnected
  refine Makes.bind (hx p hconnected) (fun calls a q hP => ?_) fun calls fault q hP => ?_
  · obtain ⟨more, hrecord, hQ, hstill⟩ := hok _ a hP.1 q hP.2
    exact ⟨more, hrecord, by rwa [sentTexts_append], hstill⟩
  · exact ⟨herror _ fault hP.1, hP.2⟩

theorem map {g : α → β} (hx : Sends x fun texts result => Q texts (result.map g)) :
    Sends (g <$> x) Q := by
  rw [map_eq_pure_bind]
  refine hx.bind (fun texts a h => .pure ?_) fun texts fault h => h
  rw [List.append_nil]
  exact h

theorem mono {P' : List String → Except Fault α → Prop} (hx : Sends x P)
    (h : ∀ texts result, P texts result → P' texts result) : Sends x P' := by
  intro p hconnected
  obtain ⟨calls, hrecord, hP, hstill⟩ := hx p hconnected
  exact ⟨calls, hrecord, h _ _ hP, hstill⟩

/-- A loop that succeeds sends one text for each of its results, if every turn does. -/
theorem mapM {text : β → String}
    (hturn : ∀ a, Sends (f a) fun texts result => ∀ b, result = .ok b → texts = [text b])
    (items : List α) :
    Sends (items.mapM f) fun texts result =>
      ∀ results, result = .ok results → texts = results.map text := by
  induction items with
  | nil => exact .pure (by rintro _ ⟨⟩; rfl)
  | cons a rest ih =>
    rw [List.mapM_cons]
    refine (hturn a).bind (fun texts b hfirst => ?_) fun texts fault _ results h => nomatch h
    refine ih.bind (fun more others hrest => ?_) fun more fault _ results h => nomatch h
    refine .pure ?_
    rintro _ ⟨⟩
    rw [hfirst b rfl, hrest others rfl, List.append_nil]
    rfl

/-- A statement sends its text. -/
theorem run (sql : String) (values : List Value) (fetchRows : Bool) :
    Sends (run client.recorded sql values fetchRows) fun texts _ => texts = [sql] := by
  intro p hconnected
  obtain ⟨calls, hrecord, hcourse, hsession⟩ :=
    run_makes_course client sql values fetchRows hconnected
  refine ⟨calls, hrecord, hcourse.sentTexts_eq, ?_⟩
  rw [hsession]
  exact hconnected

theorem query (sql : String) (values : List Value) :
    Sends (query client.recorded sql values) fun texts _ => texts = [sql] :=
  .map (.run sql values true)

theorem execute (sql : String) :
    Sends (execute client.recorded sql) fun texts _ => texts = [sql] :=
  .map (.run sql [] false)

end Sends

end Session

end Anywhere
