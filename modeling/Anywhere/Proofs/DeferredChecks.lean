import Anywhere.Proofs.AnsweringClients
import Anywhere.Proofs.SentTexts

/-!
# Deferred checks are put back

What is done with deferred checks may fail, begin and end transactions, disconnect the session, or
defer checks itself. Whatever it is, it is done once, and behind it the setting is put back as it
was; `Session.deferringChecks_restores` tells what becomes of the result, the session and the
client.

That something is done once cannot be read off the record of the calls, as it may do without calls.
So there is a count next to the record, which goes up when the body is done and to which the body
has no access. With the session, the client and the record it may do whatever it likes.
-/

namespace Anywhere

open Anywhere.Action Anywhere.Operation

variable {σ κ η α : Type}

/-! ## Counting -/

/-- The calls, the latest first, and how often something was done. -/
abbrev Tally (κ η : Type) := List (Event κ η) × Nat

/-- The client with a record of its calls next to it, and a count that is none of its business. -/
def Client.tallied (client : Client σ κ η) : Client (σ × Tally κ η) κ η :=
  client.observed fun e tally => (e :: tally.1, tally.2)

theorem Client.tallied_matches (client : Client σ κ η) (n : Nat) :
    client.tallied.Matches (fun s t => s = (t.1, t.2, n)) client.recorded where
  reply := by
    rintro call _ ⟨t, log⟩ rfl
    rfl
  state := by
    rintro call _ ⟨t, log⟩ rfl
    rfl

namespace Session

/-- The state in which something was done `n` times. -/
def withCount (n : Nat) (p : Session κ × σ × List (Event κ η)) : Session κ × σ × Tally κ η :=
  (p.1, p.2.1, p.2.2, n)

/-- The body with its count, which it does not know of. -/
def counted (body : Step (σ × List (Event κ η)) κ α) : Step (σ × Tally κ η) κ α :=
  fun (session, s, log, n) =>
    let (result, p) := body (session, s, log)
    (result, withCount (n + 1) p)

section Tallied

variable (client : Client σ κ η) (n : Nat) (p : Session κ × σ × List (Event κ η))

theorem run_tallied (sql : String) (values : List Value) (fetchRows : Bool) :
    run client.tallied sql values fetchRows (withCount n p) =
      ((run client.recorded sql values fetchRows p).1,
        withCount n (run client.recorded sql values fetchRows p).2) := by
  obtain ⟨hresult, hsession, hstate⟩ := run_matches (client.tallied_matches n) sql values fetchRows
    (withCount n p) p ⟨rfl, rfl⟩
  exact Prod.ext hresult (Prod.ext hsession hstate)

theorem selectValue_tallied (sql : String) :
    selectValue client.tallied sql (withCount n p) =
      ((selectValue client.recorded sql p).1,
        withCount n (selectValue client.recorded sql p).2) := by
  simp only [selectValue, query, bind_apply, map_apply, run_tallied]
  rcases run client.recorded sql [] true p with ⟨_ | _, q⟩ <;> rfl

theorem setWaitForCommit_tallied (setting : String) :
    setWaitForCommit client.tallied setting (withCount n p) =
      ((setWaitForCommit client.recorded setting p).1,
        withCount n (setWaitForCommit client.recorded setting p).2) := by
  simp only [setWaitForCommit, execute, bind_apply, map_apply, run_tallied]
  rcases run client.recorded ("SET TEMPORARY OPTION wait_for_commit = " ++ setting) [] false p with
    ⟨_ | _, q⟩ <;> rfl

end Tallied

end Session

/-! ## The setting -/

theorem Text.eq_of_toLower_eq {c d : Char} (h : c.toLower = d) : c = d ∨ c = d.toUpper := by
  by_cases hcapital : c.val ≥ 'A'.val ∧ c.val ≤ 'Z'.val
  · have hall : ∀ code ≤ 90, Char.ofNat code = (Char.ofNat code).toLower ∨
        Char.ofNat code = (Char.ofNat code).toLower.toUpper := by
      decide
    have hc := hall c.toNat (UInt32.le_iff_toNat_le.mp hcapital.2)
    rw [Char.ofNat_toNat, h] at hc
    exact hc
  · have hself : c.toLower = c := dif_neg hcapital
    exact .inl (hself.symm.trans h)

theorem Text.eqIgnoringCase_on {s : String} :
    eqIgnoringCase s "on" = true ↔ s ∈ ["on", "oN", "On", "ON"] := by
  constructor
  · intro h
    rw [eqIgnoringCase_iff] at h
    obtain ⟨a, rest, hs, ha, h⟩ := List.map_eq_cons_iff.mp h
    obtain ⟨b, rest, rfl, hb, h⟩ := List.map_eq_cons_iff.mp h
    obtain rfl := List.map_eq_nil_iff.mp h
    obtain rfl := String.toList_injective (hs.trans (String.toList_ofList (l := [a, b])).symm)
    -- each of the letters has two forms
    rcases eq_of_toLower_eq ha with rfl | rfl <;> rcases eq_of_toLower_eq hb with rfl | rfl <;>
      decide
  · have hall : ∀ s ∈ ["on", "oN", "On", "ON"], eqIgnoringCase s "on" = true := by decide
    exact hall s

namespace Session

/-- Only the word `on` stands for the setting `ON`. -/
theorem waitForCommitSetting_eq (old : Option Value) :
    waitForCommitSetting old =
      if ∃ s ∈ ["on", "oN", "On", "ON"], old = some (.text s) then "ON" else "OFF" := by
  unfold waitForCommitSetting
  split
  · next s =>
    simp only [Text.eqIgnoringCase_on, Option.some.injEq, Value.text.injEq, exists_eq_right']
  · next h =>
    refine (if_neg ?_).symm
    rintro ⟨s, -, rfl⟩
    exact h s rfl

/-- Setting it is one statement of a session that is connected, and nothing at all of one that is
not. -/
theorem setWaitForCommit_makes (client : Client σ κ η) (setting : String)
    (p : Session κ × σ × List (Event κ η)) :
    Makes record (setWaitForCommit client.recorded setting) p fun calls _ _ =>
      sentTexts calls =
        if p.1.connected then ["SET TEMPORARY OPTION wait_for_commit = " ++ setting] else [] := by
  obtain ⟨session, s, log⟩ := p
  cases hconnected : session.connected with
  | false =>
    refine ⟨[], ?_, rfl⟩
    rw [setWaitForCommit, execute, bind_apply, map_apply, run_of_disconnected hconnected]
    rfl
  | true =>
    have hsends : Sends (setWaitForCommit client.recorded setting) fun texts _ =>
        texts = ["SET TEMPORARY OPTION wait_for_commit = " ++ setting] := by
      refine Sends.bind (.execute _) (fun texts n h => .pure ?_) fun texts fault h => h
      rw [h, List.append_nil]
    obtain ⟨calls, hrecord, htexts, -⟩ := hsends (session, s, log) hconnected
    exact ⟨calls, hrecord, htexts⟩

/-! ## The body and what comes behind it -/

theorem tryCatch_apply (x : Step σ κ α) (f : Fault → Step σ κ α) (p : Session κ × σ) :
    (tryCatch x f : Step σ κ α) p = match x p with
      | (.ok a, q) => (.ok a, q)
      | (.error fault, q) => f fault q := by
  change orElse x f p = _
  rw [orElse]
  rcases x p with ⟨_ | _, q⟩ <;> rfl

/-- The result, unless what came behind it failed. The failure that came first counts. -/
def unlessFailed : Except Fault α → Except Fault Unit → Except Fault α
  | .error fault, _ => .error fault
  | .ok _, .error fault => .error fault
  | .ok a, .ok () => .ok a

/-- With the setting known and enabled, the body is done, and the setting put back. -/
theorem deferringChecks_of_enabled {client : Client σ κ η} {body : Step σ κ α}
    {p q r : Session κ × σ} {old : Option Value}
    (hread : selectValue client waitForCommitQuery p = (.ok old, q))
    (henabled : setWaitForCommit client "ON" q = (.ok (), r)) :
    deferringChecks client body p =
      (unlessFailed (body r).1
          (setWaitForCommit client (waitForCommitSetting old) (body r).2).1,
        (setWaitForCommit client (waitForCommitSetting old) (body r).2).2) := by
  rw [deferringChecks, bind_apply, hread]
  dsimp only
  rw [bind_apply, henabled]
  dsimp only
  rw [bind_apply, tryCatch_apply]
  rcases body r with ⟨fault | a, t⟩
  · -- whatever becomes of the setting, the failure of the body is passed on
    dsimp only
    rw [bind_apply, tryCatch_apply]
    rcases setWaitForCommit client (waitForCommitSetting old) t with ⟨fault' | ⟨⟩, u⟩
    · rfl
    · rfl
  · dsimp only
    rw [bind_apply]
    rcases setWaitForCommit client (waitForCommitSetting old) t with ⟨fault | ⟨⟩, u⟩
    · rfl
    · rfl

/-- **Deferred checks are put back, whatever is done meanwhile.** If the setting cannot be read or
cannot be enabled, the body is not done. Otherwise it is done once, and behind it a session that is
still connected sends exactly one statement, which sets what was read before. A failure of the body
comes before a failure of that statement. -/
theorem deferringChecks_restores (client : Client σ κ η)
    (body : Step (σ × List (Event κ η)) κ α) (p : Session κ × σ × List (Event κ η)) :
    let made := deferringChecks client.tallied (counted body) (withCount 0 p)
    let read := selectValue client.recorded waitForCommitQuery p
    let enabled := setWaitForCommit client.recorded "ON" read.2
    let done := body enabled.2
    (∀ fault, read.1 = .error fault → made = (.error fault, withCount 0 read.2)) ∧
    ∀ old, read.1 = .ok old →
      (∀ fault, enabled.1 = .error fault → made = (.error fault, withCount 0 enabled.2)) ∧
      (enabled.1 = .ok () →
        let setting := if ∃ s ∈ ["on", "oN", "On", "ON"], old = some (.text s) then "ON" else "OFF"
        let restored := setWaitForCommit client.recorded setting done.2
        made = (unlessFailed done.1 restored.1, withCount 1 restored.2) ∧
        ∃ calls, record restored.2 = calls.reverse ++ record done.2 ∧ sentTexts calls =
          if done.2.1.connected then ["SET TEMPORARY OPTION wait_for_commit = " ++ setting]
          else []) := by
  intro made read enabled done
  have hread : selectValue client.tallied waitForCommitQuery (withCount 0 p) =
      (read.1, withCount 0 read.2) := selectValue_tallied client 0 p _
  have henabled : setWaitForCommit client.tallied "ON" (withCount 0 read.2) =
      (enabled.1, withCount 0 enabled.2) := setWaitForCommit_tallied client 0 read.2 "ON"
  refine ⟨fun fault hfails => ?_, fun old hold => ⟨fun fault hfails => ?_, fun hon => ?_⟩⟩
  · rw [hfails] at hread
    simp only [made, deferringChecks, bind_apply, hread]
  · rw [hold] at hread
    rw [hfails] at henabled
    simp only [made, deferringChecks, bind_apply, hread, henabled]
  · intro setting restored
    rw [hold] at hread
    rw [hon] at henabled
    have hbody : counted body (withCount 0 enabled.2) = (done.1, withCount 1 done.2) := rfl
    have hrestored : setWaitForCommit client.tallied (waitForCommitSetting old)
        (withCount 1 done.2) = (restored.1, withCount 1 restored.2) := by
      rw [waitForCommitSetting_eq]
      exact setWaitForCommit_tallied client 1 done.2 setting
    refine ⟨?_, setWaitForCommit_makes client setting done.2⟩
    simp only [made, deferringChecks_of_enabled hread henabled, hbody, hrestored]

/-- The setting is on, whatever is asked. -/
def answerOn (_sql : String) : Option Answer :=
  some ⟨[⟨"wait_for_commit", .varchar⟩], [[.text [79, 110]]]⟩

/-- Begins a transaction and fails. -/
def failing : Step (AnswerServer.State × List (Event Unit Unit)) Unit Unit := do
  beginTransaction
  throw (.argument .noColumns)

theorem deferringChecks_restores_failing :
    let client := AnswerServer.client answerOn
    let start := (AnswerServer.session, none, [])
    let made := deferringChecks client.tallied (counted failing) (withCount 0 start)
    let read := selectValue client.recorded waitForCommitQuery start
    let enabled := setWaitForCommit client.recorded "ON" read.2
    let done := failing enabled.2
    let restored := setWaitForCommit client.recorded "ON" done.2
    made = (.error (.argument .noColumns), withCount 1 restored.2) ∧
      ∃ calls, record restored.2 = calls.reverse ++ record done.2 ∧
        sentTexts calls = ["SET TEMPORARY OPTION wait_for_commit = ON"] := by
  intro client start made read enabled done restored
  have hread : read.1 = .ok (some (.text "On")) := by decide +kernel
  have henabled : enabled.1 = .ok () := by decide +kernel
  have hmade := ((deferringChecks_restores client failing start).2 _ hread).2 henabled
  have hon : ∃ s ∈ ["on", "oN", "On", "ON"], some (Value.text "On") = some (.text s) :=
    ⟨"On", by decide, rfl⟩
  rw [if_pos hon] at hmade
  obtain ⟨hresult, calls, hrecord, hsent⟩ := hmade
  have hconnected : done.2.1.connected = true := by decide +kernel
  have htext : "SET TEMPORARY OPTION wait_for_commit = " ++ "ON" =
      "SET TEMPORARY OPTION wait_for_commit = ON" := by decide +kernel
  refine ⟨hresult, calls, hrecord, hsent.trans ?_⟩
  rw [if_pos hconnected, htext]

end Session

end Anywhere
